import NjsModbus.Slave.Handlers
import NjsModbus.Slave.DeviceIdentification

/-!
# `ModbusSlave`: the registered models and the `'framing'` listener

The server keeps its models in a `Map` from unit to model (`add` files a model under
`model.unit ?? 1`). Its `'framing'` listener ignores a frame whose unit is neither `0` nor
registered; otherwise it runs, for every model of a broadcast or for the one model of the unit,
`intercept(model)` and then, unless the interceptor answered, `handleFC(model)`.

The handlers answer through `response`, which for a broadcast returns at once: the transport's
reply closure `_response` receives the buffers of a unicast frame only (`transportReplies`).

* `dispatchModel_calls`: the calls a model receives depend on the frame's code and data alone,
  over every path of the interceptor and of the twelve handlers, whatever the encoder does;
* `dispatch_broadcast`: so a broadcast runs every registered model as the same request
  addressed to it would, and the transport receives nothing;
* `dispatch_run`: over any run of `add` and `remove`, a unicast frame goes to the model the
  last call about its unit left.
-/

namespace NjsModbus

namespace ModbusSlave

variable (encode : ApplicationDataUnit → Option (List Nat))

/-- `intercept(model)`: the run of the interceptor, and whether it answered (`'break'`). Data it
returns (any array, even an empty one, is truthy) is the response's data; a throw or a rejection
of the interceptor, or of the `encode` of that response, is answered with an exception. A
`responseError` that throws rejects `intercept`, so `handleFC` never runs. -/
def intercept (model : ModbusSlaveModel) (frame : ApplicationDataUnit) : Run × Bool :=
  match model.interceptor with
  | none => ({}, false)
  | some interceptor =>
    let called : Run := { calls := [.interceptor frame.fc frame.data] }
    match interceptor frame.fc frame.data with
    | .value none => (called, false)
    | .value (some data) =>
      (called.append (Run.respond (match encodeWith encode frame data with
        | .ok bytes => .ok bytes
        | .error e => responseError encode frame e)), true)
    | .rejects e | .throws e => (called.append (Run.respond (responseError encode frame e)), true)

/-- `handleFC(model)`: the `switch (frame.fc)`. -/
def handleFC (model : ModbusSlaveModel) (frame : ApplicationDataUnit) : Run :=
  match frame.fc with
  | 0x01 => handleFC1 encode model frame
  | 0x02 => handleFC2 encode model frame
  | 0x03 => handleFC3 encode model frame
  | 0x04 => handleFC4 encode model frame
  | 0x05 => handleFC5 encode model frame
  | 0x06 => handleFC6 encode model frame
  | 0x0f => handleFC15 encode model frame
  | 0x10 => handleFC16 encode model frame
  | 0x11 => handleFC17 encode model frame
  | 0x16 => handleFC22 encode model frame
  | 0x17 => handleFC23 encode model frame
  | 0x2b => handleFC43_14 encode model frame
  | _ => exception encode frame .ILLEGAL_FUNCTION

/-- `intercept(model).then((res) => { if (res !== 'break') handleFC(model) })`. -/
def dispatchModel (model : ModbusSlaveModel) (frame : ApplicationDataUnit) : Run :=
  match intercept encode model frame with
  | (run, true) => run
  | (run, false) => run.append (handleFC encode model frame)

end ModbusSlave

/-- A `ModbusSlave`'s `models`: a `Map` from unit to model, as its entries in insertion order,
whose keys are distinct. -/
structure ModbusSlave where
  models : List (Nat × ModbusSlaveModel)
  nodup : (models.map (·.1)).Nodup

namespace ModbusSlave

/-- A new server: `models = new Map()`. -/
def empty : ModbusSlave := ⟨[], List.nodup_nil⟩

/-- `add(model)`: `models.set(model.unit ?? 1, model)`. -/
def add (slave : ModbusSlave) (model : ModbusSlaveModel) : ModbusSlave :=
  ⟨mapSet slave.models (model.unit.getD 1) model, nodup_keys_mapSet slave.nodup _ _⟩

/-- `remove(unit)`: `models.delete(unit)`. -/
def remove (slave : ModbusSlave) (unit : Nat) : ModbusSlave :=
  ⟨slave.models.filter (·.1 ≠ unit), slave.nodup.sublist ((List.filter_sublist _).map _)⟩

variable (encode : ApplicationDataUnit → Option (List Nat))

/-- The `'framing'` listener: the models a frame goes to, each with the unit it is filed under
and its run. A broadcast goes to every model, a unicast frame to the model of its unit. -/
def dispatch (slave : ModbusSlave) (frame : ApplicationDataUnit) : List (Nat × Run) :=
  if frame.unit = 0x00 then slave.models.map fun (unit, model) => (unit, dispatchModel encode model frame)
  else
    match slave.models.lookup frame.unit with
    | some model => [(frame.unit, dispatchModel encode model frame)]
    | none => []

/-- `response(data)`: what one call passes to the transport's reply closure `_response`. -/
def response (frame : ApplicationDataUnit) (data : List Nat) : List (List Nat) :=
  if frame.unit = 0x00 then [] else [data]

/-- Every buffer the transport's reply closure receives for a frame. -/
def transportReplies (slave : ModbusSlave) (frame : ApplicationDataUnit) : List (List Nat) :=
  (dispatch encode slave frame).flatMap fun (_, run) => run.replies.flatMap (response frame)

section Unicast

variable {encode : ApplicationDataUnit → Option (List Nat)}

/-- A unicast frame goes to the model of its unit alone. -/
theorem dispatch_unicast {slave : ModbusSlave} {frame : ApplicationDataUnit} {model : ModbusSlaveModel}
    (hu : frame.unit ≠ 0) (hm : slave.models.lookup frame.unit = some model) :
    slave.dispatch encode frame = [(frame.unit, dispatchModel encode model frame)] := by
  simp [dispatch, hu, hm]

/-- What the reply closure receives for a unicast frame: every buffer its model sent. -/
theorem transportReplies_unicast {slave : ModbusSlave} {frame : ApplicationDataUnit}
    {model : ModbusSlaveModel} (hu : frame.unit ≠ 0) (hm : slave.models.lookup frame.unit = some model) :
    slave.transportReplies encode frame = (dispatchModel encode model frame).replies := by
  have hresponse : ∀ l : List (List Nat), l.flatMap (response frame) = l := fun l => by
    induction l with
    | nil => rfl
    | cons x l ih => simp [response, hu, ih]
  simp [transportReplies, dispatch_unicast hu hm, hresponse]

/-- With no interceptor, a model's run is its handler's. -/
theorem dispatchModel_of_interceptor {model : ModbusSlaveModel} (h : model.interceptor = none)
    (frame : ApplicationDataUnit) : dispatchModel encode model frame = handleFC encode model frame := by
  simp [dispatchModel, intercept, h, Run.append]

end Unicast

/-! ## What a model is called with

The calls a model receives for a frame depend on the frame's code and data alone: no handler,
and no interceptor, reads the frame's unit, or what the encoder makes of a response, before it
calls the model. One lemma per handler family, then the `switch` and `intercept`.
-/

section Calls

variable {encode encode' : ApplicationDataUnit → Option (List Nat)} {frame frame' : ApplicationDataUnit}

@[simp] theorem exception_calls (code : ErrorCode) : (exception encode frame code).calls = [] :=
  Run.respond_calls _

theorem handleRead_calls {α : Type} (read : Option (Nat → Nat → CallbackResult α)) (call : Nat → Nat → Call)
    (maxLength : Nat) (range : Option AddressRange) (respond : Nat → α → Except Error (List Nat))
    (hd : frame'.data = frame.data) :
    (handleRead encode' read call maxLength range respond frame').calls =
      (handleRead encode read call maxLength range respond frame).calls := by
  cases read <;> simp only [handleRead, hd] <;> split_ifs <;> simp

theorem handleWriteSingle_calls {α : Type} (write : Option (Nat → α → CallbackResult Unit))
    (call : Nat → α → Call) (valid : Nat → Bool) (convert : Nat → α) (range : Option AddressRange)
    (hd : frame'.data = frame.data) :
    (handleWriteSingle encode' write call valid convert range frame').calls =
      (handleWriteSingle encode write call valid convert range frame).calls := by
  cases write <;> simp only [handleWriteSingle, hd] <;> split_ifs <;> simp

theorem handleWriteMultiple_calls {α : Type} (write : Option (Nat → List α → Action Unit)) (maxLength : Nat)
    (byteCountOf : Nat → Nat) (values : List Nat → Nat → List α) (range : Option AddressRange)
    (hd : frame'.data = frame.data) :
    (handleWriteMultiple encode' write maxLength byteCountOf values range frame').calls =
      (handleWriteMultiple encode write maxLength byteCountOf values range frame).calls := by
  cases write <;> simp only [handleWriteMultiple, hd] <;> split_ifs <;> simp

theorem handleFC17_calls (model : ModbusSlaveModel) (hd : frame'.data = frame.data) :
    (handleFC17 encode' model frame').calls = (handleFC17 encode model frame).calls := by
  rcases hr : model.reportServerId with _ | _ <;> simp only [handleFC17, hd, hr] <;> split_ifs <;> simp

theorem handleFC22_calls (model : ModbusSlaveModel) (hd : frame'.data = frame.data) :
    (handleFC22 encode' model frame').calls = (handleFC22 encode model frame).calls := by
  rcases hw : maskWrite model with _ | _ <;> simp only [handleFC22, hd, hw] <;> split_ifs <;> simp

theorem handleFC23_calls (model : ModbusSlaveModel) (hd : frame'.data = frame.data) :
    (handleFC23 encode' model frame').calls = (handleFC23 encode model frame).calls := by
  rcases hr : model.readHoldingRegisters with _ | _ <;>
    rcases hw : writeMultiple model.writeMultipleRegisters Call.writeMultipleRegisters
      model.writeSingleRegister Call.writeSingleRegister with _ | _ <;>
    simp only [handleFC23, hd, hr, hw] <;> split_ifs <;> simp

theorem handleFC43_14_calls (model : ModbusSlaveModel) (hd : frame'.data = frame.data) :
    (handleFC43_14 encode' model frame').calls = (handleFC43_14 encode model frame).calls := by
  rcases hr : model.readDeviceIdentification with _ | _ <;>
    rcases hs : startObjectId (frame.data.getD 1 0) (frame.data.getD 2 0) with _ | _ <;>
    rcases hb : frame.data.getD 0 0 == 0x0e with _ | _ <;>
    simp only [handleFC43_14, hd, hr, hs, hb] <;> split_ifs <;> simp

/-- What the `switch (frame.fc)` calls depends on the frame's code and data alone. -/
theorem handleFC_calls (model : ModbusSlaveModel) (hfc : frame'.fc = frame.fc)
    (hd : frame'.data = frame.data) :
    (handleFC encode' model frame').calls = (handleFC encode model frame).calls := by
  simp only [handleFC, hfc]
  split
  · exact handleRead_calls _ _ _ _ _ hd
  · exact handleRead_calls _ _ _ _ _ hd
  · exact handleRead_calls _ _ _ _ _ hd
  · exact handleRead_calls _ _ _ _ _ hd
  · exact handleWriteSingle_calls _ _ _ _ _ hd
  · exact handleWriteSingle_calls _ _ _ _ _ hd
  · exact handleWriteMultiple_calls _ _ _ _ _ hd
  · exact handleWriteMultiple_calls _ _ _ _ _ hd
  · exact handleFC17_calls model hd
  · exact handleFC22_calls model hd
  · exact handleFC23_calls model hd
  · exact handleFC43_14_calls model hd
  · simp

/-- The interceptor is called with the frame's code and data, and whether it answered does not
depend on the encoder. -/
theorem intercept_calls (model : ModbusSlaveModel) (hfc : frame'.fc = frame.fc)
    (hd : frame'.data = frame.data) :
    (intercept encode' model frame').1.calls = (intercept encode model frame).1.calls ∧
      (intercept encode' model frame').2 = (intercept encode model frame).2 := by
  simp only [intercept, hfc, hd]
  split
  · exact ⟨rfl, rfl⟩
  · split <;> simp [Run.append]

/-- A model's run calls it with what the frame's code and data decide, whatever the frame's unit
and the encoder. -/
theorem dispatchModel_calls (model : ModbusSlaveModel) (hfc : frame'.fc = frame.fc)
    (hd : frame'.data = frame.data) :
    (dispatchModel encode' model frame').calls = (dispatchModel encode model frame).calls := by
  obtain ⟨hcalls, hbreak⟩ := @intercept_calls encode encode' frame frame' model hfc hd
  have hhandle := @handleFC_calls encode encode' frame frame' model hfc hd
  unfold dispatchModel
  revert hcalls hbreak
  generalize intercept encode' model frame' = i'
  generalize intercept encode model frame = i
  obtain ⟨run', _ | _⟩ := i' <;> obtain ⟨run, _ | _⟩ := i <;> simp +contextual [Run.append, hhandle]

end Calls

/-- A broadcast goes to every registered model, whatever its interceptor and its callbacks do.
Each model's interceptor and handler run on it as on the same request addressed to the model's
own unit, calling the model with the same callbacks and arguments; and the transport's reply
closure receives nothing of what they answer. -/
theorem dispatch_broadcast (slave : ModbusSlave) {frame : ApplicationDataUnit} (h : frame.unit = 0x00) :
    slave.dispatch encode frame =
      slave.models.map (fun (unit, model) => (unit, dispatchModel encode model frame)) ∧
    (∀ p ∈ slave.models,
      (dispatchModel encode p.2 frame).calls = (dispatchModel encode p.2 { frame with unit := p.1 }).calls) ∧
    slave.transportReplies encode frame = [] :=
  ⟨by simp [dispatch, h], fun p _ => dispatchModel_calls p.2 rfl rfl,
    by simp [transportReplies, response, h]⟩

/-- A server with a model on unit `1` that writes registers, and one on unit `2` whose
interceptor answers every frame. -/
def writerAndInterceptor : ModbusSlave :=
  (empty.add { writeMultipleRegisters := some fun _ _ => .value () }).add
    { unit := some 2, interceptor := some fun _ _ => .value (some [0]) }

/-- `dispatch_broadcast` at a Write Multiple Registers broadcast to `writerAndInterceptor`. -/
theorem dispatch_broadcast_writeMultipleRegisters :
    ({ unit := 0, fc := 0x10, data := [0, 0, 0, 1, 2, 0, 7] } : ApplicationDataUnit).unit = 0x00 ∧
    writerAndInterceptor.dispatch (fun adu => some adu.bytes) { unit := 0, fc := 0x10, data := [0, 0, 0, 1, 2, 0, 7] } =
      writerAndInterceptor.models.map (fun (unit, model) =>
        (unit, dispatchModel (fun adu => some adu.bytes) model
          { unit := 0, fc := 0x10, data := [0, 0, 0, 1, 2, 0, 7] })) ∧
    (∀ p ∈ writerAndInterceptor.models,
      (dispatchModel (fun adu => some adu.bytes) p.2 { unit := 0, fc := 0x10, data := [0, 0, 0, 1, 2, 0, 7] }).calls =
        (dispatchModel (fun adu => some adu.bytes) p.2
          { ({ unit := 0, fc := 0x10, data := [0, 0, 0, 1, 2, 0, 7] } : ApplicationDataUnit) with unit := p.1 }).calls) ∧
    writerAndInterceptor.transportReplies (fun adu => some adu.bytes)
      { unit := 0, fc := 0x10, data := [0, 0, 0, 1, 2, 0, 7] } = [] :=
  ⟨rfl, dispatch_broadcast (fun adu => some adu.bytes) writerAndInterceptor rfl⟩

/-- Both models are called: the writer with the registers, the other through its interceptor. -/
example :
    (writerAndInterceptor.dispatch (fun adu => some adu.bytes)
      { unit := 0, fc := 0x10, data := [0, 0, 0, 1, 2, 0, 7] }).map (·.2.calls) =
      [[.writeMultipleRegisters 0 [7]], [.interceptor 0x10 [0, 0, 0, 1, 2, 0, 7]]] := by
  decide

/-- Read Holding Registers of one register at address `0`, to a unit whose model's callback
throws before returning or rejects with an error whose code does not fit a byte: the model is
called, the error escapes its handler, and the transport's reply closure receives nothing. -/
theorem readHoldingRegisters_unanswered :
    (⟨[(1, { readHoldingRegisters := some fun _ _ => .throws ⟨"busy"⟩ })], by decide⟩ :
        ModbusSlave).dispatch encode { unit := 1, fc := 0x03, data := [0, 0, 0, 1] } =
      [(1, { calls := [.readHoldingRegisters 0 1], escaped := some ⟨"busy"⟩ })] ∧
    (⟨[(1, { readHoldingRegisters := some fun _ _ => .throws ⟨"busy"⟩ })], by decide⟩ :
        ModbusSlave).transportReplies encode { unit := 1, fc := 0x03, data := [0, 0, 0, 1] } = [] ∧
    (⟨[(1, { readHoldingRegisters := some fun _ _ => .rejects ⟨"MODBUS_ERROR_CODE_300"⟩ })],
        by decide⟩ : ModbusSlave).dispatch encode { unit := 1, fc := 0x03, data := [0, 0, 0, 1] } =
      [(1, { calls := [.readHoldingRegisters 0 1], escaped := some rangeError })] ∧
    (⟨[(1, { readHoldingRegisters := some fun _ _ => .rejects ⟨"MODBUS_ERROR_CODE_300"⟩ })],
        by decide⟩ : ModbusSlave).transportReplies encode
        { unit := 1, fc := 0x03, data := [0, 0, 0, 1] } = [] := by
  have hthrows : handleRead encode (some fun _ _ => .throws ⟨"busy"⟩) Call.readHoldingRegisters
      0x007d none registersResponse { unit := 1, fc := 0x03, data := [0, 0, 0, 1] } =
      { calls := [.readHoldingRegisters 0 1], escaped := some ⟨"busy"⟩ } :=
    handleRead_of_throws encode (by rfl) (by rfl) (by rfl) (by decide) (by rfl) (by rfl)
  have hrejects : handleRead encode (some fun _ _ => .rejects ⟨"MODBUS_ERROR_CODE_300"⟩)
      Call.readHoldingRegisters 0x007d none registersResponse
      { unit := 1, fc := 0x03, data := [0, 0, 0, 1] } =
      { calls := [.readHoldingRegisters 0 1], escaped := some rangeError } :=
    handleRead_of_rejects encode (by rfl) (by rfl) (by rfl) (by decide) (by rfl) (by rfl) (by decide)
  simp [transportReplies_unicast, dispatch_unicast, dispatchModel_of_interceptor, handleFC, handleFC3,
    ModbusSlaveModel.range, hthrows, hrejects]

/-! ## The models over a run of host calls -/

/-- A host's call on the server's models. -/
inductive ModelOp where
  | add (model : ModbusSlaveModel)
  | remove (unit : Nat)

/-- The server after one call. -/
def perform (slave : ModbusSlave) : ModelOp → ModbusSlave
  | .add model => slave.add model
  | .remove unit => slave.remove unit

/-- The call is about `unit`: an `add` of a model filed under it, or its `remove`. -/
def ModelOp.names (unit : Nat) : ModelOp → Bool
  | .add model => model.unit.getD 1 = unit
  | .remove u => u = unit

/-- The model an `add` files, none for a `remove`. -/
def ModelOp.model : ModelOp → Option ModbusSlaveModel
  | .add model => some model
  | .remove _ => none

/-- Spec side: the model a unit has after a run of host calls. The last call about the unit
decides: an `add` leaves its model, a `remove` none; with no such call there is none. -/
def registered (ops : List ModelOp) (unit : Nat) : Option ModbusSlaveModel :=
  (ops.reverse.find? (ModelOp.names unit)).bind ModelOp.model

/-- `Map.get` on an entry list. -/
theorem lookup_cons_pair {β : Type} (k : Nat) (v : β) (l : List (Nat × β)) (unit : Nat) :
    ((k, v) :: l).lookup unit = if k = unit then some v else l.lookup unit := by
  by_cases h : k = unit
  · subst h; simp [List.lookup]
  · have hbeq : (unit == k) = false := by simpa using Ne.symm h
    simp [List.lookup, hbeq, h]

/-- `get` on entries appended: the first list's entry, else the second's. -/
theorem lookup_append_pair {β : Type} (m l : List (Nat × β)) (unit : Nat) :
    (m ++ l).lookup unit = (m.lookup unit).or (l.lookup unit) := by
  induction m with
  | nil => rfl
  | cons e rest ih => obtain ⟨k, v⟩ := e; by_cases h : k = unit <;> simp [lookup_cons_pair, h, ih]

/-- A key no entry has: `get` finds nothing. -/
theorem lookup_eq_none_of_any {β : Type} {m : List (Nat × β)} {key : Nat}
    (h : ¬ m.any (·.1 = key)) : m.lookup key = none := by
  induction m with
  | nil => rfl
  | cons e rest ih =>
    obtain ⟨k, v⟩ := e
    simp only [List.any_cons, Bool.or_eq_true, decide_eq_true_eq, not_or] at h
    simp [lookup_cons_pair, h.1, ih h.2]

/-- Re-setting the entries of another key leaves `get` alone. -/
theorem lookup_map_set_ne {β : Type} (m : List (Nat × β)) {key unit : Nat} (value : β) (hk : key ≠ unit) :
    (m.map fun e => if e.1 = key then (key, value) else e).lookup unit = m.lookup unit := by
  induction m with
  | nil => rfl
  | cons e rest ih =>
    obtain ⟨k, v⟩ := e
    by_cases he : k = key
    · subst he; simp [lookup_cons_pair, hk, ih]
    · simp [lookup_cons_pair, he, ih]

/-- Re-setting the entries of a present key makes `get` of it the new value. -/
theorem lookup_map_set_eq {β : Type} {m : List (Nat × β)} {key : Nat} (value : β) (h : m.any (·.1 = key)) :
    (m.map fun e => if e.1 = key then (key, value) else e).lookup key = some value := by
  induction m with
  | nil => cases h
  | cons e rest ih =>
    obtain ⟨k, v⟩ := e
    by_cases he : k = key
    · subst he; simp [lookup_cons_pair]
    · simp only [List.any_cons, he, decide_False, Bool.false_or] at h; simp [lookup_cons_pair, he, ih h]

/-- `Map.set` makes `get` of its key the new value and leaves every other key alone. -/
theorem lookup_mapSet {β : Type} (m : List (Nat × β)) (key unit : Nat) (value : β) :
    (mapSet m key value).lookup unit = if key = unit then some value else m.lookup unit := by
  unfold mapSet
  by_cases hk : key = unit
  · subst hk
    split
    · simp [lookup_map_set_eq value ‹_›]
    · simp [lookup_append_pair, lookup_eq_none_of_any ‹_›]
  · split
    · simp [lookup_map_set_ne m value hk, hk]
    · simp [lookup_append_pair, lookup_cons_pair, hk]

/-- `Map.delete` empties its key and leaves every other key alone. -/
theorem lookup_filter_ne {β : Type} (m : List (Nat × β)) (u unit : Nat) :
    (m.filter (·.1 ≠ u)).lookup unit = if u = unit then none else m.lookup unit := by
  induction m with
  | nil => simp [List.lookup]
  | cons e rest ih =>
    obtain ⟨k, v⟩ := e
    by_cases he : k = u
    · subst he
      rw [List.filter_cons_of_neg (by simp), ih, lookup_cons_pair]
      by_cases hk : k = unit <;> simp [hk]
    · rw [List.filter_cons_of_pos (by simpa using he), lookup_cons_pair, lookup_cons_pair, ih]
      by_cases hk : k = unit
      · subst hk; simp [Ne.symm he]
      · simp [hk]

/-- One host call decides its unit's model and leaves the other units' alone. -/
theorem lookup_perform (slave : ModbusSlave) (op : ModelOp) (unit : Nat) :
    (perform slave op).models.lookup unit =
      if op.names unit then op.model else slave.models.lookup unit := by
  cases op with
  | add model => simp [perform, add, ModelOp.names, ModelOp.model, lookup_mapSet]
  | remove u =>
    show (slave.models.filter (·.1 ≠ u)).lookup unit = _
    rw [lookup_filter_ne]
    by_cases hu : u = unit <;> simp [ModelOp.names, ModelOp.model, hu]

/-- After any run of host calls from a new server, the `Map` holds under each unit the model of
the last call about it: the model last added under it, unless a later `remove` dropped it. -/
theorem lookup_models_run (ops : List ModelOp) (unit : Nat) :
    (ops.foldl perform empty).models.lookup unit = registered ops unit := by
  induction ops using List.reverseRecOn with
  | nil => rfl
  | append_singleton ops op ih =>
    rw [List.foldl_append, List.foldl_cons, List.foldl_nil, lookup_perform, ih]
    by_cases hop : op.names unit <;> simp [registered, List.find?_cons, hop]

/-- So a unicast frame, after any run of host calls, goes to the model last added under its
unit, or to none when there is none. -/
theorem dispatch_run {frame : ApplicationDataUnit} (hu : frame.unit ≠ 0) (ops : List ModelOp) :
    (ops.foldl perform empty).dispatch encode frame =
      (registered ops frame.unit).toList.map fun model => (frame.unit, dispatchModel encode model frame) := by
  simp only [dispatch, hu, if_false, lookup_models_run]
  cases registered ops frame.unit <;> rfl

theorem dispatch_run_addThenRemove :
    (1 : Nat) ≠ 0 ∧
      ([.add {}, .add { unit := some 2 }, .remove 2].foldl perform empty).dispatch (fun adu => some adu.bytes)
          { unit := 1, fc := 3, data := [0, 0, 0, 1] } =
        (registered [.add {}, .add { unit := some 2 }, .remove 2] 1).toList.map fun model =>
          (1, dispatchModel (fun adu => some adu.bytes) model { unit := 1, fc := 3, data := [0, 0, 0, 1] }) :=
  ⟨by decide, @dispatch_run (fun adu => some adu.bytes) { unit := 1, fc := 3, data := [0, 0, 0, 1] }
    (by decide) _⟩

end ModbusSlave

end NjsModbus
