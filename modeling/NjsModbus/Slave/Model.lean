import NjsModbus.ErrorCode
import NjsModbus.Coils

/-!
# The server's data model and its promise chains

`ModbusSlaveModel` is the host's record of optional callbacks. A callback may return a value or a
promise (`FConvertPromise`); what the server can observe of one call is `CallbackResult`: it
yields a value, its promise rejects, or it throws before returning.

Every handler ends in the same shape,
`Promise.resolve(action).then(onValue).catch(onError)`, with a synchronous `onValue` that encodes
a response and an `onError` that encodes an exception response. `chain` is that shape. A handler
run is a `Run`: the callbacks invoked, the buffers passed to `response`, and the error, if any,
that no `catch` handles: a synchronous throw before the chain exists, or a throw inside `onError`.

Callbacks are pure functions of their arguments: within one request the server never calls one
callback twice with the same arguments, so a stateful host is observed the same way.
-/

namespace NjsModbus

/-- How a model callback ends. -/
inductive CallbackResult (α : Type) where
  /-- It returns the value, or a promise that resolves with it. -/
  | value (a : α)
  /-- It returns a promise that rejects. -/
  | rejects (error : Error)
  /-- It throws before returning. -/
  | throws (error : Error)

/-- What `getAddressRange()` returns. -/
structure AddressRanges where
  discreteInputs : Option AddressRange := none
  coils : Option AddressRange := none
  inputRegisters : Option AddressRange := none
  holdingRegisters : Option AddressRange := none

/-- What `readDeviceIdentification()` returns, `{ [index: number]: string }`, with non-negative
integer keys, which `Object.entries` lists in increasing order. -/
structure Identification where
  entries : List (Nat × String)
  ascending : entries.Pairwise (·.1 < ·.1)

/-- `ModbusSlaveModel`. -/
structure ModbusSlaveModel where
  unit : Option Nat := none
  interceptor : Option (Nat → List Nat → CallbackResult (Option (List Nat))) := none
  readDiscreteInputs : Option (Nat → Nat → CallbackResult (List Bool)) := none
  readCoils : Option (Nat → Nat → CallbackResult (List Bool)) := none
  writeSingleCoil : Option (Nat → Bool → CallbackResult Unit) := none
  writeMultipleCoils : Option (Nat → List Bool → CallbackResult Unit) := none
  readInputRegisters : Option (Nat → Nat → CallbackResult (List Nat)) := none
  readHoldingRegisters : Option (Nat → Nat → CallbackResult (List Nat)) := none
  writeSingleRegister : Option (Nat → Nat → CallbackResult Unit) := none
  writeMultipleRegisters : Option (Nat → List Nat → CallbackResult Unit) := none
  maskWriteRegister : Option (Nat → Nat → Nat → CallbackResult Unit) := none
  reportServerId : Option (CallbackResult ServerId) := none
  readDeviceIdentification : Option (CallbackResult Identification) := none
  /-- The ranges `getAddressRange` returns, if the model has it. -/
  getAddressRange : Option AddressRanges := none

/-- `model.getAddressRange?.().<table>`. -/
def ModbusSlaveModel.range (model : ModbusSlaveModel) (table : AddressRanges → Option AddressRange) :
    Option AddressRange :=
  model.getAddressRange.bind table

/-- A model callback the server invoked, with its arguments. -/
inductive Call where
  | interceptor (fc : Nat) (data : List Nat)
  | readDiscreteInputs (address length : Nat)
  | readCoils (address length : Nat)
  | writeSingleCoil (address : Nat) (value : Bool)
  | writeMultipleCoils (address : Nat) (value : List Bool)
  | readInputRegisters (address length : Nat)
  | readHoldingRegisters (address length : Nat)
  | writeSingleRegister (address value : Nat)
  | writeMultipleRegisters (address : Nat) (value : List Nat)
  | maskWriteRegister (address andMask orMask : Nat)
  | reportServerId
  | readDeviceIdentification
  deriving DecidableEq, Repr

/-! ## Runs -/

/-- What handling a frame did. -/
structure Run where
  calls : List Call := []
  /-- The buffers passed to `response`, in order. -/
  replies : List (List Nat) := []
  /-- The error no `catch` handles, which ends the run. -/
  escaped : Option Error := none
  deriving DecidableEq, Repr

/-- One run after another. -/
def Run.append (a b : Run) : Run :=
  { calls := a.calls ++ b.calls, replies := a.replies ++ b.replies, escaped := b.escaped }

/-- `response(bytes)`, or the error the encoder threw instead. -/
def Run.respond : Except Error (List Nat) → Run
  | .ok bytes => { replies := [bytes] }
  | .error e => { escaped := some e }

/-- The error Node's `writeUInt8` / `writeUInt16BE` throw on a value out of range. -/
def rangeError : Error := ⟨"The value of \"value\" is out of range."⟩

/-- `this.applicationLayer.encode({ ...frame, data })`. -/
def encodeWith (encode : ApplicationDataUnit → Option (List Nat)) (frame : ApplicationDataUnit)
    (data : List Nat) : Except Error (List Nat) :=
  match encode { frame with data } with
  | some bytes => .ok bytes
  | none => .error rangeError

/-- `responseError(frame, response, error)`: the exception response, whose one data byte is
what `writeUInt8` makes of `getCodeByError(error)`, or the error the encoder throws. -/
def responseError (encode : ApplicationDataUnit → Option (List Nat)) (frame : ApplicationDataUnit)
    (error : Error) : Except Error (List Nat) :=
  match (getCodeByError error).toUInt8 with
  | some code => encodeWith encode { frame with fc := frame.fc ||| 0x80 } [code]
  | none => .error rangeError

/-- An exception response that is sent is the request's frame with `fc | 0x80` and one data
byte. -/
theorem responseError_ok {encode : ApplicationDataUnit → Option (List Nat)} {frame : ApplicationDataUnit}
    {e : Error} {bytes : List Nat} (h : responseError encode frame e = .ok bytes) :
    ∃ code < 256, encode { frame with fc := frame.fc ||| 0x80, data := [code] } = some bytes := by
  unfold responseError encodeWith at h
  split at h
  · rename_i code hcode
    refine ⟨code, JsNumber.toUInt8_lt hcode, ?_⟩
    split at h
    · cases h; assumption
    · cases h
  · cases h

/-- The exception response for an error that carries the decimal number `n`: the code `n` when
it is a byte; otherwise `writeUInt8` throws. -/
theorem responseError_prefix (encode : ApplicationDataUnit → Option (List Nat)) (frame : ApplicationDataUnit)
    (n : Nat) : responseError encode frame ⟨PREFIX ++ toString n⟩ =
      if n ≤ 255 then encodeWith encode { frame with fc := frame.fc ||| 0x80 } [n] else .error rangeError := by
  by_cases hn : n ≤ 255 <;> simp [responseError, getCodeByError_prefix, hn]

/-- The exception response the server makes of an error. When it is sent, it is the request's
frame with `fc | 0x80` and one data byte: `c` for `getErrorByCode c`, and
`SERVER_DEVICE_FAILURE` for an error without the prefix. An error with the prefix and then the
decimal digits of any `n` gives `n`, whether or not it is one of the nine codes, and no response
at all when `n` does not fit a byte. -/
theorem responseError_exceptionCode (encode : ApplicationDataUnit → Option (List Nat))
    (frame : ApplicationDataUnit) :
    (∀ (e : Error) (bytes : List Nat), responseError encode frame e = .ok bytes →
      ∃ code < 256, encode { frame with fc := frame.fc ||| 0x80, data := [code] } = some bytes) ∧
    (∀ c : ErrorCode, responseError encode frame (getErrorByCode c) =
      encodeWith encode { frame with fc := frame.fc ||| 0x80 } [c.value]) ∧
    (∀ e : Error, PREFIX.toList.isPrefixOf e.message.toList = false →
      responseError encode frame e =
        encodeWith encode { frame with fc := frame.fc ||| 0x80 } [ErrorCode.SERVER_DEVICE_FAILURE.value]) ∧
    (∀ n : Nat, responseError encode frame ⟨PREFIX ++ toString n⟩ =
      if n ≤ 255 then encodeWith encode { frame with fc := frame.fc ||| 0x80 } [n] else .error rangeError) :=
  ⟨fun _ _ => responseError_ok,
    fun c => by rw [getErrorByCode, responseError_prefix, if_pos (by cases c <;> decide)],
    fun _ h => by rw [responseError, getCodeByError_of_not_prefix h]; rfl,
    responseError_prefix encode frame⟩

/-- `MODBUS_ERROR_CODE_7` gives the code `7`, which is not an `ErrorCode`. -/
example : responseError (fun adu => some adu.data) { unit := 1, fc := 3, data := [] }
    ⟨"MODBUS_ERROR_CODE_7"⟩ = .ok [7] := by
  rfl

/-! ## Actions and chains -/

/-- What a callback, or the promise a handler builds from several, comes to: the calls made and
how it ended. -/
structure Action (α : Type) where
  calls : List Call
  result : CallbackResult α

/-- One callback invoked. -/
def Action.call {α : Type} (call : Call) (result : CallbackResult α) : Action α := ⟨[call], result⟩

/-- `Promise.all(items)` of callbacks invoked in order by `map`: a synchronous throw stops the
`map` and escapes; otherwise the first rejection, in the order of the items, rejects it. -/
def Action.all : List (Call × CallbackResult Unit) → Action Unit
  | [] => ⟨[], .value ()⟩
  | (c, .throws e) :: _ => ⟨[c], .throws e⟩
  | (c, .rejects e) :: rest =>
    ⟨c :: (Action.all rest).calls,
      match (Action.all rest).result with
      | .throws e' => .throws e'
      | _ => .rejects e⟩
  | (c, .value ()) :: rest => ⟨c :: (Action.all rest).calls, (Action.all rest).result⟩

/-- `action.then(x => next(x))` where `next` invokes a callback inside the `then`, so that a
synchronous throw there rejects the chain. -/
def Action.andThen {α β : Type} (a : Action α) (next : α → Action β) : Action β :=
  match a.result with
  | .value x =>
    ⟨a.calls ++ (next x).calls,
      match (next x).result with
      | .throws e => .rejects e
      | r => r⟩
  | .rejects e => ⟨a.calls, .rejects e⟩
  | .throws e => ⟨a.calls, .throws e⟩

/-- `Promise.resolve(action).then(onValue).catch(onError)`: a synchronous throw escapes; a value
goes to `onValue`; a rejection, or a throw inside `onValue`, goes to `onError`, whose own throw
escapes. -/
def chain {α : Type} (action : Action α) (onValue : α → Except Error (List Nat))
    (onError : Error → Except Error (List Nat)) : Run :=
  Run.append { calls := action.calls } <|
    match action.result with
    | .throws e => { escaped := some e }
    | .rejects e => Run.respond (onError e)
    | .value a =>
      match onValue a with
      | .ok bytes => { replies := [bytes] }
      | .error e => Run.respond (onError e)

@[simp] theorem Run.nil_append (b : Run) : Run.append {} b = b := by
  cases b; simp [Run.append]

@[simp] theorem Run.respond_calls (r : Except Error (List Nat)) : (Run.respond r).calls = [] := by
  cases r <;> rfl

/-- A chain makes exactly its action's calls: `onValue` and `onError` call no callback. -/
@[simp] theorem chain_calls {α : Type} (action : Action α) (onValue : α → Except Error (List Nat))
    (onError : Error → Except Error (List Nat)) : (chain action onValue onError).calls = action.calls := by
  unfold chain
  split <;> try split
  all_goals simp [Run.append]

/-- A chain whose action yields a value that `onValue` answers sends that answer. -/
theorem chain_of_value {α : Type} {calls : List Call} {a : α} {onValue : α → Except Error (List Nat)}
    {bytes : List Nat} (h : onValue a = .ok bytes) (onError : Error → Except Error (List Nat)) :
    chain ⟨calls, .value a⟩ onValue onError = { calls, replies := [bytes] } := by
  simp [chain, h, Run.append]

/-- `Promise.all` of callbacks that all yield: every call is made and the whole yields. -/
theorem Action.all_of_values {items : List (Call × CallbackResult Unit)}
    (h : ∀ item ∈ items, item.2 = .value ()) : Action.all items = ⟨items.map (·.1), .value ()⟩ := by
  induction items with
  | nil => rfl
  | cons item rest ih =>
    obtain ⟨c, r⟩ := item
    have hr : r = .value () := h _ (List.mem_cons_self _ _)
    subst hr
    simp [Action.all, ih fun i hi => h i (List.mem_cons_of_mem _ hi)]

/-- `this.responseError(frame, response, getErrorByCode(code))` on its own. -/
def exception (encode : ApplicationDataUnit → Option (List Nat)) (frame : ApplicationDataUnit)
    (code : ErrorCode) : Run :=
  Run.respond (responseError encode frame (getErrorByCode code))

end NjsModbus
