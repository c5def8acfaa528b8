import NjsModbus.Exchange.Wire
import NjsModbus.Master.Requests

/-!
# Client requests answered over the wire

`Answers v slave call calls value`: the client method's `call`, issued by a new client over `v`
to `slave`, has the server's models receive `calls` and resolves with a frame that passes the
call's pre-checks and decodes to `value`. One lemma per family of requests derives it from
`exchange_resolves`, the handler's spec lemma, and the client's pre-checks and decoder:

* `answers_readBits` (FC1, FC2) and `answers_readRegisters` (FC3, FC4): the client decodes the
  values the model read, through the client's and the server's own packing;
* `answers_writeEchoed` (FC5, FC6, FC15, FC16, FC22): the response repeats the request, or its
  first bytes, and the client resolves with its own value;
* `answers_reportServerId` (FC17): the client reads back the report, defaults filled in.

`requests_answered` collects them in `RequestsAnswered`, one field per function code the client and
the server share but FC23 and FC43/14 (whose exchanges `Exchange/Faults.lean` takes up), with the
multiple writes and the mask write split into the model's bulk callback and its fallback, each
field naming the calls the model receives.
-/

namespace NjsModbus

/-- `call`, issued by a new client over `v` to `slave`, has the server's models receive `calls`
and resolves with a frame that passes its pre-checks and decodes to `value`. -/
def Answers {α : Type} (v : Variant) (slave : ModbusSlave) (call : MasterCall α)
    (calls : List Call) (value : α) : Prop :=
  ∃ f s, exchange v slave call.toWaitRequest = some (calls, s) ∧
    s.settlements = [⟨0, .callback, .resolved (some f)⟩] ∧
    v.layer.preCheck call.preCheck f = none ∧ call.decode f = value

section Answers

variable {v : Variant} {slave : ModbusSlave} {model : ModbusSlaveModel}

/-- A unicast request whose model answers it with `d`, where every check of the client passes on
the frame of `d`, is answered with what the client decodes from `d`. -/
theorem answers_of_serve {α : Type} {call : MasterCall α} (hbc : call.broadcast = false)
    (hr : call.adu.Valid) (hu : call.adu.unit ≠ 0) (hm : slave.models.lookup call.adu.unit = some model)
    (hi : model.interceptor = none) {calls : List Call} {d : List Nat} (hd : AllBytes d)
    (hdl : d.length ≤ 65533)
    (hserve : ∀ (f : ApplicationDataUnit) (bytes : List Nat), f.unit = call.adu.unit →
      f.fc = call.adu.fc → f.data = call.adu.data → v.serverEncode { f with data := d } = some bytes →
      ModbusSlave.handleFC v.serverEncode model f = { calls, replies := [bytes] })
    (hpre : ∀ f : Frame, f.unit = call.adu.unit → f.fc = call.adu.fc → f.data = d →
      ∀ c ∈ call.preCheck, c f = .bool true ∨ (c f = .number f.data.length ∧ 0 < f.data.length))
    {value : α} (hdec : ∀ f : Frame, f.data = d → call.decode f = value) :
    Answers v slave call calls value := by
  have hpass : ∀ f : Frame, f.unit = call.adu.unit → f.fc = call.adu.fc → f.data = d →
      v.layer.preCheck call.preCheck f = none :=
    fun f hfu hff hfd => v.preCheck_eq_none (hpre f hfu hff hfd)
  obtain ⟨f, s, hfu, hff, hfd, hex, hs⟩ := exchange_resolves hbc hr hu hm hi hd hdl hserve hpass
  exact ⟨f, s, hex, hs, hpass f hfu hff hfd, hdec f hfd⟩

/-- The first check of every method passes on a frame of the request's unit and code. -/
theorem matchesUnitFc_of_eq {unit fc : Nat} {f : Frame} (hu : f.unit = unit) (hf : f.fc = fc) :
    matchesUnitFc unit fc f = .bool true := by
  simp [matchesUnitFc, hu, hf]

/-- The request ADU of the methods that send two 16-bit fields is one every framing carries. -/
theorem valid_twoFields {unit fc first second : Nat} (hu : unit < 256) (hf : fc < 256)
    (h1 : first < 65536) (h2 : second < 65536) :
    ({ unit, fc, data := [first / 256, first % 256, second / 256, second % 256] } :
      ApplicationDataUnit).Valid :=
  ⟨hu, hf, by simp; omega, by simp, by simp⟩

/-- The checks of a read (FC1 to FC4) pass on a response whose first byte counts the bytes after
it. -/
theorem readChecks_pass {unit fc byteCount : Nat} {f : Frame} (hu : f.unit = unit) (hf : f.fc = fc)
    (hl : f.data.length = 1 + byteCount) (hcount : f.data[0]? = some byteCount) :
    ∀ c ∈ [matchesUnitFc unit fc, fun _ => .number (1 + byteCount),
      fun frame => .bool (frame.data[0]? = some byteCount)],
      c f = .bool true ∨ (c f = .number f.data.length ∧ 0 < f.data.length) := by
  intro c hc
  simp only [List.mem_cons, List.mem_singleton, List.not_mem_nil, or_false] at hc
  rcases hc with rfl | rfl | rfl
  · exact .inl (matchesUnitFc_of_eq hu hf)
  · exact .inr ⟨by rw [hl], by omega⟩
  · exact .inl (by simp [hcount])

/-- A read of `length` bits (FC1, FC2) whose model reads `length` values resolves with them. -/
theorem answers_readBits {unit fc address length : Nat}
    {read : Nat → Nat → CallbackResult (List Bool)} {call : Nat → Nat → Call}
    {range : Option AddressRange} {coils : List Bool}
    (hfc : ∀ f : ApplicationDataUnit, f.fc = fc → ModbusSlave.handleFC v.serverEncode model f =
      ModbusSlave.handleRead v.serverEncode (some read) call 0x07d0 range ModbusSlave.coilsResponse f)
    (hu : 1 ≤ unit ∧ unit ≤ 247) (hf : fc < 256) (hm : slave.models.lookup unit = some model)
    (hi : model.interceptor = none) (ha : address < 65536) (hl : 1 ≤ length ∧ length ≤ 0x07d0)
    (hrange : checkRange [address, address + length] range = true)
    (hv : read address length = .value coils) (hc : coils.length = length) :
    ∃ c, ModbusMaster.writeFC1Or2 unit fc address length = some c ∧
      Answers v slave c [call address length] coils := by
  have hl' : length < 65536 := by omega
  refine ⟨_, by rw [ModbusMaster.writeFC1Or2, twoFields_of_lt ha hl']; rfl, ?_⟩
  refine answers_of_serve (d := (length + 7) / 8 :: packBits ((length + 7) / 8) coils)
    (decide_eq_false (by omega)) (valid_twoFields (by omega) hf ha hl') (by simp; omega) hm hi
    (by simp [allBytes_packBits]; omega) (by simp; omega) ?_ ?_ ?_
  · intro f bytes _ hff hfd he
    rw [hfc f hff]
    exact ModbusSlave.handleRead_of_value _ (by simp [hfd]) (by simp [hfd]; omega)
      (by simp [hfd]; omega) hl hrange hv (by simp [ModbusSlave.coilsResponse]) he
  · exact fun f hfu hff hfd => readChecks_pass hfu hff (by simp [hfd]; omega) (by simp [hfd])
  · intro f hfd
    subst hc
    show (List.range coils.length).map (unpackBit f.data 1) = coils
    rw [hfd]
    refine unpackBits_packBits [_] ?_
    omega

/-- The response data of a read of `length` 16-bit registers. -/
theorem registersResponse_of_lt {registers : List Nat} (h : ∀ r ∈ registers, r < 65536) :
    ModbusSlave.registersResponse registers.length registers =
      .ok (registers.length * 2 :: registerBytes registers) := by
  simp [ModbusSlave.registersResponse, ModbusSlave.fillRegisters, writeRegisters_of_lt h,
    Nat.mul_comm]

/-- A read of `length` registers (FC3, FC4) whose model reads `length` 16-bit values resolves
with them. -/
theorem answers_readRegisters {unit fc address length : Nat}
    {read : Nat → Nat → CallbackResult (List Nat)} {call : Nat → Nat → Call}
    {range : Option AddressRange} {registers : List Nat}
    (hfc : ∀ f : ApplicationDataUnit, f.fc = fc → ModbusSlave.handleFC v.serverEncode model f =
      ModbusSlave.handleRead v.serverEncode (some read) call 0x007d range
        ModbusSlave.registersResponse f)
    (hu : 1 ≤ unit ∧ unit ≤ 247) (hf : fc < 256) (hm : slave.models.lookup unit = some model)
    (hi : model.interceptor = none) (ha : address < 65536) (hl : 1 ≤ length ∧ length ≤ 0x007d)
    (hrange : checkRange [address, address + length] range = true)
    (hv : read address length = .value registers) (hc : registers.length = length)
    (h16 : ∀ r ∈ registers, r < 65536) :
    ∃ c, ModbusMaster.writeFC3Or4 unit fc address length = some c ∧
      Answers v slave c [call address length] registers := by
  subst hc
  have hl' : registers.length < 65536 := by omega
  refine ⟨_, by rw [ModbusMaster.writeFC3Or4, twoFields_of_lt ha hl']; rfl, ?_⟩
  refine answers_of_serve (d := registers.length * 2 :: registerBytes registers)
    (decide_eq_false (by omega)) (valid_twoFields (by omega) hf ha hl') (by simp; omega) hm hi
    (by simp [allBytes_registerBytes registers h16]; omega) (by simp; omega) ?_ ?_ ?_
  · intro f bytes _ hff hfd he
    rw [hfc f hff]
    exact ModbusSlave.handleRead_of_value _ (by simp [hfd]) (by simp [hfd]; omega)
      (by simp [hfd]; omega) hl hrange hv (registersResponse_of_lt h16) he
  · exact fun f hfu hff hfd => readChecks_pass hfu hff (by simp [hfd]; omega) (by simp [hfd])
  · intro f hfd
    show readRegisters (f.data.drop 1) 0 registers.length = registers
    simpa [hfd] using readRegisters_registerBytes h16 []

/-- A request whose response repeats it, or its first `echoed` bytes (FC5, FC6, FC15, FC16,
FC22), and whose model so answers it, resolves with the caller's own value. -/
theorem answers_writeEchoed {α : Type} {unit fc echoed : Nat} {bufferTx : List Nat} {value : α}
    {calls : List Call} (hu : 1 ≤ unit ∧ unit ≤ 247) (hf : fc < 256) (hb : AllBytes bufferTx)
    (hbl : bufferTx.length ≤ 65533) (he : 0 < echoed ∧ echoed ≤ bufferTx.length)
    (hm : slave.models.lookup unit = some model) (hi : model.interceptor = none)
    (hserve : ∀ (f : ApplicationDataUnit) (bytes : List Nat), f.unit = unit → f.fc = fc →
      f.data = bufferTx → v.serverEncode { f with data := bufferTx.take echoed } = some bytes →
      ModbusSlave.handleFC v.serverEncode model f = { calls, replies := [bytes] }) :
    Answers v slave (ModbusMaster.writeEchoed unit fc bufferTx echoed value) calls value := by
  have htake : (bufferTx.take echoed).length = echoed := by simp; omega
  refine answers_of_serve (d := bufferTx.take echoed) (decide_eq_false (by omega))
    ⟨show unit < 256 by omega, hf, hb, hbl, by simp [ModbusMaster.writeEchoed]⟩ (show unit ≠ 0 by omega) hm hi
    (fun b hb' => hb b (List.mem_of_mem_take hb')) (by omega) hserve ?_ fun _ _ => rfl
  intro f hfu hff hfd c hc
  simp only [ModbusMaster.writeEchoed, List.mem_cons, List.mem_singleton, List.not_mem_nil,
    or_false] at hc
  rcases hc with rfl | rfl | rfl
  · exact .inl (matchesUnitFc_of_eq hfu hff)
  · exact .inr ⟨by simp only [hfd, htake], by simp only [hfd, htake]; exact he.1⟩
  · exact .inl (by simp only [hfd, everyMatches_take])

/-- FC5: a coil write the model accepts resolves with the caller's value, the model having
received the caller's address and value. -/
theorem answers_writeSingleCoil {unit address : Nat} {value : Bool}
    {write : Nat → Bool → CallbackResult Unit} (hu : 1 ≤ unit ∧ unit ≤ 247)
    (hm : slave.models.lookup unit = some model) (hi : model.interceptor = none)
    (ha : address < 65536) (hw : model.writeSingleCoil = some write)
    (hv : write address value = .value ())
    (hrange : checkRange [address] (model.range (·.coils)) = true) :
    ∃ c, ModbusMaster.writeSingleCoil unit address value = some c ∧
      Answers v slave c [.writeSingleCoil address value] value := by
  have hraw : (if value then 0xff00 else 0x0000) < 65536 := by split <;> decide
  refine ⟨_, by rw [ModbusMaster.writeSingleCoil, twoFields_of_lt ha hraw]; rfl, ?_⟩
  refine answers_writeEchoed hu (by decide) (by simp; omega) (by simp) (by simp) hm hi ?_
  intro f bytes _ hff hfd he
  have hconv : decide ((if value then 0xff00 else 0x0000) = 0xff00) = value := by
    cases value <;> rfl
  simp only [ModbusSlave.handleFC, hff, ModbusSlave.handleFC5, hw]
  conv_rhs => rw [← hconv]
  exact ModbusSlave.handleWriteSingle_of_value _ (by simp [hfd]) (by simp [hfd]; omega)
    (show readUInt16BE f.data 2 = if value then 0xff00 else 0x0000 by simp [hfd]; omega)
    (by cases value <;> rfl) hrange (by rw [hconv]; exact hv) (by simpa [hfd] using he)

/-- FC6: a register write the model accepts resolves with the caller's value, the model having
received the caller's address and value. -/
theorem answers_writeSingleRegister {unit address value : Nat}
    {write : Nat → Nat → CallbackResult Unit} (hu : 1 ≤ unit ∧ unit ≤ 247)
    (hm : slave.models.lookup unit = some model) (hi : model.interceptor = none)
    (ha : address < 65536) (hval : value < 65536) (hw : model.writeSingleRegister = some write)
    (hv : write address value = .value ())
    (hrange : checkRange [address] (model.range (·.holdingRegisters)) = true) :
    ∃ c, ModbusMaster.writeSingleRegister unit address value = some c ∧
      Answers v slave c [.writeSingleRegister address value] value := by
  refine ⟨_, by rw [ModbusMaster.writeSingleRegister, twoFields_of_lt ha hval]; rfl, ?_⟩
  refine answers_writeEchoed hu (by decide) (by simp; omega) (by simp) (by simp) hm hi ?_
  intro f bytes _ hff hfd he
  simp only [ModbusSlave.handleFC, hff, ModbusSlave.handleFC6, hw]
  exact ModbusSlave.handleWriteSingle_of_value _ (by simp [hfd]) (by simp [hfd]; omega)
    (by simp [hfd]; omega) (by simp; omega) hrange hv (by simpa [hfd] using he)

/-- FC15: a write of coils the model accepts resolves with the caller's value, the model's
callbacks having received the caller's address and coils, through its bulk callback or its
single-coil fallback, whichever `write` runs. -/
theorem answers_writeMultipleCoils {unit address : Nat} {value : List Bool}
    {write : Nat → List Bool → Action Unit} (hu : 1 ≤ unit ∧ unit ≤ 247)
    (hm : slave.models.lookup unit = some model) (hi : model.interceptor = none)
    (ha : address < 65536) (hl : 1 ≤ value.length ∧ value.length ≤ 0x07b0)
    (hw : ModbusSlave.writeMultiple model.writeMultipleCoils .writeMultipleCoils
      model.writeSingleCoil .writeSingleCoil = some write)
    (hv : (write address value).result = .value ())
    (hrange : checkRange [address, address + value.length] (model.range (·.coils)) = true) :
    ∃ c, ModbusMaster.writeMultipleCoils unit address value = some c ∧
      Answers v slave c (write address value).calls value := by
  have hl' : value.length < 65536 := by omega
  have hbc : (value.length + 7) / 8 < 256 := by omega
  refine ⟨_, by
    rw [ModbusMaster.writeMultipleCoils, twoFields_of_lt ha hl', writeUInt8_of_lt hbc]; rfl, ?_⟩
  refine answers_writeEchoed hu (by decide) (by simp [allBytes_packBits]; omega) (by simp; omega)
    (by simp) hm hi ?_
  intro f bytes _ hff hfd he
  have hvalues : (List.range value.length).map (unpackBit f.data 5) = value := by
    rw [hfd]
    refine unpackBits_packBits _ ?_
    omega
  simp only [ModbusSlave.handleFC, hff, ModbusSlave.handleFC15, hw]
  exact ModbusSlave.handleWriteMultiple_of_value _ (by simp [hfd]; omega) (by simp [hfd]; omega)
    (by simp [hfd]; omega) ⟨hl.1, hl.2, by simp [hfd]⟩ hrange
    (show write address ((List.range value.length).map (unpackBit f.data 5)) = _ by
      rw [hvalues, ← hv]) (by rw [hfd]; exact he)

/-- FC16: a write of registers the model accepts resolves with the caller's value, the model's
callbacks having received the caller's address and registers, through its bulk callback or its
single-register fallback, whichever `write` runs. -/
theorem answers_writeMultipleRegisters {unit address : Nat} {value : List Nat}
    {write : Nat → List Nat → Action Unit} (hu : 1 ≤ unit ∧ unit ≤ 247)
    (hm : slave.models.lookup unit = some model) (hi : model.interceptor = none)
    (ha : address < 65536) (hl : 1 ≤ value.length ∧ value.length ≤ 0x007b)
    (h16 : ∀ r ∈ value, r < 65536)
    (hw : ModbusSlave.writeMultiple model.writeMultipleRegisters .writeMultipleRegisters
      model.writeSingleRegister .writeSingleRegister = some write)
    (hv : (write address value).result = .value ())
    (hrange : checkRange [address, address + value.length] (model.range (·.holdingRegisters)) = true) :
    ∃ c, ModbusMaster.writeMultipleRegisters unit address value = some c ∧
      Answers v slave c (write address value).calls value := by
  have hl' : value.length < 65536 := by omega
  have hbc : value.length * 2 < 256 := by omega
  refine ⟨_, by
    rw [ModbusMaster.writeMultipleRegisters, twoFields_of_lt ha hl', writeUInt8_of_lt hbc,
      writeRegisters_of_lt h16]; rfl, ?_⟩
  refine answers_writeEchoed hu (by decide) (by simp [allBytes_registerBytes value h16]; omega)
    (by simp; omega) (by simp) hm hi ?_
  intro f bytes _ hff hfd he
  have hvalues : readRegisters f.data 5 value.length = value := by
    rw [hfd]
    exact (readRegisters_append _ _ _).trans (by simpa using readRegisters_registerBytes h16 [])
  simp only [ModbusSlave.handleFC, hff, ModbusSlave.handleFC16, hw]
  exact ModbusSlave.handleWriteMultiple_of_value _ (by simp [hfd]; omega) (by simp [hfd]; omega)
    (by simp [hfd]; omega) ⟨hl.1, hl.2, by simp [hfd]⟩ hrange
    (show write address (readRegisters f.data 5 value.length) = _ by rw [hvalues, ← hv])
    (by rw [hfd]; exact he)

/-- FC22: a mask write the model accepts resolves with the caller's masks, the model's callbacks
having received the caller's address and masks, or the fallback's read and its write of the
masked value. -/
theorem answers_maskWriteRegister {unit address andMask orMask : Nat}
    {write : Nat → Nat → Nat → Action Unit} (hu : 1 ≤ unit ∧ unit ≤ 247)
    (hm : slave.models.lookup unit = some model) (hi : model.interceptor = none)
    (ha : address < 65536) (hand : andMask < 65536) (hor : orMask < 65536)
    (hw : ModbusSlave.maskWrite model = some write)
    (hv : (write address andMask orMask).result = .value ())
    (hrange : checkRange [address] (model.range (·.holdingRegisters)) = true) :
    ∃ c, ModbusMaster.maskWriteRegister unit address andMask orMask = some c ∧
      Answers v slave c (write address andMask orMask).calls (andMask, orMask) := by
  refine ⟨_, by
    rw [ModbusMaster.maskWriteRegister, twoFields_of_lt ha hand, writeUInt16BE_of_lt hor]; rfl, ?_⟩
  refine answers_writeEchoed hu (by decide) (by simp; omega) (by simp) (by simp) hm hi ?_
  intro f bytes _ hff hfd he
  simp only [ModbusSlave.handleFC, hff]
  exact ModbusSlave.handleFC22_of_value _ (by simp [hfd]) hw (by simp [hfd]; omega)
    (show readUInt16BE f.data 2 = andMask by simp [hfd]; omega)
    (show readUInt16BE f.data 4 = orMask by simp [hfd]; omega) hrange (by rw [← hv])
    (by simpa [hfd] using he)

/-- FC17: a report the model yields, with a one-byte server id and at most 253 bytes of
additional data, is read back by the client with the defaults the server filled in. -/
theorem answers_reportServerId {unit : Nat} {id : ServerId} (hu : 1 ≤ unit ∧ unit ≤ 247)
    (hm : slave.models.lookup unit = some model) (hi : model.interceptor = none)
    (hr : model.reportServerId = some (.value id))
    (hid : id.serverId.getD (model.unit.getD 1) < 256) (had : AllBytes (id.additionalData.getD []))
    (hadl : (id.additionalData.getD []).length ≤ 253) :
    Answers v slave (ModbusMaster.reportServerId unit) [.reportServerId]
      { serverId := some (id.serverId.getD (model.unit.getD 1)),
        runIndicatorStatus := some (id.runIndicatorStatus.getD true),
        additionalData := some (id.additionalData.getD []) } := by
  have hstatus : (if id.runIndicatorStatus.getD true then 0xff else 0x00) < 256 := by
    split <;> decide
  refine answers_of_serve (d := ModbusSlave.serverIdResponse model id)
    (decide_eq_false (show ¬unit = 0 by omega))
    ⟨show unit < 256 by omega, show 0x11 < 256 by decide, show AllBytes [] by simp, Nat.zero_le _,
      by simp [ModbusMaster.reportServerId]⟩ (show unit ≠ 0 by omega) hm hi
    (by simp [ModbusSlave.serverIdResponse, hid, had, hstatus]; omega)
    (by simp [ModbusSlave.serverIdResponse]; omega) ?_ ?_ ?_
  · intro f bytes _ hff hfd he
    simp only [ModbusSlave.handleFC, show f.fc = 0x11 from hff]
    exact ModbusSlave.handleFC17_of_value _ (by simp [hfd, ModbusMaster.reportServerId]) hr he
  · intro f hfu hff hfd c hc
    simp only [ModbusMaster.reportServerId, List.mem_cons, List.mem_singleton, List.not_mem_nil,
      or_false] at hc
    rcases hc with rfl | rfl
    · exact .inl (matchesUnitFc_of_eq hfu hff)
    · refine .inr ⟨?_, by simp [hfd, ModbusSlave.serverIdResponse]⟩
      simp [hfd, ModbusSlave.serverIdResponse]; omega
  · intro f hfd
    simp only [ModbusMaster.reportServerId, hfd, ModbusSlave.serverIdResponse]
    cases id.runIndicatorStatus.getD true <;> simp

end Answers

/-- What a client gets from `slave` over `v` for every request to `unit`, whose model is `model`,
with FC1 to FC6, FC15, FC16, FC17 or FC22, 16-bit addresses and values, a count within the
function code's bounds, model callbacks that yield, values its response can carry, and
addresses the model's ranges accept: for reads the client resolves with the values the model
read; for writes the model's callbacks receive the client's address and values, through the bulk
callback or, without one, the single-write callback at each address in turn (FC22: the mask
callback, or a read of the register and a write of the masked value), and the client resolves
with its own value; for FC17 it reads back the model's report. -/
structure RequestsAnswered (v : Variant) (slave : ModbusSlave) (unit : Nat) (model : ModbusSlaveModel) :
    Prop where
  readCoils : ∀ address length read coils, address < 65536 → 1 ≤ length ∧ length ≤ 0x07d0 →
    model.readCoils = some read → read address length = .value coils → coils.length = length →
    checkRange [address, address + length] (model.range (·.coils)) = true →
    ∃ c, ModbusMaster.readCoils unit address length = some c ∧
      Answers v slave c [.readCoils address length] coils
  readDiscreteInputs : ∀ address length read inputs, address < 65536 → 1 ≤ length ∧ length ≤ 0x07d0 →
    model.readDiscreteInputs = some read → read address length = .value inputs →
    inputs.length = length →
    checkRange [address, address + length] (model.range (·.discreteInputs)) = true →
    ∃ c, ModbusMaster.readDiscreteInputs unit address length = some c ∧
      Answers v slave c [.readDiscreteInputs address length] inputs
  readHoldingRegisters : ∀ address length read registers, address < 65536 →
    1 ≤ length ∧ length ≤ 0x007d →
    model.readHoldingRegisters = some read → read address length = .value registers →
    registers.length = length → (∀ r ∈ registers, r < 65536) →
    checkRange [address, address + length] (model.range (·.holdingRegisters)) = true →
    ∃ c, ModbusMaster.readHoldingRegisters unit address length = some c ∧
      Answers v slave c [.readHoldingRegisters address length] registers
  readInputRegisters : ∀ address length read registers, address < 65536 →
    1 ≤ length ∧ length ≤ 0x007d →
    model.readInputRegisters = some read → read address length = .value registers →
    registers.length = length → (∀ r ∈ registers, r < 65536) →
    checkRange [address, address + length] (model.range (·.inputRegisters)) = true →
    ∃ c, ModbusMaster.readInputRegisters unit address length = some c ∧
      Answers v slave c [.readInputRegisters address length] registers
  writeSingleCoil : ∀ address value write, address < 65536 → model.writeSingleCoil = some write →
    write address value = .value () → checkRange [address] (model.range (·.coils)) = true →
    ∃ c, ModbusMaster.writeSingleCoil unit address value = some c ∧
      Answers v slave c [.writeSingleCoil address value] value
  writeSingleRegister : ∀ address value write, address < 65536 → value < 65536 →
    model.writeSingleRegister = some write → write address value = .value () →
    checkRange [address] (model.range (·.holdingRegisters)) = true →
    ∃ c, ModbusMaster.writeSingleRegister unit address value = some c ∧
      Answers v slave c [.writeSingleRegister address value] value
  writeMultipleCoils : ∀ address value write, address < 65536 →
    1 ≤ value.length ∧ value.length ≤ 0x07b0 →
    model.writeMultipleCoils = some write → write address value = .value () →
    checkRange [address, address + value.length] (model.range (·.coils)) = true →
    ∃ c, ModbusMaster.writeMultipleCoils unit address value = some c ∧
      Answers v slave c [.writeMultipleCoils address value] value
  writeMultipleCoilsFallback : ∀ address value write, address < 65536 →
    1 ≤ value.length ∧ value.length ≤ 0x07b0 →
    model.writeMultipleCoils = none → model.writeSingleCoil = some write →
    (∀ p ∈ value.enum, write (address + p.1) p.2 = .value ()) →
    checkRange [address, address + value.length] (model.range (·.coils)) = true →
    ∃ c, ModbusMaster.writeMultipleCoils unit address value = some c ∧
      Answers v slave c (value.enum.map fun p => .writeSingleCoil (address + p.1) p.2) value
  writeMultipleRegisters : ∀ address value write, address < 65536 →
    1 ≤ value.length ∧ value.length ≤ 0x007b → (∀ r ∈ value, r < 65536) →
    model.writeMultipleRegisters = some write → write address value = .value () →
    checkRange [address, address + value.length] (model.range (·.holdingRegisters)) = true →
    ∃ c, ModbusMaster.writeMultipleRegisters unit address value = some c ∧
      Answers v slave c [.writeMultipleRegisters address value] value
  writeMultipleRegistersFallback : ∀ address value write, address < 65536 →
    1 ≤ value.length ∧ value.length ≤ 0x007b → (∀ r ∈ value, r < 65536) →
    model.writeMultipleRegisters = none → model.writeSingleRegister = some write →
    (∀ p ∈ value.enum, write (address + p.1) p.2 = .value ()) →
    checkRange [address, address + value.length] (model.range (·.holdingRegisters)) = true →
    ∃ c, ModbusMaster.writeMultipleRegisters unit address value = some c ∧
      Answers v slave c (value.enum.map fun p => .writeSingleRegister (address + p.1) p.2) value
  reportServerId : ∀ id, model.reportServerId = some (.value id) →
    id.serverId.getD (model.unit.getD 1) < 256 →
    AllBytes (id.additionalData.getD []) → (id.additionalData.getD []).length ≤ 253 →
    Answers v slave (ModbusMaster.reportServerId unit) [.reportServerId]
      { serverId := some (id.serverId.getD (model.unit.getD 1)),
        runIndicatorStatus := some (id.runIndicatorStatus.getD true),
        additionalData := some (id.additionalData.getD []) }
  maskWriteRegister : ∀ address andMask orMask write, address < 65536 → andMask < 65536 →
    orMask < 65536 → model.maskWriteRegister = some write → write address andMask orMask = .value () →
    checkRange [address] (model.range (·.holdingRegisters)) = true →
    ∃ c, ModbusMaster.maskWriteRegister unit address andMask orMask = some c ∧
      Answers v slave c [.maskWriteRegister address andMask orMask] (andMask, orMask)
  maskWriteRegisterFallback : ∀ address andMask orMask read write registers, address < 65536 →
    andMask < 65536 → orMask < 65536 → model.maskWriteRegister = none →
    model.readHoldingRegisters = some read → model.writeSingleRegister = some write →
    read address 1 = .value registers →
    write address (ModbusSlave.maskedValue (registers.head?.getD 0) andMask orMask) = .value () →
    checkRange [address] (model.range (·.holdingRegisters)) = true →
    ∃ c, ModbusMaster.maskWriteRegister unit address andMask orMask = some c ∧
      Answers v slave c [.readHoldingRegisters address 1,
        .writeSingleRegister address (ModbusSlave.maskedValue (registers.head?.getD 0) andMask orMask)]
        (andMask, orMask)

/-- A unit between 1 and 247 whose model has no interceptor answers every such request. -/
theorem requests_answered (v : Variant) (slave : ModbusSlave) (unit : Nat) (model : ModbusSlaveModel)
    (hu : 1 ≤ unit ∧ unit ≤ 247) (hm : slave.models.lookup unit = some model)
    (hi : model.interceptor = none) : RequestsAnswered v slave unit model where
  readCoils _ _ _ _ ha hl hr hv hc hrange :=
    answers_readBits (fun f h => by simp only [ModbusSlave.handleFC, h, ModbusSlave.handleFC1, hr])
      hu (by decide) hm hi ha hl hrange hv hc
  readDiscreteInputs _ _ _ _ ha hl hr hv hc hrange :=
    answers_readBits (fun f h => by simp only [ModbusSlave.handleFC, h, ModbusSlave.handleFC2, hr])
      hu (by decide) hm hi ha hl hrange hv hc
  readHoldingRegisters _ _ _ _ ha hl hr hv hc h16 hrange :=
    answers_readRegisters (fun f h => by simp only [ModbusSlave.handleFC, h, ModbusSlave.handleFC3, hr])
      hu (by decide) hm hi ha hl hrange hv hc h16
  readInputRegisters _ _ _ _ ha hl hr hv hc h16 hrange :=
    answers_readRegisters (fun f h => by simp only [ModbusSlave.handleFC, h, ModbusSlave.handleFC4, hr])
      hu (by decide) hm hi ha hl hrange hv hc h16
  writeSingleCoil _ _ _ ha hw hv hrange := answers_writeSingleCoil hu hm hi ha hw hv hrange
  writeSingleRegister _ _ _ ha hval hw hv hrange :=
    answers_writeSingleRegister hu hm hi ha hval hw hv hrange
  writeMultipleCoils _ _ _ ha hl hw hv hrange :=
    answers_writeMultipleCoils hu hm hi ha hl (ModbusSlave.writeMultiple_of_some hw _ _ _) hv hrange
  writeMultipleCoilsFallback address value _ ha hl hnone hw hv hrange := by
    have hall := ModbusSlave.all_singles_of_values Call.writeSingleCoil address hv
    obtain ⟨c, hc, hans⟩ := answers_writeMultipleCoils hu hm hi ha hl
      (ModbusSlave.writeMultiple_of_none hnone _ hw _) (by simp only [hall]) hrange
    exact ⟨c, hc, by simpa only [hall] using hans⟩
  writeMultipleRegisters _ _ _ ha hl h16 hw hv hrange :=
    answers_writeMultipleRegisters hu hm hi ha hl h16 (ModbusSlave.writeMultiple_of_some hw _ _ _) hv hrange
  writeMultipleRegistersFallback address value _ ha hl h16 hnone hw hv hrange := by
    have hall := ModbusSlave.all_singles_of_values Call.writeSingleRegister address hv
    obtain ⟨c, hc, hans⟩ := answers_writeMultipleRegisters hu hm hi ha hl h16
      (ModbusSlave.writeMultiple_of_none hnone _ hw _) (by simp only [hall]) hrange
    exact ⟨c, hc, by simpa only [hall] using hans⟩
  reportServerId _ hr hid had hadl := answers_reportServerId hu hm hi hr hid had hadl
  maskWriteRegister _ _ _ _ ha hand hor hw hv hrange :=
    answers_maskWriteRegister hu hm hi ha hand hor (ModbusSlave.maskWrite_of_some hw) hv hrange
  maskWriteRegisterFallback address andMask orMask read write registers ha hand hor hnone hr hw hread hwrite
      hrange := by
    have hcalls : ((Action.call (.readHoldingRegisters address 1) (read address 1)).andThen fun registers =>
        Action.call (.writeSingleRegister address (ModbusSlave.maskedValue (registers.head?.getD 0) andMask orMask))
          (write address (ModbusSlave.maskedValue (registers.head?.getD 0) andMask orMask))) =
        ⟨[.readHoldingRegisters address 1,
          .writeSingleRegister address (ModbusSlave.maskedValue (registers.head?.getD 0) andMask orMask)], .value ()⟩ := by
      simp only [Action.andThen, Action.call, hread, hwrite, List.singleton_append]
    obtain ⟨c, hc, hans⟩ := answers_maskWriteRegister hu hm hi ha hand hor
      (ModbusSlave.maskWrite_fallback hnone hr hw) (by simp only [hcalls]) hrange
    exact ⟨c, hc, by simpa only [hcalls] using hans⟩

/-- A model of unit 1 with every callback of these function codes, each yielding: coils,
registers and masks are written in bulk. -/
def bulkModel : ModbusSlaveModel where
  readCoils := some fun _ length => .value (List.replicate length true)
  readDiscreteInputs := some fun _ length => .value (List.replicate length false)
  readHoldingRegisters := some fun _ length => .value (List.replicate length 7)
  readInputRegisters := some fun _ length => .value (List.replicate length 8)
  writeSingleCoil := some fun _ _ => .value ()
  writeSingleRegister := some fun _ _ => .value ()
  writeMultipleCoils := some fun _ _ => .value ()
  writeMultipleRegisters := some fun _ _ => .value ()
  maskWriteRegister := some fun _ _ _ => .value ()
  reportServerId := some (.value {})

/-- The same model on unit 2 without the bulk writes and the mask write, so that FC15, FC16 and
FC22 take their fallbacks. -/
def fallbackModel : ModbusSlaveModel :=
  { bulkModel with
    unit := some 2
    writeMultipleCoils := none
    writeMultipleRegisters := none
    maskWriteRegister := none }

/-- A server with both. -/
def answeringSlave : ModbusSlave := (ModbusSlave.empty.add bulkModel).add fallbackModel

/-- `requests_answered` at both units of `answeringSlave`, over MBAP: every field holds of a
model with the callback it is about, the bulk fields at unit 1 and the fallback fields at
unit 2. -/
theorem requests_answered_bulkAndFallback :
    ((1 ≤ 1 ∧ 1 ≤ 247) ∧ answeringSlave.models.lookup 1 = some bulkModel ∧ bulkModel.interceptor = none) ∧
    ((1 ≤ 2 ∧ 2 ≤ 247) ∧ answeringSlave.models.lookup 2 = some fallbackModel ∧
      fallbackModel.interceptor = none) ∧
    RequestsAnswered .tcp answeringSlave 1 bulkModel ∧ RequestsAnswered .tcp answeringSlave 2 fallbackModel :=
  ⟨⟨by decide, rfl, rfl⟩, ⟨by decide, rfl, rfl⟩, requests_answered .tcp answeringSlave 1 bulkModel (by decide) rfl rfl,
    requests_answered .tcp answeringSlave 2 fallbackModel (by decide) rfl rfl⟩

/-- Two registers written at unit 2 reach its single-register callback at addresses `5` and `6`. -/
example :
    (exchange .tcp answeringSlave ((ModbusMaster.writeMultipleRegisters 2 5 [1, 2]).get rfl).toWaitRequest).map
      (·.1) = some [.writeSingleRegister 5 1, .writeSingleRegister 6 2] := by
  decide

/-- A report whose server id does not fit a byte: `encode` throws inside the chain, the server
answers with an exception response, and the client rejects the request, whatever it was owed. -/
theorem reportServerId_unanswered :
    ¬∃ calls value, Answers .tcp
      ⟨[(1, { reportServerId := some (.value { serverId := some 256 }) })], by decide⟩
      (ModbusMaster.reportServerId 1) calls value := by
  rintro ⟨calls, value, f, s, hex, hs, -⟩
  have hrun : (exchange .tcp ⟨[(1, { reportServerId := some (.value { serverId := some 256 }) })],
      by decide⟩ (ModbusMaster.reportServerId 1).toWaitRequest).map (·.2.settlements) =
      some [⟨0, .callback, .rejected invalidResponse⟩] := by decide
  simp [hex, hs] at hrun

end NjsModbus
