import NjsModbus.Slave.Model

/-!
# The server's handlers for FC1 to FC23

`ModbusSlave.handleFC1` … `handleFC23`. Every handler first checks the length of the request
data (a request that fails it is dropped, with no response), then that the model has the
callback, then the quantity and the addresses, answering an exception response where a check
fails; it then runs its callback chain (`chain`).

The handlers come in families that differ only in the model callback, the address table and a
bound, and each family is one definition here:

* `handleRead`: FC1 and FC2 (bits, packed LSB-first), FC3 and FC4 (registers);
* `handleWriteSingle`: FC5 and FC6;
* `handleWriteMultiple`: FC15 and FC16, with `writeMultiple` for the model's bulk callback or
  its fallback to the single-write callback.

FC17, FC22 and FC23 keep bodies of their own. Each handler receives the server application
layer's `encode`, which it uses for every response it builds.
-/

namespace NjsModbus

namespace ModbusSlave

variable (encode : ApplicationDataUnit → Option (List Nat))

/-! ## Reads -/

/-- `Buffer.alloc(size)` with `values` written as 16-bit big-endian fields from its start: a
value out of range, or a field past the end, throws. -/
def fillRegisters (size : Nat) (values : List Nat) : Option (List Nat) := do
  let bytes ← writeRegisters values
  if bytes.length ≤ size then some (bytes ++ List.replicate (size - bytes.length) 0) else none

/-- The response data of FC1 and FC2: the byte count, then `coils` packed into
`Math.ceil(length / 8)` bytes. -/
def coilsResponse (length : Nat) (coils : List Bool) : Except Error (List Nat) :=
  let bufferTx := packBits ((length + 7) / 8) coils
  .ok (bufferTx.length :: bufferTx)

/-- The response data of FC3, FC4 and FC23: the byte count, then `length` registers; a
`writeUInt16BE` that throws rejects the chain. -/
def registersResponse (length : Nat) (registers : List Nat) : Except Error (List Nat) :=
  match fillRegisters (length * 2) registers with
  | some bufferTx => .ok (bufferTx.length :: bufferTx)
  | none => .error rangeError

/-- The read handlers: four data bytes, the address and the quantity, a bound on the quantity,
the address check over `[address, address + length]`, then `read` and the response `respond`
builds from its values. -/
def handleRead {α : Type} (read : Option (Nat → Nat → CallbackResult α)) (call : Nat → Nat → Call)
    (maxLength : Nat) (range : Option AddressRange) (respond : Nat → α → Except Error (List Nat))
    (frame : ApplicationDataUnit) : Run :=
  if frame.data.length = 4 then
    match read with
    | none => exception encode frame .ILLEGAL_FUNCTION
    | some read =>
      let address := readUInt16BE frame.data 0
      let length := readUInt16BE frame.data 2
      if 0x0001 ≤ length ∧ length ≤ maxLength then
        if checkRange [address, address + length] range then
          chain (.call (call address length) (read address length))
            (fun values => (respond length values).bind (encodeWith encode frame))
            (responseError encode frame)
        else exception encode frame .ILLEGAL_DATA_ADDRESS
      else exception encode frame .ILLEGAL_DATA_VALUE
  else {}

/-- A read whose callback yields values its response takes answers with that response. -/
theorem handleRead_of_value {α : Type} {read : Nat → Nat → CallbackResult α} {call : Nat → Nat → Call}
    {maxLength : Nat} {range : Option AddressRange} {respond : Nat → α → Except Error (List Nat)}
    {frame : ApplicationDataUnit} {address length : Nat} (hlen : frame.data.length = 4)
    (ha : readUInt16BE frame.data 0 = address) (hl : readUInt16BE frame.data 2 = length)
    (hbound : 1 ≤ length ∧ length ≤ maxLength) (hrange : checkRange [address, address + length] range = true)
    {values : α} (hv : read address length = .value values) {d bytes : List Nat}
    (hd : respond length values = .ok d) (he : encode { frame with data := d } = some bytes) :
    handleRead encode (some read) call maxLength range respond frame =
      { calls := [call address length], replies := [bytes] } := by
  simp only [handleRead, hlen, ha, hl, if_true, hbound, and_self, hrange, Action.call, hv]
  refine chain_of_value ?_ _
  simp [hd, encodeWith, he, Except.bind]

/-- A read whose callback throws before returning escapes the handler: nothing is sent. -/
theorem handleRead_of_throws {α : Type} {read : Nat → Nat → CallbackResult α} {call : Nat → Nat → Call}
    {maxLength : Nat} {range : Option AddressRange} {respond : Nat → α → Except Error (List Nat)}
    {frame : ApplicationDataUnit} {address length : Nat} (hlen : frame.data.length = 4)
    (ha : readUInt16BE frame.data 0 = address) (hl : readUInt16BE frame.data 2 = length)
    (hbound : 1 ≤ length ∧ length ≤ maxLength) (hrange : checkRange [address, address + length] range = true)
    {e : Error} (hv : read address length = .throws e) :
    handleRead encode (some read) call maxLength range respond frame =
      { calls := [call address length], escaped := some e } := by
  simp [handleRead, hlen, ha, hl, hbound, hrange, Action.call, hv, chain, Run.append]

/-- A read whose callback rejects with an error whose code does not fit a byte escapes the
handler: `writeUInt8` throws inside the `catch`, and nothing is sent. -/
theorem handleRead_of_rejects {α : Type} {read : Nat → Nat → CallbackResult α} {call : Nat → Nat → Call}
    {maxLength : Nat} {range : Option AddressRange} {respond : Nat → α → Except Error (List Nat)}
    {frame : ApplicationDataUnit} {address length : Nat} (hlen : frame.data.length = 4)
    (ha : readUInt16BE frame.data 0 = address) (hl : readUInt16BE frame.data 2 = length)
    (hbound : 1 ≤ length ∧ length ≤ maxLength) (hrange : checkRange [address, address + length] range = true)
    {e : Error} (hv : read address length = .rejects e) (hcode : (getCodeByError e).toUInt8 = none) :
    handleRead encode (some read) call maxLength range respond frame =
      { calls := [call address length], escaped := some rangeError } := by
  simp [handleRead, hlen, ha, hl, hbound, hrange, Action.call, hv, chain, Run.append, responseError,
    hcode, Run.respond]

/-- FC1, Read Coils. -/
def handleFC1 (model : ModbusSlaveModel) : ApplicationDataUnit → Run :=
  handleRead encode model.readCoils .readCoils 0x07d0 (model.range (·.coils)) coilsResponse

/-- FC2, Read Discrete Inputs. -/
def handleFC2 (model : ModbusSlaveModel) : ApplicationDataUnit → Run :=
  handleRead encode model.readDiscreteInputs .readDiscreteInputs 0x07d0
    (model.range (·.discreteInputs)) coilsResponse

/-- FC3, Read Holding Registers. -/
def handleFC3 (model : ModbusSlaveModel) : ApplicationDataUnit → Run :=
  handleRead encode model.readHoldingRegisters .readHoldingRegisters 0x007d
    (model.range (·.holdingRegisters)) registersResponse

/-- FC4, Read Input Registers. -/
def handleFC4 (model : ModbusSlaveModel) : ApplicationDataUnit → Run :=
  handleRead encode model.readInputRegisters .readInputRegisters 0x007d
    (model.range (·.inputRegisters)) registersResponse

/-! ## Single writes -/

/-- The single-write handlers: four data bytes, the address and the value, a check of the
value, the address check, then `write` with the value `convert` makes of it; the response
echoes the request. -/
def handleWriteSingle {α : Type} (write : Option (Nat → α → CallbackResult Unit))
    (call : Nat → α → Call) (valid : Nat → Bool) (convert : Nat → α) (range : Option AddressRange)
    (frame : ApplicationDataUnit) : Run :=
  if frame.data.length = 4 then
    match write with
    | none => exception encode frame .ILLEGAL_FUNCTION
    | some write =>
      let address := readUInt16BE frame.data 0
      let value := readUInt16BE frame.data 2
      if valid value then
        if checkRange [address] range then
          chain (.call (call address (convert value)) (write address (convert value)))
            (fun _ => encodeWith encode frame frame.data) (responseError encode frame)
        else exception encode frame .ILLEGAL_DATA_ADDRESS
      else exception encode frame .ILLEGAL_DATA_VALUE
  else {}

/-- A single write the callback accepts echoes the request. -/
theorem handleWriteSingle_of_value {α : Type} {write : Nat → α → CallbackResult Unit}
    {call : Nat → α → Call} {valid : Nat → Bool} {convert : Nat → α} {range : Option AddressRange}
    {frame : ApplicationDataUnit} {address value : Nat} (hlen : frame.data.length = 4)
    (ha : readUInt16BE frame.data 0 = address) (hv : readUInt16BE frame.data 2 = value)
    (hvalid : valid value = true) (hrange : checkRange [address] range = true)
    (hw : write address (convert value) = .value ()) {bytes : List Nat}
    (he : encode { frame with data := frame.data } = some bytes) :
    handleWriteSingle encode (some write) call valid convert range frame =
      { calls := [call address (convert value)], replies := [bytes] } := by
  simp only [handleWriteSingle, hlen, ha, hv, if_true, hvalid, hrange, Action.call, hw]
  refine chain_of_value ?_ _
  simp [encodeWith, he]

/-- FC5, Write Single Coil: the value is `0x0000` or `0xFF00`. -/
def handleFC5 (model : ModbusSlaveModel) : ApplicationDataUnit → Run :=
  handleWriteSingle encode model.writeSingleCoil .writeSingleCoil
    (fun value => value = 0x0000 || value = 0xff00) (· = 0xff00) (model.range (·.coils))

/-- FC6, Write Single Register. -/
def handleFC6 (model : ModbusSlaveModel) : ApplicationDataUnit → Run :=
  handleWriteSingle encode model.writeSingleRegister .writeSingleRegister
    (fun value => 0x0000 ≤ value && value ≤ 0xffff) id (model.range (·.holdingRegisters))

/-! ## Multiple writes -/

/-- `model.writeMultipleX ? model.writeMultipleX(address, value)
: Promise.all(value.map((v, i) => model.writeSingleX!(address + i, v)))`, or `none` when the
model has neither callback. -/
def writeMultiple {α : Type} (multiple : Option (Nat → List α → CallbackResult Unit))
    (multipleCall : Nat → List α → Call) (single : Option (Nat → α → CallbackResult Unit))
    (singleCall : Nat → α → Call) : Option (Nat → List α → Action Unit) :=
  match multiple, single with
  | some f, _ => some fun address value => .call (multipleCall address value) (f address value)
  | none, some g => some fun address value =>
    Action.all (value.enum.map fun (i, v) => (singleCall (address + i) v, g (address + i) v))
  | none, none => none

/-- The multiple-write handlers: a byte count that matches the data, the address, the quantity
and its bound, the byte count the quantity needs, the address check, then `write` with the
values `values` decodes; the response echoes the first four request bytes. -/
def handleWriteMultiple {α : Type} (write : Option (Nat → List α → Action Unit)) (maxLength : Nat)
    (byteCountOf : Nat → Nat) (values : List Nat → Nat → List α) (range : Option AddressRange)
    (frame : ApplicationDataUnit) : Run :=
  if frame.data.length > 5 ∧ frame.data.length = 5 + frame.data.getD 4 0 then
    match write with
    | none => exception encode frame .ILLEGAL_FUNCTION
    | some write =>
      let address := readUInt16BE frame.data 0
      let length := readUInt16BE frame.data 2
      let byteCount := frame.data.getD 4 0
      if 0x0001 ≤ length ∧ length ≤ maxLength ∧ byteCount = byteCountOf length then
        if checkRange [address, address + length] range then
          chain (write address (values frame.data length))
            (fun _ => encodeWith encode frame (frame.data.take 4)) (responseError encode frame)
        else exception encode frame .ILLEGAL_DATA_ADDRESS
      else exception encode frame .ILLEGAL_DATA_VALUE
  else {}

/-- A model with the bulk callback writes through it alone. -/
theorem writeMultiple_of_some {α : Type} {multiple : Option (Nat → List α → CallbackResult Unit)}
    {f : Nat → List α → CallbackResult Unit} (h : multiple = some f) (multipleCall : Nat → List α → Call)
    (single : Option (Nat → α → CallbackResult Unit)) (singleCall : Nat → α → Call) :
    writeMultiple multiple multipleCall single singleCall =
      some fun address value => .call (multipleCall address value) (f address value) := by
  subst h; rfl

/-- A model without the bulk callback writes each value through its single-write callback, at
its own address. -/
theorem writeMultiple_of_none {α : Type} {multiple : Option (Nat → List α → CallbackResult Unit)}
    (h : multiple = none) (multipleCall : Nat → List α → Call) {single : Option (Nat → α → CallbackResult Unit)}
    {g : Nat → α → CallbackResult Unit} (hg : single = some g) (singleCall : Nat → α → Call) :
    writeMultiple multiple multipleCall single singleCall =
      some fun address value =>
        Action.all (value.enum.map fun p => (singleCall (address + p.1) p.2, g (address + p.1) p.2)) := by
  subst h hg; rfl

/-- Single writes that all yield: each is called, in order, and the whole yields. -/
theorem all_singles_of_values {α : Type} (singleCall : Nat → α → Call) {g : Nat → α → CallbackResult Unit}
    (address : Nat) {value : List α} (hg : ∀ p ∈ value.enum, g (address + p.1) p.2 = .value ()) :
    Action.all (value.enum.map fun p => (singleCall (address + p.1) p.2, g (address + p.1) p.2)) =
      ⟨value.enum.map fun p => singleCall (address + p.1) p.2, .value ()⟩ := by
  rw [Action.all_of_values, List.map_map]
  · rfl
  · simp only [List.mem_map]
    rintro _ ⟨p, hp, rfl⟩
    exact hg p hp

/-- A multiple write the model accepts echoes the first four request bytes. -/
theorem handleWriteMultiple_of_value {α : Type} {write : Nat → List α → Action Unit} {maxLength : Nat}
    {byteCountOf : Nat → Nat} {values : List Nat → Nat → List α} {range : Option AddressRange}
    {frame : ApplicationDataUnit} {address length : Nat}
    (hlen : frame.data.length > 5 ∧ frame.data.length = 5 + frame.data.getD 4 0)
    (ha : readUInt16BE frame.data 0 = address) (hl : readUInt16BE frame.data 2 = length)
    (hbound : 1 ≤ length ∧ length ≤ maxLength ∧ frame.data.getD 4 0 = byteCountOf length)
    (hrange : checkRange [address, address + length] range = true) {calls : List Call}
    (hw : write address (values frame.data length) = ⟨calls, .value ()⟩) {bytes : List Nat}
    (he : encode { frame with data := frame.data.take 4 } = some bytes) :
    handleWriteMultiple encode (some write) maxLength byteCountOf values range frame =
      { calls, replies := [bytes] } := by
  rw [handleWriteMultiple, if_pos hlen]
  simp only [ha, hl, if_pos hbound, hrange, if_true, hw]
  refine chain_of_value ?_ _
  simp [encodeWith, he]

/-- FC15, Write Multiple Coils: the bits unpacked LSB-first from byte 5 on. -/
def handleFC15 (model : ModbusSlaveModel) : ApplicationDataUnit → Run :=
  handleWriteMultiple encode
    (writeMultiple model.writeMultipleCoils .writeMultipleCoils model.writeSingleCoil .writeSingleCoil)
    0x07b0 (fun length => (length + 7) / 8)
    (fun bufferRx length => (List.range length).map (unpackBit bufferRx 5)) (model.range (·.coils))

/-- FC16, Write Multiple Registers: 16-bit big-endian values from byte 5 on. -/
def handleFC16 (model : ModbusSlaveModel) : ApplicationDataUnit → Run :=
  handleWriteMultiple encode
    (writeMultiple model.writeMultipleRegisters .writeMultipleRegisters model.writeSingleRegister
      .writeSingleRegister)
    0x007b (· * 2) (fun bufferRx length => readRegisters bufferRx 5 length)
    (model.range (·.holdingRegisters))

/-! ## FC17, FC22 and FC23 -/

/-- The response data of FC17, with the destructuring defaults
`serverId = model.unit ?? 1, runIndicatorStatus = true, additionalData = []`. -/
def serverIdResponse (model : ModbusSlaveModel) (id : ServerId) : List Nat :=
  let additionalData := id.additionalData.getD []
  (2 + additionalData.length) :: id.serverId.getD (model.unit.getD 1) ::
    (if id.runIndicatorStatus.getD true then 0xff else 0x00) :: additionalData

/-- FC17, Report Server ID. -/
def handleFC17 (model : ModbusSlaveModel) (frame : ApplicationDataUnit) : Run :=
  if frame.data.length = 0 then
    match model.reportServerId with
    | none => exception encode frame .ILLEGAL_FUNCTION
    | some report =>
      chain (.call .reportServerId report)
        (fun id => encodeWith encode frame (serverIdResponse model id)) (responseError encode frame)
  else {}

/-- A report the model yields answers with its response data. -/
theorem handleFC17_of_value {model : ModbusSlaveModel} {frame : ApplicationDataUnit} {id : ServerId}
    (hlen : frame.data.length = 0) (hr : model.reportServerId = some (.value id)) {bytes : List Nat}
    (he : encode { frame with data := serverIdResponse model id } = some bytes) :
    handleFC17 encode model frame = { calls := [.reportServerId], replies := [bytes] } := by
  simp only [handleFC17, hlen, if_true, hr, Action.call]
  refine chain_of_value ?_ _
  simp [encodeWith, he]

/-- The value the FC22 fallback writes back:
`(value & andMask) | (orMask & (~andMask & 0xff))`. -/
def maskedValue (value andMask orMask : Nat) : Nat :=
  value &&& andMask ||| orMask &&& andFF (bitNot andMask)

/-- `model.maskWriteRegister ? model.maskWriteRegister(address, andMask, orMask)
: Promise.resolve(model.readHoldingRegisters!(address, 1)).then(([value]) =>
model.writeSingleRegister!(address, …))`, or `none` when the model has neither the callback nor
both halves of the fallback. An empty read gives `undefined`, which `&` reads as `0`. -/
def maskWrite (model : ModbusSlaveModel) : Option (Nat → Nat → Nat → Action Unit) :=
  match model.maskWriteRegister, model.readHoldingRegisters, model.writeSingleRegister with
  | some f, _, _ => some fun address andMask orMask =>
    .call (.maskWriteRegister address andMask orMask) (f address andMask orMask)
  | none, some read, some write => some fun address andMask orMask =>
    (Action.call (.readHoldingRegisters address 1) (read address 1)).andThen fun registers =>
      let value := maskedValue (registers.head?.getD 0) andMask orMask
      .call (.writeSingleRegister address value) (write address value)
  | none, _, _ => none

/-- FC22, Mask Write Register: the response echoes the request. -/
def handleFC22 (model : ModbusSlaveModel) (frame : ApplicationDataUnit) : Run :=
  if frame.data.length = 6 then
    match maskWrite model with
    | none => exception encode frame .ILLEGAL_FUNCTION
    | some write =>
      let address := readUInt16BE frame.data 0
      let andMask := readUInt16BE frame.data 2
      let orMask := readUInt16BE frame.data 4
      if checkRange [address] (model.range (·.holdingRegisters)) then
        chain (write address andMask orMask) (fun _ => encodeWith encode frame frame.data)
          (responseError encode frame)
      else exception encode frame .ILLEGAL_DATA_ADDRESS
  else {}

/-- A mask write the model accepts echoes the request. -/
theorem handleFC22_of_value {model : ModbusSlaveModel} {frame : ApplicationDataUnit}
    {write : Nat → Nat → Nat → Action Unit} {address andMask orMask : Nat} (hlen : frame.data.length = 6)
    (hw : maskWrite model = some write) (ha : readUInt16BE frame.data 0 = address)
    (hand : readUInt16BE frame.data 2 = andMask) (hor : readUInt16BE frame.data 4 = orMask)
    (hrange : checkRange [address] (model.range (·.holdingRegisters)) = true) {calls : List Call}
    (hv : write address andMask orMask = ⟨calls, .value ()⟩) {bytes : List Nat}
    (he : encode { frame with data := frame.data } = some bytes) :
    handleFC22 encode model frame = { calls, replies := [bytes] } := by
  simp only [handleFC22, hlen, if_true, hw, ha, hand, hor, hrange, hv]
  refine chain_of_value ?_ _
  simp [encodeWith, he]

/-! ## The FC22 fallback against the MODBUS mask write -/

/-- The MODBUS mask write over 16 bits, `(value AND andMask) OR (orMask AND NOT andMask)`, with
`NOT andMask` the 16-bit complement `0xFFFF - andMask`. -/
def modbusMaskWrite (value andMask orMask : Nat) : Nat :=
  value &&& andMask ||| orMask &&& (0xFFFF - andMask)

/-- `~andMask & 0xff` is the complement of the mask's low byte. -/
theorem andFF_bitNot (andMask : Nat) : andFF (bitNot andMask) = 2 ^ 8 - (andMask % 256 + 1) := by
  unfold andFF bitNot toInt32
  omega

/-- The fallback keeps only the low byte of the bits `orMask` sets where `andMask` clears. -/
theorem maskedValue_eq (value : Nat) {andMask : Nat} (ha : andMask < 65536) (orMask : Nat) :
    maskedValue value andMask orMask =
      value &&& andMask ||| (orMask &&& (0xFFFF - andMask)) % 256 := by
  rw [maskedValue, andFF_bitNot, show 0xFFFF - andMask = 2 ^ 16 - (andMask + 1) by omega]
  congr 1
  apply Nat.eq_of_testBit_eq
  intro i
  rw [Nat.testBit_land, Nat.testBit_two_pow_sub_succ (show andMask % 256 < 2 ^ 8 by omega),
    show (256 : Nat) = 2 ^ 8 from rfl, Nat.testBit_mod_two_pow, Nat.testBit_mod_two_pow,
    Nat.testBit_land, Nat.testBit_two_pow_sub_succ (show andMask < 2 ^ 16 by omega)]
  by_cases hi : i < 8
  · simp [hi, show i < 16 by omega]
  · simp [hi]

/-- The fallback writes the MODBUS value exactly when `orMask AND NOT andMask` has no bit in the
high byte. -/
theorem maskedValue_eq_iff (value : Nat) {andMask orMask : Nat} (ha : andMask < 65536) :
    maskedValue value andMask orMask = modbusMaskWrite value andMask orMask ↔
      orMask &&& (0xFFFF - andMask) < 256 := by
  rw [maskedValue_eq value ha, modbusMaskWrite]
  constructor
  · intro h
    by_contra hge
    obtain ⟨i, hi, hbit⟩ := Nat.ge_two_pow_implies_high_bit_true
      (x := orMask &&& (0xFFFF - andMask)) (n := 8) (by omega)
    have hlow : ((orMask &&& (0xFFFF - andMask)) % 256).testBit i = false := by
      rw [show (256 : Nat) = 2 ^ 8 from rfl, Nat.testBit_mod_two_pow, decide_eq_false (by omega),
        Bool.false_and]
    have hmask : andMask.testBit i = false := by
      rw [Nat.testBit_land, show 0xFFFF - andMask = 2 ^ 16 - (andMask + 1) by omega,
        Nat.testBit_two_pow_sub_succ (by omega)] at hbit
      simp only [Bool.and_eq_true, decide_eq_true_eq, Bool.not_eq_true'] at hbit
      exact hbit.2.2
    have hbits := congrArg (Nat.testBit · i) h
    simp only [Nat.testBit_lor, Nat.testBit_land value, hmask, hlow, hbit] at hbits
    simp at hbits
  · intro h
    rw [Nat.mod_eq_of_lt h]

/-- A model with `maskWriteRegister` writes through it alone. -/
theorem maskWrite_of_some {model : ModbusSlaveModel} {f : Nat → Nat → Nat → CallbackResult Unit}
    (h : model.maskWriteRegister = some f) :
    maskWrite model = some fun address andMask orMask =>
      .call (.maskWriteRegister address andMask orMask) (f address andMask orMask) := by
  simp [maskWrite, h]

/-- A model with `readHoldingRegisters` and `writeSingleRegister` but no `maskWriteRegister`
runs the fallback. -/
theorem maskWrite_fallback {model : ModbusSlaveModel} {read : Nat → Nat → CallbackResult (List Nat)}
    {write : Nat → Nat → CallbackResult Unit} (hm : model.maskWriteRegister = none)
    (hr : model.readHoldingRegisters = some read) (hw : model.writeSingleRegister = some write) :
    maskWrite model = some fun address andMask orMask =>
      (Action.call (.readHoldingRegisters address 1) (read address 1)).andThen fun registers =>
        .call (.writeSingleRegister address (maskedValue (registers.head?.getD 0) andMask orMask))
          (write address (maskedValue (registers.head?.getD 0) andMask orMask)) := by
  simp [maskWrite, hm, hr, hw]

/-- Without `maskWriteRegister`, FC22 reads the register and writes back `maskedValue`, which is
the MODBUS mask write exactly when `orMask AND NOT andMask` has no bit in the high byte: the
fallback's `~andMask & 0xff` drops the high byte of the bits `orMask` sets. -/
theorem handleFC22_fallback {model : ModbusSlaveModel} {read : Nat → Nat → CallbackResult (List Nat)}
    {write : Nat → Nat → CallbackResult Unit} (hm : model.maskWriteRegister = none)
    (hr : model.readHoldingRegisters = some read) (hw : model.writeSingleRegister = some write)
    {frame : ApplicationDataUnit} {address andMask orMask : Nat} (hlen : frame.data.length = 6)
    (ha : readUInt16BE frame.data 0 = address) (hand : readUInt16BE frame.data 2 = andMask)
    (hor : readUInt16BE frame.data 4 = orMask)
    (hrange : checkRange [address] (model.range (·.holdingRegisters)) = true) {value : Nat}
    {rest : List Nat} (hv : read address 1 = .value (value :: rest)) (h16 : andMask < 65536) :
    (handleFC22 encode model frame).calls =
      [.readHoldingRegisters address 1, .writeSingleRegister address (maskedValue value andMask orMask)] ∧
    (maskedValue value andMask orMask = modbusMaskWrite value andMask orMask ↔
      orMask &&& (0xFFFF - andMask) < 256) := by
  refine ⟨?_, maskedValue_eq_iff value h16⟩
  simp [handleFC22, hlen, maskWrite_fallback hm hr hw, ha, hand, hor, hrange, Action.andThen,
    Action.call, hv]

/-- `handleFC22_fallback` at a register holding `0`, with `andMask = 0x0000` and
`orMask = 0xFF00`: the fallback writes `0` back where the MODBUS mask write gives `0xFF00`. -/
theorem handleFC22_fallback_orHighByte :
    (({ readHoldingRegisters := some fun _ _ => .value [0],
        writeSingleRegister := some fun _ _ => .value () } : ModbusSlaveModel).maskWriteRegister = none ∧
      ({ readHoldingRegisters := some fun _ _ => .value [0],
         writeSingleRegister := some fun _ _ => .value () } : ModbusSlaveModel).readHoldingRegisters =
        some (fun _ _ => .value [0]) ∧
      ({ readHoldingRegisters := some fun _ _ => .value [0],
         writeSingleRegister := some fun _ _ => .value () } : ModbusSlaveModel).writeSingleRegister =
        some (fun _ _ => .value ()) ∧
      [0, 0, 0, 0, 0xff, 0].length = 6 ∧ readUInt16BE [0, 0, 0, 0, 0xff, 0] 0 = 0 ∧
      readUInt16BE [0, 0, 0, 0, 0xff, 0] 2 = 0 ∧ readUInt16BE [0, 0, 0, 0, 0xff, 0] 4 = 0xff00 ∧
      checkRange [0]
        (ModbusSlaveModel.range
          { readHoldingRegisters := some fun _ _ => .value [0],
            writeSingleRegister := some fun _ _ => .value () }
          (·.holdingRegisters)) = true ∧
      (0 : Nat) < 65536) ∧
    (handleFC22 (fun adu => some adu.bytes)
      { readHoldingRegisters := some fun _ _ => .value [0], writeSingleRegister := some fun _ _ => .value () }
      { unit := 1, fc := 0x16, data := [0, 0, 0, 0, 0xff, 0] }).calls =
        [.readHoldingRegisters 0 1, .writeSingleRegister 0 (maskedValue 0 0 0xff00)] ∧
    (maskedValue 0 0 0xff00 = modbusMaskWrite 0 0 0xff00 ↔ 0xff00 &&& (0xFFFF - 0) < 256) :=
  ⟨⟨rfl, rfl, rfl, rfl, rfl, rfl, rfl, rfl, by decide⟩,
    handleFC22_fallback (fun adu => some adu.bytes) rfl rfl rfl (by rfl) (by rfl) (by rfl) (by rfl)
      (by rfl) (by rfl) (by decide)⟩

example : maskedValue 0 0 0xff00 = 0 ∧ modbusMaskWrite 0 0 0xff00 = 0xff00 := by decide

/-! ## The address checks -/

/-- On a well-formed configuration, the address checks of the handlers: a single address
(FC5, FC6, FC22) passes when one interval holds it; a block `[address, address + length]`
(FC1 to FC4, FC15, FC16) when one interval holds the `length + 1` elements from `address`, one
more than the request addresses; and FC23 when one interval holds its read block and its write
block, each taken one element longer. -/
theorem checkRange_handlerBlocks {range : Option AddressRange} (hr : WellFormedRange range) :
    (∀ x : Nat, checkRange [x] range = true ↔
      rangeIntervals range = [] ∨ ∃ p ∈ rangeIntervals range, blockIn p x 1 = true) ∧
    (∀ address length : Nat, checkRange [address, address + length] range = true ↔
      rangeIntervals range = [] ∨ ∃ p ∈ rangeIntervals range, blockIn p address (length + 1) = true) ∧
    (∀ ra rl wa wl : Nat, checkRange [ra, ra + rl, wa, wa + wl] range = true ↔
      rangeIntervals range = [] ∨
        ∃ p ∈ rangeIntervals range, blockIn p ra (rl + 1) = true ∧ blockIn p wa (wl + 1) = true) := by
  refine ⟨fun x => ?_, fun address length => ?_, fun ra rl wa wl => ?_⟩
  · simp [checkRange_iff hr, blockIn_iff]
  · simp only [checkRange_iff hr, ends_in_iff_blockIn]
  · have hsplit : [ra, ra + rl, wa, wa + wl] = [ra, ra + rl] ++ [wa, wa + wl] := rfl
    simp only [checkRange_iff hr, hsplit, List.forall_mem_append, ends_in_iff_blockIn]

/-- `checkRange_handlerBlocks` on the registers `0` to `9`: a read of all ten is a block of
eleven, which the interval does not hold, and the handler refuses it. -/
theorem checkRange_handlerBlocks_wholeInterval :
    WellFormedRange (some (.interval 0 9)) ∧ checkRange [0, 0 + 10] (some (.interval 0 9)) = false ∧
    handleFC3 (fun adu => some adu.bytes)
      { readHoldingRegisters := some fun _ _ => .value [],
        getAddressRange := some { holdingRegisters := some (.interval 0 9) } }
      { unit := 1, fc := 3, data := [0, 0, 0, 10] } =
      exception (fun adu => some adu.bytes) { unit := 1, fc := 3, data := [0, 0, 0, 10] }
        .ILLEGAL_DATA_ADDRESS := by
  have hwf : WellFormedRange (some (.interval 0 9)) := by decide
  have hcheck : checkRange [0, 0 + 10] (some (.interval 0 9)) = false :=
    Bool.eq_false_iff.2 fun h => absurd (((checkRange_handlerBlocks hwf).2.1 0 10).1 h) (by decide)
  exact ⟨hwf, hcheck, by decide⟩

/-- FC23, Read/Write Multiple Registers: the write (bulk or fallback) first, then, inside its
`then`, the read; the response carries the `length.read` registers read. -/
def handleFC23 (model : ModbusSlaveModel) (frame : ApplicationDataUnit) : Run :=
  if frame.data.length > 9 ∧ frame.data.length = 9 + frame.data.getD 8 0 then
    match model.readHoldingRegisters,
      writeMultiple model.writeMultipleRegisters .writeMultipleRegisters model.writeSingleRegister
        .writeSingleRegister with
    | some read, some write =>
      let readAddress := readUInt16BE frame.data 0
      let readLength := readUInt16BE frame.data 2
      let writeAddress := readUInt16BE frame.data 4
      let writeLength := readUInt16BE frame.data 6
      let byteCount := frame.data.getD 8 0
      if 0x0001 ≤ readLength ∧ readLength ≤ 0x007d ∧ 0x0001 ≤ writeLength ∧ writeLength ≤ 0x0079 ∧
          byteCount = writeLength * 2 then
        if checkRange [readAddress, readAddress + readLength, writeAddress, writeAddress + writeLength]
            (model.range (·.holdingRegisters)) then
          chain ((write writeAddress (readRegisters frame.data 9 writeLength)).andThen fun _ =>
              .call (.readHoldingRegisters readAddress readLength) (read readAddress readLength))
            (fun registers => (registersResponse readLength registers).bind (encodeWith encode frame))
            (responseError encode frame)
        else exception encode frame .ILLEGAL_DATA_ADDRESS
      else exception encode frame .ILLEGAL_DATA_VALUE
    | _, _ => exception encode frame .ILLEGAL_FUNCTION
  else {}

end ModbusSlave

end NjsModbus
