import NjsModbus.Master.WaitResponse
import NjsModbus.Coils

/-!
# The client's requests

One definition per public method of `ModbusMaster`: the ADU it encodes, its broadcast flag, the
pre-check list it hands `waitResponse`, and the decoder its `.then` applies to the frame the
wait resolves with. A method that throws before waiting (a `writeUInt16BE` or `writeUInt8` out
of range) is `none`.

`readDeviceIdentification` walks the object list of the response twice, once in its pre-check
to size the frame and once in its decoder; both are `walkObjects`, which returns the objects it
completed, and differ only in what they keep of each.
-/

namespace NjsModbus

/-- A client method's request, and how it decodes the frame it resolves with. -/
structure MasterCall (α : Type) extends WaitRequest where
  decode : Frame → α

/-- `frame.unit === unit && frame.fc === fc`, every method's first pre-check. -/
def matchesUnitFc (unit fc : Nat) : PreCheck :=
  fun frame => .bool (frame.unit = unit && frame.fc = fc)

/-- `frame.data.every((v, i) => v === bufferTx[i])`. -/
def everyMatches (data bufferTx : List Nat) : Bool :=
  data.enum.all fun (i, v) => bufferTx[i]? = some v

/-- `bufferTx` as four bytes: two 16-bit big-endian fields. -/
def twoFields (first second : Nat) : Option (List Nat) := do
  let a ← writeUInt16BE first
  let b ← writeUInt16BE second
  pure (a ++ b)

theorem twoFields_of_lt {first second : Nat} (h1 : first < 65536) (h2 : second < 65536) :
    twoFields first second = some [first / 256, first % 256, second / 256, second % 256] := by
  simp [twoFields, writeUInt16BE_of_lt h1, writeUInt16BE_of_lt h2]

/-- A response that repeats a prefix of the request passes the echo check. -/
theorem everyMatches_take (bufferTx : List Nat) (n : Nat) :
    everyMatches (bufferTx.take n) bufferTx = true := by
  simp only [everyMatches, List.all_eq_true, decide_eq_true_eq]
  rintro ⟨i, v⟩ hmem
  rw [List.mem_enum_iff_getElem?, List.getElem?_take] at hmem
  split at hmem
  · exact hmem
  · cases hmem

namespace ModbusMaster

/-- `writeFC1Or2(unit, fc, address, length)`. -/
def writeFC1Or2 (unit fc address length : Nat) : Option (MasterCall (List Bool)) := do
  let byteCount := (length + 7) / 8
  let bufferTx ← twoFields address length
  pure { adu := { unit, fc, data := bufferTx }, broadcast := unit = 0,
         preCheck := [matchesUnitFc unit fc, fun _ => .number (1 + byteCount),
           fun frame => .bool (frame.data[0]? = some byteCount)],
         decode := fun frame => (List.range length).map (unpackBit frame.data 1) }

def readCoils (unit address length : Nat) : Option (MasterCall (List Bool)) :=
  writeFC1Or2 unit 0x01 address length

def readDiscreteInputs (unit address length : Nat) : Option (MasterCall (List Bool)) :=
  writeFC1Or2 unit 0x02 address length

/-- `writeFC3Or4(unit, fc, address, length)`. -/
def writeFC3Or4 (unit fc address length : Nat) : Option (MasterCall (List Nat)) := do
  let byteCount := length * 2
  let bufferTx ← twoFields address length
  pure { adu := { unit, fc, data := bufferTx }, broadcast := unit = 0,
         preCheck := [matchesUnitFc unit fc, fun _ => .number (1 + byteCount),
           fun frame => .bool (frame.data[0]? = some byteCount)],
         decode := fun frame => readRegisters (frame.data.drop 1) 0 length }

def readHoldingRegisters (unit address length : Nat) : Option (MasterCall (List Nat)) :=
  writeFC3Or4 unit 0x03 address length

def readInputRegisters (unit address length : Nat) : Option (MasterCall (List Nat)) :=
  writeFC3Or4 unit 0x04 address length

/-- A request whose response echoes `bufferTx`, or its first `echoed` bytes (FC5, FC6, FC15,
FC16, FC22); it resolves with the caller's own `value`. -/
def writeEchoed {α : Type} (unit fc : Nat) (bufferTx : List Nat) (echoed : Nat) (value : α) :
    MasterCall α :=
  { adu := { unit, fc, data := bufferTx }, broadcast := unit = 0,
    preCheck := [matchesUnitFc unit fc, fun _ => .number echoed,
      fun frame => .bool (everyMatches frame.data bufferTx)],
    decode := fun _ => value }

def writeSingleCoil (unit address : Nat) (value : Bool) : Option (MasterCall Bool) := do
  let bufferTx ← twoFields address (if value then 0xff00 else 0x0000)
  pure (writeEchoed unit 0x05 bufferTx bufferTx.length value)

def writeSingleRegister (unit address value : Nat) : Option (MasterCall Nat) := do
  let bufferTx ← twoFields address value
  pure (writeEchoed unit 0x06 bufferTx bufferTx.length value)

def writeMultipleCoils (unit address : Nat) (value : List Bool) : Option (MasterCall (List Bool)) := do
  let byteCount := (value.length + 7) / 8
  let header ← twoFields address value.length
  let count ← writeUInt8 byteCount
  pure (writeEchoed unit 0x0f (header ++ count ++ packBits byteCount value) 4 value)

def writeMultipleRegisters (unit address : Nat) (value : List Nat) :
    Option (MasterCall (List Nat)) := do
  let byteCount := value.length * 2
  let header ← twoFields address value.length
  let count ← writeUInt8 byteCount
  let registers ← writeRegisters value
  pure (writeEchoed unit 0x10 (header ++ count ++ registers) 4 value)

def reportServerId (unit : Nat) : MasterCall ServerId :=
  { adu := { unit, fc := 0x11, data := [] }, broadcast := unit = 0,
    preCheck := [matchesUnitFc unit 0x11,
      fun frame => if frame.data.length ≥ 3 then .number (1 + frame.data.getD 0 0) else .undefined],
    decode := fun frame =>
      { serverId := some (frame.data.getD 1 0),
        runIndicatorStatus := some (frame.data.getD 2 0 = 0xff),
        additionalData := some (frame.data.drop 3) } }

def maskWriteRegister (unit address andMask orMask : Nat) : Option (MasterCall (Nat × Nat)) := do
  let head ← twoFields address andMask
  let tail ← writeUInt16BE orMask
  pure (writeEchoed unit 0x16 (head ++ tail) 6 (andMask, orMask))

def readAndWriteMultipleRegisters (unit readAddress readLength writeAddress : Nat)
    (writeValue : List Nat) : Option (MasterCall (List Nat)) := do
  let byteCount := writeValue.length * 2
  let reads ← twoFields readAddress readLength
  let writes ← twoFields writeAddress writeValue.length
  let count ← writeUInt8 byteCount
  let registers ← writeRegisters writeValue
  pure { adu := { unit, fc := 0x17, data := reads ++ writes ++ count ++ registers },
         broadcast := unit = 0,
         preCheck := [matchesUnitFc unit 0x17, fun _ => .number (1 + byteCount),
           fun frame => .bool (frame.data[0]? = some byteCount)],
         decode := fun frame => readRegisters (frame.data.drop 1) 0 readLength }

/-! ## Read Device Identification -/

/-- `object` of the object-list walk, `[id?, length?, bytes?]`. -/
inductive PartialObject where
  | empty
  | withId (id : Nat)
  | withLength (id length : Nat)
  | withBytes (id length : Nat) (bytes : List Nat)
  deriving DecidableEq, Repr

/-- One byte of the walk's `switch (object.length)`: the object it completes, if any, and the
partial object after it. An object is complete only when a byte pushed onto its value makes the
value as long as its length byte, so a length of `0` or `1` never completes. -/
def walkByte : PartialObject → Nat → Option (Nat × Nat × List Nat) × PartialObject
  | .empty, v => (none, .withId v)
  | .withId id, v => (none, .withLength id v)
  | .withLength id length, v => (none, .withBytes id length [v])
  | .withBytes id length bytes, v =>
    if length = (bytes ++ [v]).length then (some (id, length, bytes ++ [v]), .empty)
    else (none, .withBytes id length (bytes ++ [v]))

/-- `for (const v of frame.data.slice(6))`: the objects completed, in order. -/
def walkObjects (object : PartialObject) : List Nat → List (Nat × Nat × List Nat)
  | [] => []
  | v :: rest => (walkByte object v).1.toList ++ walkObjects (walkByte object v).2 rest

/-- The continuation bytes a UTF-8 lead byte announces, its payload bits, and the range the
first continuation byte must lie in (WHATWG). -/
def utf8Lead (b : Nat) : Option (Nat × Nat × Nat × Nat) :=
  if b ≤ 0x7F then some (0, b, 0x80, 0xBF)
  else if 0xC2 ≤ b ∧ b ≤ 0xDF then some (1, b % 0x20, 0x80, 0xBF)
  else if b = 0xE0 then some (2, 0, 0xA0, 0xBF)
  else if b = 0xED then some (2, 0xD, 0x80, 0x9F)
  else if 0xE1 ≤ b ∧ b ≤ 0xEF then some (2, b % 0x10, 0x80, 0xBF)
  else if b = 0xF0 then some (3, 0, 0x90, 0xBF)
  else if b = 0xF4 then some (3, 4, 0x80, 0x8F)
  else if 0xF1 ≤ b ∧ b ≤ 0xF3 then some (3, b % 0x8, 0x80, 0xBF)
  else none

/-- The UTF-8 decoder between bytes: the continuation bytes the open sequence still needs,
how many it has, its code point so far, and the range the next byte must lie in. -/
structure Utf8State where
  needed : Nat := 0
  seen : Nat := 0
  cp : Nat := 0
  lo : Nat := 0x80
  hi : Nat := 0xBF

/-- A byte met with no sequence open. -/
def utf8Start (b : Nat) : List Char × Utf8State :=
  match utf8Lead b with
  | none => (['\uFFFD'], {})
  | some (0, cp, _, _) => ([Char.ofNat cp], {})
  | some (needed, cp, lo, hi) => ([], { needed, cp, lo, hi })

/-- One byte through the decoder; a byte that cannot continue the open sequence ends it with
U+FFFD and is read again as a new start. -/
def utf8Step (st : Utf8State) (b : Nat) : List Char × Utf8State :=
  if st.needed = 0 then utf8Start b
  else if st.lo ≤ b ∧ b ≤ st.hi then
    if st.seen + 1 = st.needed then ([Char.ofNat (st.cp * 64 + b % 64)], {})
    else ([], { st with seen := st.seen + 1, cp := st.cp * 64 + b % 64, lo := 0x80, hi := 0xBF })
  else ('\uFFFD' :: (utf8Start b).1, (utf8Start b).2)

/-- `Buffer.toString()`: UTF-8 decoding, each ill-formed subsequence replaced by U+FFFD. -/
def utf8Decode (st : Utf8State) : List Nat → List Char
  | [] => if st.needed = 0 then [] else ['\uFFFD']
  | b :: rest => (utf8Step st b).1 ++ utf8Decode (utf8Step st b).2 rest

/-- An object of the response, `{ id, value }`. -/
structure DeviceObject where
  id : Nat
  value : String
  deriving DecidableEq, Repr

/-- `DeviceIdentification`. -/
structure DeviceIdentification where
  readDeviceIDCode : Nat
  conformityLevel : Nat
  moreFollows : Bool
  nextObjectId : Nat
  objects : List DeviceObject
  deriving DecidableEq, Repr

/-- The pre-check that walks the object list: the frame's size once `frame.data[5]` objects are
complete, `false` for a wrong sub-function or read code, `undefined` otherwise. -/
def objectListCheck (readDeviceIDCode : Nat) : PreCheck := fun frame =>
  if frame.data.length ≥ 6 then
    if frame.data.getD 0 0 = 0x0e ∧ frame.data.getD 1 0 = readDeviceIDCode then
      let objects := (walkObjects .empty (frame.data.drop 6)).map fun o => 2 + o.2.1
      if objects.length = frame.data.getD 5 0 then .number (6 + objects.sum) else .undefined
    else .bool false
  else .undefined

def readDeviceIdentification (unit readDeviceIDCode objectId : Nat) :
    MasterCall DeviceIdentification :=
  { adu := { unit, fc := 0x2b, data := [0x0e, readDeviceIDCode, objectId] },
    broadcast := unit = 0,
    preCheck := [matchesUnitFc unit 0x2b, objectListCheck readDeviceIDCode],
    decode := fun frame =>
      { readDeviceIDCode, conformityLevel := frame.data.getD 2 0,
        moreFollows := frame.data.getD 3 0 = 0xff, nextObjectId := frame.data.getD 4 0,
        objects := (walkObjects .empty (frame.data.drop 6)).map fun o =>
          { id := o.1, value := String.mk (utf8Decode {} o.2.2) } } }

end ModbusMaster

end NjsModbus
