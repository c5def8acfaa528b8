import NjsModbus.Slave.Model

/-!
# FC43/14, Read Device Identification, on the server

`ModbusSlave.handleFC43_14`. After the request checks and the start-id switch it reads the
model's identification into a `Map` seeded with the objects `0x00`–`0x02` (`seedObjects`), walks
that map in its insertion order (`walkIdentification`), and packs the ids the walk kept, sorted,
as `[id, value.length, ...Buffer.from(value)]`.

Lengths are JavaScript string lengths, in UTF-16 code units (`utf16Length`), while the bytes
written are the UTF-8 encoding (`utf8Bytes`); a Lean `String` holds no lone surrogate, so
`Buffer.from` never needs its replacement character.
-/

namespace NjsModbus

/-! ## Maps in insertion order -/

/-- `map.set(key, value)` on a `Map` kept as its entries in insertion order: an existing key
keeps its place, a new one goes last. -/
def mapSet {β : Type} (m : List (Nat × β)) (key : Nat) (value : β) : List (Nat × β) :=
  if m.any (·.1 = key) then m.map fun e => if e.1 = key then (key, value) else e
  else m ++ [(key, value)]

theorem keys_mapSet {β : Type} (m : List (Nat × β)) (key : Nat) (value : β) :
    (mapSet m key value).map (·.1) =
      if m.any (·.1 = key) then m.map (·.1) else m.map (·.1) ++ [key] := by
  unfold mapSet
  split
  · simp only [List.map_map]
    congr 1
    funext e
    simp only [Function.comp]
    split <;> simp_all
  · simp

/-- `map.set` keeps the keys of a `Map` distinct. -/
theorem nodup_keys_mapSet {β : Type} {m : List (Nat × β)} (h : (m.map (·.1)).Nodup) (key : Nat)
    (value : β) : ((mapSet m key value).map (·.1)).Nodup := by
  rw [keys_mapSet]
  split
  · exact h
  · rename_i hkey
    refine h.append (List.nodup_singleton key) ?_
    simp only [List.disjoint_singleton, List.mem_map]
    rintro ⟨e, he, rfl⟩
    exact hkey (List.any_eq_true.mpr ⟨e, he, by simp⟩)

/-! ## Strings -/

/-- The UTF-16 code units of a character. -/
def utf16Units (c : Char) : Nat := if c.toNat > 0xFFFF then 2 else 1

/-- `value.length`: the string's UTF-16 code units. -/
def utf16Length (value : String) : Nat := (value.data.map utf16Units).sum

/-- The UTF-8 bytes of a character. -/
def utf8Encode (c : Char) : List Nat :=
  let n := c.toNat
  if n < 0x80 then [n]
  else if n < 0x800 then [0xC0 + n / 64, 0x80 + n % 64]
  else if n < 0x10000 then [0xE0 + n / 4096, 0x80 + n / 64 % 64, 0x80 + n % 64]
  else [0xF0 + n / 262144, 0x80 + n / 4096 % 64, 0x80 + n / 64 % 64, 0x80 + n % 64]

/-- `Array.from(Buffer.from(value))`: the UTF-8 bytes of a string. -/
def utf8Bytes (value : String) : List Nat := value.data.flatMap utf8Encode

namespace ModbusSlave

variable (encode : ApplicationDataUnit → Option (List Nat))

/-! ## The walk over the objects -/

/-- The `switch (readDeviceIDCode)`: the start id the handler goes on with, or the exception it
answers with. -/
def startObjectId (readDeviceIDCode objectID : Nat) : Except ErrorCode Nat :=
  match readDeviceIDCode with
  | 0x01 => .ok (if objectID > 0x02 ∨ (objectID > 0x06 ∧ objectID < 0x80) then 0x00 else objectID)
  | 0x02 => .ok (if objectID ≥ 0x80 ∨ (objectID > 0x06 ∧ objectID < 0x80) then 0x00 else objectID)
  | 0x03 => .ok (if objectID > 0x06 ∧ objectID < 0x80 then 0x00 else objectID)
  | 0x04 => if objectID > 0x06 ∧ objectID < 0x80 then .error .ILLEGAL_DATA_ADDRESS else .ok objectID
  | _ => .error .ILLEGAL_DATA_VALUE

/-- The `objects` map: `0x00`–`0x02` seeded with `'null'`, then every entry of the model's
identification whose id lies in `0`–`255`. -/
def seedObjects (identification : Identification) : List (Nat × String) :=
  identification.entries.foldl
    (fun objects e => if e.1 ≤ 255 then mapSet objects e.1 e.2 else objects)
    [(0x00, "null"), (0x01, "null"), (0x02, "null")]

/-- The walk's accumulators. -/
structure ObjectWalk where
  ids : List Nat := []
  totalLength : Nat := 10
  lastID : Nat := 0
  conformityLevel : Nat := 0x81
  deriving DecidableEq, Repr

/-- The `for (const [id, value] of objects.entries())` loop: the accumulators at its end (or at
the `break` after the one object of an individual access), or the exception a
`responseError(...); return` inside it answers with. -/
def walkIdentification (readDeviceIDCode objectID : Nat) :
    List (Nat × String) → ObjectWalk → Except ErrorCode ObjectWalk
  | [], w => .ok w
  | (id, value) :: rest, w =>
    if id < 0x00 ∨ (id ≥ 0x07 ∧ id ≤ 0x7f) ∨ id > 0xff then .error .SERVER_DEVICE_FAILURE
    else
      let w := { w with conformityLevel :=
        if id > 0x80 then 0x83 else if id > 0x02 then 0x82 else w.conformityLevel }
      if objectID > id then walkIdentification readDeviceIDCode objectID rest w
      else if utf16Length value > 245 then .error .SERVER_DEVICE_FAILURE
      else if w.lastID ≠ 0 then walkIdentification readDeviceIDCode objectID rest w
      else if utf16Length value + 2 > 253 - w.totalLength then
        walkIdentification readDeviceIDCode objectID rest { w with lastID := id }
      else
        let w := { w with totalLength := w.totalLength + utf16Length value + 2, ids := w.ids ++ [id] }
        if readDeviceIDCode = 0x04 then .ok w
        else walkIdentification readDeviceIDCode objectID rest w

/-- One step of the insertion that sorts ascending. -/
def insertAscending (x : Nat) : List Nat → List Nat
  | [] => [x]
  | y :: ys => if x ≤ y then x :: y :: ys else y :: insertAscending x ys

/-- `ids.sort((a, b) => a - b)`. -/
def sortAscending : List Nat → List Nat
  | [] => []
  | x :: xs => insertAscending x (sortAscending xs)

/-- The response data: sub-function, read code, conformity level, more-follows flag, next
object id, object count, then each kept object. -/
def identificationData (readDeviceIDCode : Nat) (objects : List (Nat × String)) (w : ObjectWalk) :
    List Nat :=
  [0x0e, readDeviceIDCode, w.conformityLevel, if w.lastID = 0 then 0x00 else 0xff, w.lastID,
    w.ids.length] ++
  (sortAscending w.ids).flatMap fun id =>
    let value := ((objects.lookup id).getD "")
    [id, utf16Length value] ++ utf8Bytes value

/-- The `then` of the handler's chain: the response to the model's identification. -/
def identificationResponse (frame : ApplicationDataUnit) (readDeviceIDCode objectID : Nat)
    (identification : Identification) : Except Error (List Nat) :=
  let objects := seedObjects identification
  let start := if objects.any (·.1 = objectID) then some objectID
    else if readDeviceIDCode = 0x04 then none else some 0x00
  match start with
  | none => responseError encode frame (getErrorByCode .ILLEGAL_DATA_ADDRESS)
  | some objectID =>
    match walkIdentification readDeviceIDCode objectID objects {} with
    | .error code => responseError encode frame (getErrorByCode code)
    | .ok w => encodeWith encode frame (identificationData readDeviceIDCode objects w)

/-- FC43/14, Read Device Identification. -/
def handleFC43_14 (model : ModbusSlaveModel) (frame : ApplicationDataUnit) : Run :=
  if frame.data.length = 3 then
    match frame.data.getD 0 0 == 0x0e, model.readDeviceIdentification with
    | true, some read =>
      let readDeviceIDCode := frame.data.getD 1 0
      match startObjectId readDeviceIDCode (frame.data.getD 2 0) with
      | .error code => exception encode frame code
      | .ok objectID =>
        chain (.call .readDeviceIdentification read)
          (identificationResponse encode frame readDeviceIDCode objectID)
          (responseError encode frame)
    | _, _ => exception encode frame .ILLEGAL_FUNCTION
  else {}

end ModbusSlave

end NjsModbus
