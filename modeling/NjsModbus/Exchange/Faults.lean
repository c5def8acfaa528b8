import NjsModbus.Exchange.Wire
import NjsModbus.Master.Requests

/-!
# Requests the client refuses the answer to

Two function codes whose responses the client and the server size differently, so that the
client refuses a response the server built as the protocol says.

* FC23: the server's response carries the `read.length` registers read; the client's
  pre-checks ask for `write.value.length` of them (`readAndWriteMultipleRegisters_refuses`).
* FC43/14: the client's object-list walk completes an object only when a byte pushed onto its
  value makes the value as long as its length byte, so a value of zero or one bytes is never
  completed and swallows every object after it (`walkObjects_packObjects`).
-/

namespace NjsModbus

namespace Variant

/-- A passing check, then a length that is not the frame's: every framing refuses the frame. -/
theorem preCheck_length_ne (v : Variant) {first second : PreCheck} {rest : List PreCheck}
    {frame : Frame} {res : Nat} (h1 : first frame = .bool true) (h2 : second frame = .number res)
    (hne : res ≠ frame.data.length) : v.layer.preCheck (first :: second :: rest) frame ≠ none := by
  cases v <;>
  simp only [layer, RtuApplicationLayer.layer, AsciiApplicationLayer.layer, TcpApplicationLayer.layer,
    RtuApplicationLayer.preCheck, TcpApplicationLayer.preCheck, preCheckLoop,
    AsciiApplicationLayer.preCheck, h1, h2, if_true] <;>
  split <;> simp [hne, Ne.symm hne]

end Variant

/-! ## FC23 -/

/-- Every response `registersResponse` builds for `length` registers has `1 + length * 2`
bytes, whatever the model read. -/
theorem length_registersResponse {length : Nat} {registers d : List Nat}
    (h : ModbusSlave.registersResponse length registers = .ok d) : d.length = 1 + length * 2 := by
  unfold ModbusSlave.registersResponse at h
  split at h
  · rename_i bufferTx hfill
    cases h
    simp only [ModbusSlave.fillRegisters, Option.bind_eq_bind, Option.bind_eq_some] at hfill
    obtain ⟨bytes, -, hif⟩ := hfill
    split at hif
    · cases hif; simp; omega
    · cases hif
  · cases h

/-- The client sizes the FC23 response from the write count, the server from the read count:
when the two differ, every framing refuses every frame of the request's unit and code that
carries a response the server built for the read. -/
theorem readAndWriteMultipleRegisters_refuses (v : Variant)
    {unit readAddress readLength writeAddress : Nat} {writeValue : List Nat}
    {c : MasterCall (List Nat)}
    (hc : ModbusMaster.readAndWriteMultipleRegisters unit readAddress readLength writeAddress
      writeValue = some c)
    {registers : List Nat} {f : Frame} (hfu : f.unit = unit) (hff : f.fc = 0x17)
    (hd : ModbusSlave.registersResponse readLength registers = .ok f.data)
    (hne : readLength ≠ writeValue.length) : v.layer.preCheck c.preCheck f ≠ none := by
  simp only [ModbusMaster.readAndWriteMultipleRegisters, Option.bind_eq_bind, Option.bind_eq_some,
    Option.pure_def, Option.some.injEq] at hc
  obtain ⟨_, -, _, -, _, -, _, -, rfl⟩ := hc
  exact v.preCheck_length_ne (by simp [matchesUnitFc, hfu, hff]) rfl
    (by rw [length_registersResponse hd]; omega)

/-- Read one register and write two: the model is written and then read, the server answers
with the one register, and the client rejects the answer with "Invalid response", the case
`readLength = 1 ≠ 2 = writeValue.length` of `readAndWriteMultipleRegisters_refuses`. -/
theorem readAndWriteMultipleRegisters_rejected :
    ((ModbusMaster.readAndWriteMultipleRegisters 1 0 1 0 [0, 0]).bind fun c =>
      (exchange .tcp
        ⟨[(1,
          { readHoldingRegisters := some fun _ _ => .value [5],
            writeMultipleRegisters := some fun _ _ => .value () })], by decide⟩
        c.toWaitRequest).map fun r => (r.1, r.2.settlements)) =
      some ([.writeMultipleRegisters 0 [0, 0], .readHoldingRegisters 0 1],
        [⟨0, .callback, .rejected invalidResponse⟩]) := by
  decide

/-! ## FC43/14 -/

namespace ModbusMaster

/-- A value that already has its length's bytes is never completed: the walk only checks the
length after pushing a byte. -/
theorem walkObjects_overrun {id length : Nat} {bytes : List Nat} (h : length ≤ bytes.length)
    (rest : List Nat) : walkObjects (.withBytes id length bytes) rest = [] := by
  induction rest generalizing bytes with
  | nil => rfl
  | cons v rest ih =>
    have hne : length ≠ (bytes ++ [v]).length := by simp; omega
    simp only [walkObjects, walkByte, if_neg hne, Option.toList, List.nil_append]
    exact ih (by simp; omega)

/-- The bytes of a value that is still short of its length complete it once they reach it. -/
theorem walkObjects_value {id length : Nat} {acc : List Nat} (bs rest : List Nat)
    (h : acc.length + bs.length = length) (hacc : acc.length < length) :
    walkObjects (.withBytes id length acc) (bs ++ rest) =
      (id, length, acc ++ bs) :: walkObjects .empty rest := by
  induction bs generalizing acc with
  | nil => simp at h; omega
  | cons b bs ih =>
    by_cases hb : bs = []
    · subst hb
      have heq : length = acc.length + 1 := by simp at h; omega
      simp [walkObjects, walkByte, heq]
    · have hpos := List.length_pos.mpr hb
      have hbyte : walkByte (.withBytes id length acc) b = (none, .withBytes id length (acc ++ [b])) :=
        if_neg (by simp at h ⊢; omega)
      rw [List.cons_append, walkObjects, hbyte,
        @ih (acc ++ [b]) (by simp at h ⊢; omega) (by simp at h ⊢; omega)]
      simp

/-- The walk over objects packed as the server packs them, `[id, value.length, ...value]`,
completes exactly the objects before the first value shorter than two bytes. -/
theorem walkObjects_packObjects (objects : List (Nat × List Nat)) :
    walkObjects .empty (objects.flatMap fun o => o.1 :: o.2.length :: o.2) =
      (objects.takeWhile fun o => 2 ≤ o.2.length).map fun o => (o.1, o.2.length, o.2) := by
  induction objects with
  | nil => rfl
  | cons o objects ih =>
    obtain ⟨id, value⟩ := o
    show walkObjects .empty (id :: value.length :: (value ++ objects.flatMap _)) = _
    generalize objects.flatMap (fun o => o.1 :: o.2.length :: o.2) = rest at ih ⊢
    match value, rest with
    | [], [] => rfl
    | [], b :: rest => exact walkObjects_overrun (Nat.zero_le _) rest
    | [b], rest => exact @walkObjects_overrun id 1 [b] (le_refl 1) rest
    | b :: b' :: more, rest =>
      calc walkObjects .empty (id :: (b :: b' :: more).length :: (b :: b' :: more ++ rest))
          = walkObjects (.withBytes id (b :: b' :: more).length [b]) (b' :: more ++ rest) := rfl
        _ = (id, (b :: b' :: more).length, b :: b' :: more) :: walkObjects .empty rest :=
          walkObjects_value (b' :: more) rest (by simp; omega) (by simp)
        _ = _ := by rw [ih]; simp

end ModbusMaster

/-- An identification whose object `0` is the one-character `"A"`: the server answers the
basic read with the three objects `0`–`2`, and the client, whose walk never completes the
first (`walkObjects_packObjects`: no object before the first value shorter than two bytes is
lost, and every object from it on is), finds fewer objects than the count byte says and rejects
the answer with "Insufficient data length". -/
theorem readDeviceIdentification_rejected :
    (exchange .tcp
      ⟨[(1,
        { readDeviceIdentification := some (.value ⟨[(0, "A")], List.pairwise_singleton _ _⟩) })],
        by decide⟩
      (ModbusMaster.readDeviceIdentification 1 1 0).toWaitRequest).map
      (fun r => (r.1, r.2.settlements)) =
      some ([.readDeviceIdentification], [⟨0, .callback, .rejected insufficientDataLength⟩]) := by
  decide

end NjsModbus
