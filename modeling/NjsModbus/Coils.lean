import NjsModbus.Utils

/-!
# Coil bits packed into bytes

Both sides of the wire pack booleans LSB-first (the server's FC1/FC2 responses, the client's
FC15 requests) with `buf[~~(index / 8)] |= 1 << index % 8`, and both unpack them with
`(buf[offset + ~~(index / 8)] & (1 << index % 8)) > 0`. `unpackBit_packBits` is the round trip:
unpacking returns every packed bit, whatever comes before the packed bytes.
-/

namespace NjsModbus

/-- `bits.forEach((bit, index) => { if (bit) buf[~~(index / 8)] |= 1 << index % 8 })`, the loop
continuing at `index`; a byte index past the buffer is dropped, as a typed array drops it. -/
def packBitsFrom (buf : List Nat) (index : Nat) : List Bool → List Nat
  | [] => buf
  | bit :: rest =>
    packBitsFrom (if bit then buf.modify (· ||| 1 <<< (index % 8)) (index / 8) else buf)
      (index + 1) rest

/-- `Buffer.alloc(byteCount)`, then `bits` packed into it. -/
def packBits (byteCount : Nat) (bits : List Bool) : List Nat :=
  packBitsFrom (List.replicate byteCount 0) 0 bits

/-- `(bytes[offset + ~~(index / 8)] & (1 << index % 8)) > 0`; a missing byte reads as `0`. -/
def unpackBit (bytes : List Nat) (offset index : Nat) : Bool :=
  (bytes.getD (offset + index / 8) 0 &&& 1 <<< (index % 8)) > 0

@[simp] theorem length_packBitsFrom (buf : List Nat) (index : Nat) (bits : List Bool) :
    (packBitsFrom buf index bits).length = buf.length := by
  induction bits generalizing buf index with
  | nil => rfl
  | cons bit rest ih => simp only [packBitsFrom, ih]; split <;> simp

@[simp] theorem length_packBits (byteCount : Nat) (bits : List Bool) :
    (packBits byteCount bits).length = byteCount := by
  simp [packBits]

theorem testBit_getD_modify_or (buf : List Nat) (p j k b : Nat) :
    ((buf.modify (· ||| 1 <<< k) p).getD j 0).testBit b =
      ((buf.getD j 0).testBit b || (decide (p = j) && decide (j < buf.length) && decide (k = b))) := by
  simp only [List.getD_eq_getElem?_getD, List.getElem?_modify]
  by_cases hj : j < buf.length
  · simp only [List.getElem?_eq_getElem hj, Option.map_eq_map, Option.map_some', Option.getD_some]
    split <;> simp_all [Nat.testBit_or, Nat.one_shiftLeft, Nat.testBit_two_pow]
  · simp [List.getElem?_eq_none (Nat.le_of_not_lt hj), hj]

/-- Setting bit `index % 8` of byte `index / 8` sets exactly bit `b` of byte `j` where
`index = 8 * j + b`. -/
theorem testBit_setBit (buf : List Nat) (index : Nat) {j b : Nat} (hb : b < 8) :
    ((buf.modify (· ||| 1 <<< (index % 8)) (index / 8)).getD j 0).testBit b =
      ((buf.getD j 0).testBit b || (decide (index = 8 * j + b) && decide (j < buf.length))) := by
  rw [testBit_getD_modify_or]
  have hpos : index = 8 * j + b ↔ index / 8 = j ∧ index % 8 = b := by omega
  by_cases h : index = 8 * j + b
  · rw [decide_eq_true (hpos.mp h).1, decide_eq_true (hpos.mp h).2, decide_eq_true h]
    simp
  · have : ¬(index / 8 = j ∧ index % 8 = b) := fun h' => h (hpos.mpr h')
    simp only [h, decide_False, Bool.false_and, Bool.or_false]
    by_cases hj : index / 8 = j <;> simp_all

/-- Bit `b` of byte `j` after the loop: what it was, or the bit the loop put there. -/
theorem testBit_packBitsFrom (buf : List Nat) (index : Nat) (bits : List Bool) {j b : Nat}
    (hb : b < 8) :
    ((packBitsFrom buf index bits).getD j 0).testBit b =
      ((buf.getD j 0).testBit b ||
        (decide (j < buf.length) && decide (index ≤ 8 * j + b) &&
          bits.getD (8 * j + b - index) false)) := by
  induction bits generalizing buf index with
  | nil => simp [packBitsFrom]
  | cons bit rest ih =>
    have hstep : ((if bit then buf.modify (· ||| 1 <<< (index % 8)) (index / 8) else buf).getD j 0).testBit b =
        ((buf.getD j 0).testBit b || (bit && decide (index = 8 * j + b) && decide (j < buf.length))) := by
      cases bit
      · simp
      · rw [if_pos rfl, testBit_setBit buf index hb, Bool.true_and]
    have hlen : (if bit then buf.modify (· ||| 1 <<< (index % 8)) (index / 8) else buf).length =
        buf.length := by split <;> simp
    rw [packBitsFrom, ih, hlen, hstep]
    rcases Nat.lt_trichotomy index (8 * j + b) with hlt | heq | hgt
    · have hsub : 8 * j + b - index = (8 * j + b - (index + 1)) + 1 := by omega
      simp [hsub, hlt.ne, hlt.le, Nat.succ_le_of_lt hlt]
    · subst heq
      cases bit <;> simp [Bool.and_comm]
    · simp [hgt.ne', Nat.not_le.mpr hgt, Nat.not_le.mpr (Nat.lt_succ_of_lt hgt)]

/-- Unpacking returns every packed bit, whatever precedes the packed bytes. -/
theorem unpackBit_packBits (header : List Nat) {byteCount : Nat} {bits : List Bool}
    (h : bits.length ≤ 8 * byteCount) {i : Nat} (hi : i < bits.length) :
    unpackBit (header ++ packBits byteCount bits) header.length i = bits[i] := by
  have hbit := testBit_packBitsFrom (List.replicate byteCount 0) 0 bits (j := i / 8)
    (Nat.mod_lt i (by decide : 8 > 0))
  rw [Nat.div_add_mod, Nat.sub_zero] at hbit
  have hj : i / 8 < byteCount := by omega
  have hzero : (List.replicate byteCount 0).getD (i / 8) 0 = 0 := by
    simp [List.getD_eq_getElem?_getD, List.getElem?_replicate, hj]
  simp only [hzero, Nat.zero_testBit, Bool.false_or, List.length_replicate, hj,
    decide_True, Nat.zero_le, Bool.true_and, List.getD_eq_getElem _ _ hi] at hbit
  simp only [unpackBit, List.getD_append_right _ _ _ _ (Nat.le_add_right _ _),
    Nat.add_sub_cancel_left, Nat.one_shiftLeft, Nat.and_two_pow, packBits, hbit]
  cases bits[i] <;> simp [Nat.two_pow_pos]

/-- The client's and the server's unpacking loop over `length` bits undoes the packing. -/
theorem unpackBits_packBits (header : List Nat) {byteCount : Nat} {bits : List Bool}
    (h : bits.length ≤ 8 * byteCount) :
    (List.range bits.length).map (unpackBit (header ++ packBits byteCount bits) header.length) =
      bits :=
  List.ext_getElem (by simp) fun i hi _ => by
    simp only [List.getElem_map, List.getElem_range]
    exact unpackBit_packBits header h (by simpa using hi)

theorem allBytes_packBitsFrom {buf : List Nat} (hbuf : AllBytes buf) (index : Nat)
    (bits : List Bool) : AllBytes (packBitsFrom buf index bits) := by
  induction bits generalizing buf index with
  | nil => exact hbuf
  | cons bit rest ih =>
    refine ih ?_ _
    split
    · intro x hx
      obtain ⟨j, hj, rfl⟩ := List.getElem_of_mem hx
      rw [List.getElem_modify]
      have hx := hbuf _ (List.getElem_mem (l := buf) (n := j) (by simpa using hj))
      split
      · have h2 : 1 <<< (index % 8) < 2 ^ 8 := by
          rw [Nat.one_shiftLeft]; exact Nat.pow_lt_pow_right (by decide) (Nat.mod_lt _ (by decide))
        exact Nat.or_lt_two_pow hx h2
      · exact hx
    · exact hbuf

theorem allBytes_packBits (byteCount : Nat) (bits : List Bool) :
    AllBytes (packBits byteCount bits) :=
  allBytes_packBitsFrom (by simp [AllBytes, List.mem_replicate]) 0 bits

end NjsModbus
