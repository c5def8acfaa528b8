import Mathlib

/-!
# Shared utilities: buffers, `lrc`, `crc` and `checkRange`

The helpers of `src/utils` and the pieces of Node's `Buffer` the protocol engine uses.

* Buffers are lists of numbers. A byte buffer holds numbers below `256`; `AllBytes` says so
  and carries through `++`. The `write*` helpers return `none` exactly where Node's
  `buf.writeUInt8` / `buf.writeUInt16BE` / `buf.writeUInt16LE` throw `ERR_OUT_OF_RANGE`.
* `lrc` is `src/utils/lrc.ts` with JavaScript's 32-bit `~` and `&` spelled out (`toInt32`).
* `crc` is the MODBUS CRC-16 the RTU framer imports from `src/utils`.
* `checkRange` is `src/utils/checkRange.ts` over both permitted-range shapes. On a
  well-formed configuration it accepts the points one interval holds (`checkRange_iff`).
-/

namespace NjsModbus

/-! ## Byte buffers -/

/-- Every entry of a buffer is a byte. -/
def AllBytes (l : List Nat) : Prop := ∀ b ∈ l, b < 256

@[simp] theorem allBytes_nil : AllBytes [] := by simp [AllBytes]

@[simp] theorem allBytes_cons {b : Nat} {l : List Nat} :
    AllBytes (b :: l) ↔ b < 256 ∧ AllBytes l := by simp [AllBytes]

@[simp] theorem allBytes_append {l l' : List Nat} :
    AllBytes (l ++ l') ↔ AllBytes l ∧ AllBytes l' := by
  simp only [AllBytes, List.mem_append]; aesop

/-- `buf.writeUInt8(value)`: the one byte written, or `none` where Node throws. -/
def writeUInt8 (value : Nat) : Option (List Nat) :=
  if value ≤ 0xff then some [value] else none

/-- `buf.writeUInt16BE(value)`: high byte first. -/
def writeUInt16BE (value : Nat) : Option (List Nat) :=
  if value ≤ 0xffff then some [value / 256, value % 256] else none

/-- `buf.writeUInt16LE(value)`: low byte first. -/
def writeUInt16LE (value : Nat) : Option (List Nat) :=
  if value ≤ 0xffff then some [value % 256, value / 256] else none

/-- `data.forEach((num, index) => buffer.writeUInt8(num, offset + index))`: the whole list is
written, or the first number out of range throws. -/
def writeBytes (data : List Nat) : Option (List Nat) :=
  if data.all (· ≤ 0xff) then some data else none

/-- `buf.readUInt16BE(offset)`. -/
def readUInt16BE (buf : List Nat) (offset : Nat) : Nat :=
  buf.getD offset 0 * 256 + buf.getD (offset + 1) 0

/-- `buf.readUInt16LE(offset)`. -/
def readUInt16LE (buf : List Nat) (offset : Nat) : Nat :=
  buf.getD offset 0 + buf.getD (offset + 1) 0 * 256

/-- `values.forEach((v, i) => buf.writeUInt16BE(v, offset + i * 2))`: the fields written, or
`none` where one is out of range. -/
def writeRegisters (values : List Nat) : Option (List Nat) :=
  (values.mapM writeUInt16BE).map List.flatten

/-- `buf.readUInt16BE(offset + index * 2)` for every index below `length`. -/
def readRegisters (buf : List Nat) (offset length : Nat) : List Nat :=
  (List.range length).map fun index => readUInt16BE buf (offset + index * 2)

theorem writeUInt8_of_lt {v : Nat} (h : v < 256) : writeUInt8 v = some [v] := by
  simp [writeUInt8]; omega

theorem writeUInt16BE_of_lt {v : Nat} (h : v < 65536) :
    writeUInt16BE v = some [v / 256, v % 256] := by
  simp [writeUInt16BE]; omega

theorem writeUInt16LE_of_lt {v : Nat} (h : v < 65536) :
    writeUInt16LE v = some [v % 256, v / 256] := by
  simp [writeUInt16LE]; omega

theorem writeBytes_of_allBytes {l : List Nat} (h : AllBytes l) : writeBytes l = some l := by
  simp only [writeBytes, List.all_eq_true, decide_eq_true_eq, ite_eq_left_iff]
  exact fun h' => absurd (fun b hb => Nat.le_of_lt_succ (h b hb)) h'

@[simp] theorem writeUInt8_eq_some {v : Nat} {l : List Nat} :
    writeUInt8 v = some l ↔ v < 256 ∧ [v] = l := by
  unfold writeUInt8; split <;> simp <;> omega

@[simp] theorem writeUInt16BE_eq_some {v : Nat} {l : List Nat} :
    writeUInt16BE v = some l ↔ v < 65536 ∧ [v / 256, v % 256] = l := by
  unfold writeUInt16BE; split <;> simp <;> omega

@[simp] theorem writeUInt16LE_eq_some {v : Nat} {l : List Nat} :
    writeUInt16LE v = some l ↔ v < 65536 ∧ [v % 256, v / 256] = l := by
  unfold writeUInt16LE; split <;> simp <;> omega

@[simp] theorem writeBytes_eq_some {data l : List Nat} :
    writeBytes data = some l ↔ AllBytes data ∧ data = l := by
  have hbytes : (∀ b ∈ data, b ≤ 0xff) ↔ AllBytes data := forall₂_congr fun b _ => by omega
  simp only [writeBytes, List.all_eq_true, decide_eq_true_eq]
  split <;> simp_all

@[simp] theorem readUInt16BE_cons_cons (hi lo : Nat) (rest : List Nat) :
    readUInt16BE (hi :: lo :: rest) 0 = hi * 256 + lo := rfl

@[simp] theorem readUInt16BE_cons_succ (b : Nat) (rest : List Nat) (k : Nat) :
    readUInt16BE (b :: rest) (k + 1) = readUInt16BE rest k := rfl

@[simp] theorem readUInt16LE_append (l : List Nat) (lo hi : Nat) :
    readUInt16LE (l ++ [lo, hi]) l.length = lo + hi * 256 := by
  rw [readUInt16LE, List.getD_append_right _ _ _ _ (Nat.le_refl _),
    List.getD_append_right _ _ _ _ (Nat.le_succ _)]
  simp

/-- A 16-bit value written big-endian reads back. -/
theorem readUInt16BE_split (v : Nat) (rest : List Nat) :
    readUInt16BE ([v / 256, v % 256] ++ rest) 0 = v := by
  simp only [List.cons_append, List.nil_append, readUInt16BE_cons_cons]; omega

theorem allBytes_split {v : Nat} (h : v < 65536) : AllBytes [v / 256, v % 256] := by
  simp only [allBytes_cons, allBytes_nil, and_true]; omega

/-- The bytes `writeRegisters` lays out: each value high byte first. -/
def registerBytes (values : List Nat) : List Nat := values.flatMap fun v => [v / 256, v % 256]

@[simp] theorem registerBytes_nil : registerBytes [] = [] := rfl

@[simp] theorem registerBytes_cons (v : Nat) (rest : List Nat) :
    registerBytes (v :: rest) = v / 256 :: v % 256 :: registerBytes rest := rfl

@[simp] theorem length_registerBytes (values : List Nat) :
    (registerBytes values).length = 2 * values.length := by
  induction values with
  | nil => rfl
  | cons v rest ih => simp [ih]; omega

theorem allBytes_registerBytes (values : List Nat) (h : ∀ v ∈ values, v < 65536) :
    AllBytes (registerBytes values) := by
  induction values with
  | nil => simp
  | cons v rest ih =>
    have hv := h v (List.mem_cons_self _ _)
    simp only [registerBytes_cons, allBytes_cons]
    exact ⟨by omega, by omega, ih fun w hw => h w (List.mem_cons_of_mem _ hw)⟩

/-- Registers that are all 16-bit are written whole. -/
theorem writeRegisters_of_lt {values : List Nat} (h : ∀ v ∈ values, v < 65536) :
    writeRegisters values = some (registerBytes values) := by
  suffices hm : values.mapM writeUInt16BE = some (values.map fun v => [v / 256, v % 256]) by
    rw [writeRegisters, hm]; rfl
  induction values with
  | nil => rfl
  | cons v rest ih =>
    rw [List.mapM_cons, writeUInt16BE_of_lt (h v (List.mem_cons_self _ _)),
      ih fun w hw => h w (List.mem_cons_of_mem _ hw)]
    rfl

@[simp] theorem readRegisters_cons_succ (b : Nat) (buf : List Nat) (offset length : Nat) :
    readRegisters (b :: buf) (offset + 1) length = readRegisters buf offset length :=
  List.map_congr_left fun index _ => by rw [Nat.add_right_comm, readUInt16BE_cons_succ]

/-- Reading past a prefix reads what follows it. -/
theorem readRegisters_append (pre rest : List Nat) (length : Nat) :
    readRegisters (pre ++ rest) pre.length length = readRegisters rest 0 length := by
  induction pre with
  | nil => rfl
  | cons b pre ih => rw [List.cons_append, List.length_cons, readRegisters_cons_succ, ih]

theorem readRegisters_cons_cons (hi lo : Nat) (buf : List Nat) (length : Nat) :
    readRegisters (hi :: lo :: buf) 0 (length + 1) = (hi * 256 + lo) :: readRegisters buf 0 length := by
  simp only [readRegisters, List.range_succ_eq_map, List.map_cons, List.map_map]
  exact congrArg _ (List.map_congr_left fun index _ => by simp [Nat.succ_mul])

/-- `readRegisters` reads back what `writeRegisters` wrote, whatever follows it. -/
theorem readRegisters_registerBytes {values : List Nat} (h : ∀ v ∈ values, v < 65536)
    (rest : List Nat) : readRegisters (registerBytes values ++ rest) 0 values.length = values := by
  induction values with
  | nil => rfl
  | cons v vs ih =>
    have hv := h v (List.mem_cons_self _ _)
    simp only [registerBytes_cons, List.cons_append, List.length_cons, readRegisters_cons_cons,
      ih fun w hw => h w (List.mem_cons_of_mem _ hw)]
    congr 1
    omega

/-! ## JavaScript's 32-bit bitwise operators -/

/-- `ToInt32`: the operand of `~`, `&`, `|` reduced to a signed 32-bit integer. -/
def toInt32 (x : Int) : Int := (x + 2 ^ 31) % 2 ^ 32 - 2 ^ 31

/-- `~x`. -/
def bitNot (x : Int) : Int := -toInt32 x - 1

/-- `x & 0xff`. -/
def andFF (x : Int) : Nat := (toInt32 x % 256).toNat

/-! ## LRC -/

/-- `lrc(data)`: `(~data.reduce((sum, n) => sum + n, 0) + 1) & 0xff`. -/
def lrc (data : List Nat) : Nat :=
  andFF (bitNot (data.foldl (· + ·) 0) + 1)

theorem lrc_lt (data : List Nat) : lrc data < 256 := by
  unfold lrc andFF
  omega

/-- The `reduce` inside `lrc`, over the bytes as JavaScript numbers, is their sum. -/
theorem foldl_add_flatMap_cast (data : List Nat) (acc : Int) :
    (data.flatMap fun a => [(a : Int)]).foldl (· + ·) acc = acc + data.sum := by
  induction data generalizing acc with
  | nil => simp
  | cons v rest ih =>
    simp only [List.flatMap_cons, List.singleton_append, List.foldl_cons, ih, List.sum_cons]
    omega

/-- `lrc` is the two's-complement negation of the low byte of the sum. -/
theorem lrc_eq (data : List Nat) : lrc data = (256 - data.sum % 256) % 256 := by
  unfold lrc andFF bitNot toInt32
  simp only [List.pure_def, List.bind_eq_flatMap, foldl_add_flatMap_cast]
  omega

/-- `lrc` is a byte, the two's-complement negation of the low byte of the sum: the sum and the
LRC add up to a multiple of 256, whatever the sum does to the 32-bit `~`. -/
theorem lrc_neg_sum (data : List Nat) :
    lrc data < 256 ∧ (data.sum + lrc data) % 256 = 0 ∧ lrc data = (256 - data.sum % 256) % 256 := by
  refine ⟨lrc_lt data, ?_, lrc_eq data⟩
  rw [lrc_eq]
  omega

/-! ## CRC-16 -/

/-- One right shift of the reflected CRC-16 register, folding in the polynomial `0xA001`
when the bit shifted out is set. -/
def crcShift (c : Nat) : Nat :=
  if c % 2 = 1 then c / 2 ^^^ 0xA001 else c / 2

/-- One byte into the CRC-16 register: xor it in, then eight shifts. -/
def crcStep (c b : Nat) : Nat := crcShift^[8] (c ^^^ b)

/-- Modelled from the spec: `crc` of `src/utils`, which the RTU layer imports, is not in the
repository. It is the MODBUS CRC-16 of the spec's §4.6: reflected, polynomial `0xA001`, initial
value `0xFFFF`. -/
def crc (data : List Nat) : Nat := data.foldl crcStep 0xFFFF

theorem crcShift_lt {c : Nat} (h : c < 2 ^ 16) : crcShift c < 2 ^ 16 := by
  unfold crcShift
  split
  · exact Nat.xor_lt_two_pow (by omega) (by decide)
  · omega

theorem crcStep_lt {c b : Nat} (hc : c < 2 ^ 16) (hb : b < 256) : crcStep c b < 2 ^ 16 := by
  have hx : c ^^^ b < 2 ^ 16 := Nat.xor_lt_two_pow hc (by omega)
  unfold crcStep
  generalize c ^^^ b = x at hx
  induction 8 generalizing x with
  | zero => exact hx
  | succ n ih => rw [Function.iterate_succ_apply]; exact ih _ (crcShift_lt hx)

/-- The CRC of a byte buffer fits the two bytes the RTU trailer gives it. -/
theorem crc_lt {data : List Nat} (h : AllBytes data) : crc data < 65536 := by
  suffices ∀ c, c < 2 ^ 16 → data.foldl crcStep c < 2 ^ 16 from this _ (by decide)
  induction data with
  | nil => exact fun _ hc => hc
  | cons b rest ih =>
    rw [allBytes_cons] at h
    intro c hc
    rw [List.foldl_cons]
    exact ih h.2 _ (crcStep_lt hc h.1)

/-! ## Address ranges -/

/-- A permitted-range configuration of one data table: a single `[lo, hi]` or a list of
them (`[number, number] | [number, number][]`). -/
inductive AddressRange where
  | interval (lo hi : Int)
  | intervals (ranges : List (Int × Int))
  deriving DecidableEq, Repr

/-- Every queried point lies in `[lo, hi]`. -/
def inInterval (value : List Nat) (lo hi : Int) : Bool :=
  value.all fun n => lo ≤ n && (n : Int) ≤ hi

/-- `checkRange(value, range)`. A scalar argument is passed as the one-element list the source
wraps it into. A single interval with `lo ≥ hi` and an empty list accept everything, as the
source's fall-through `return true` does. -/
def checkRange (value : List Nat) : Option AddressRange → Bool
  | none => true
  | some (.interval lo hi) => if lo < hi then inInterval value lo hi else true
  | some (.intervals ranges) =>
    if ranges.length > 0 then ranges.any fun r => decide (r.1 < r.2) && inInterval value r.1 r.2
    else true

/-! ## What the address check accepts -/

/-- The intervals of a permitted-range configuration; an undefined one has none. -/
def rangeIntervals : Option AddressRange → List (Int × Int)
  | none => []
  | some (.interval lo hi) => [(lo, hi)]
  | some (.intervals ranges) => ranges

/-- A permitted-range configuration as `getAddressRange` documents it: every interval has
`lo < hi`. -/
def WellFormedRange (range : Option AddressRange) : Prop :=
  ∀ p ∈ rangeIntervals range, p.1 < p.2

instance : DecidablePred WellFormedRange := fun range =>
  inferInstanceAs (Decidable (∀ p ∈ rangeIntervals range, p.1 < p.2))

/-- Every element `start, …, start + count - 1` of a block lies in the interval `p`. -/
def blockIn (p : Int × Int) (start count : Nat) : Bool :=
  (List.range' start count).all fun x => p.1 ≤ x && (x : Int) ≤ p.2

/-- A non-empty block lies in an interval when its ends do. -/
theorem blockIn_iff (p : Int × Int) (start : Nat) {count : Nat} (h : 0 < count) :
    blockIn p start count = true ↔ p.1 ≤ start ∧ ((start + count - 1 : Nat) : Int) ≤ p.2 := by
  simp only [blockIn, List.all_eq_true, List.mem_range', Bool.and_eq_true, decide_eq_true_eq]
  constructor
  · intro hall
    exact ⟨(hall start ⟨0, h, by omega⟩).1, (hall (start + count - 1) ⟨count - 1, by omega, by omega⟩).2⟩
  · rintro ⟨hlo, hhi⟩ x ⟨i, hi, rfl⟩
    omega

/-- On a well-formed configuration, `checkRange` accepts the points that lie together in one
interval, and everything when there is no interval. -/
theorem checkRange_iff {range : Option AddressRange} (hr : WellFormedRange range) (value : List Nat) :
    checkRange value range = true ↔
      rangeIntervals range = [] ∨ ∃ p ∈ rangeIntervals range, ∀ n ∈ value, p.1 ≤ n ∧ (n : Int) ≤ p.2 := by
  unfold WellFormedRange at hr
  match range, hr with
  | none, _ => simp [checkRange, rangeIntervals]
  | some (.interval lo hi), hr =>
    have hlt : lo < hi := hr (lo, hi) (List.mem_singleton_self _)
    simp [checkRange, rangeIntervals, hlt, inInterval]
  | some (.intervals []), _ => simp [checkRange, rangeIntervals]
  | some (.intervals (q :: rest)), hr =>
    simp only [rangeIntervals] at hr ⊢
    simp only [checkRange, List.length_cons, Nat.succ_pos, if_true, List.any_eq_true, Bool.and_eq_true,
      decide_eq_true_eq, inInterval, List.all_eq_true, reduceCtorEq, false_or]
    exact ⟨fun ⟨p, hp, _, hin⟩ => ⟨p, hp, hin⟩, fun ⟨p, hp, hin⟩ => ⟨p, hp, hr p hp, hin⟩⟩

/-- The ends `[address, address + length]` lie in an interval exactly when the block of
`length + 1` elements from `address` does. -/
theorem ends_in_iff_blockIn (p : Int × Int) (address length : Nat) :
    (∀ n ∈ [address, address + length], p.1 ≤ n ∧ (n : Int) ≤ p.2) ↔
      blockIn p address (length + 1) = true := by
  rw [blockIn_iff p address (Nat.succ_pos length)]
  simp only [List.mem_cons, List.mem_singleton, forall_eq_or_imp, forall_eq, List.not_mem_nil,
    false_implies, implies_true, and_true]
  omega

example : checkRange [0, 0 + 10] (some (.interval 0 9)) = false ∧ blockIn (0, 9) 0 10 = true := by decide

end NjsModbus
