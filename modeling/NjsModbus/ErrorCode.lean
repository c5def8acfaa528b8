import NjsModbus.Types

/-!
# `src/error-code`: exception codes and the errors that carry them

`getErrorByCode(code)` is `new Error('MODBUS_ERROR_CODE_' + code)`; `getCodeByError(err)` reads
the suffix back with `Number(...)` when the message has the prefix, and is
`SERVER_DEVICE_FAILURE` otherwise. `Number` accepts far more than the nine codes, so
`getCodeByError` yields a `JsNumber`, and what the server can send of it is what `writeUInt8`
makes of that number (`JsNumber.toUInt8`). `Number()` reads the decimal digits `toString`
writes back as the number (`jsNumber_toString`), so an error made of the prefix and any natural
number carries that number (`getCodeByError_prefix`).
-/

namespace NjsModbus

/-- `ErrorCode`. -/
inductive ErrorCode where
  | ILLEGAL_FUNCTION
  | ILLEGAL_DATA_ADDRESS
  | ILLEGAL_DATA_VALUE
  | SERVER_DEVICE_FAILURE
  | ACKNOWLEDGE
  | SERVER_DEVICE_BUSY
  | MEMORY_PARITY_ERROR
  | GATEWAY_PATH_UNAVAILABLE
  | GATEWAY_TARGET_DEVICE_FAILED_TO_RESPOND
  deriving DecidableEq, Repr

/-- The enum's numeric values. -/
def ErrorCode.value : ErrorCode → Nat
  | .ILLEGAL_FUNCTION => 0x01
  | .ILLEGAL_DATA_ADDRESS => 0x02
  | .ILLEGAL_DATA_VALUE => 0x03
  | .SERVER_DEVICE_FAILURE => 0x04
  | .ACKNOWLEDGE => 0x05
  | .SERVER_DEVICE_BUSY => 0x06
  | .MEMORY_PARITY_ERROR => 0x08
  | .GATEWAY_PATH_UNAVAILABLE => 0x0a
  | .GATEWAY_TARGET_DEVICE_FAILED_TO_RESPOND => 0x0b

/-- `PREFIX`. -/
def PREFIX : String := "MODBUS_ERROR_CODE_"

/-- `getErrorByCode(code)`. -/
def getErrorByCode (code : ErrorCode) : Error := ⟨PREFIX ++ toString code.value⟩

/-! ## `Number(string)` -/

/-- A JavaScript number as `Number(string)` produces it: `NaN`, an infinity, or the decimal
`mantissa × 10 ^ exponent` the literal denotes. The decimal is kept exact where JavaScript
rounds it to the nearest double. -/
inductive JsNumber where
  | nan
  | infinity (negative : Bool)
  | decimal (mantissa : Int) (exponent : Int)
  deriving DecidableEq, Repr

/-- `StrWhiteSpaceChar`: white space and line terminators. -/
def isStrWhiteSpace (c : Char) : Bool :=
  c.toNat ∈ [0x09, 0x0A, 0x0B, 0x0C, 0x0D, 0x20, 0xA0, 0x1680, 0x2028, 0x2029, 0x202F, 0x205F,
    0x3000, 0xFEFF] || (0x2000 ≤ c.toNat && c.toNat ≤ 0x200A)

/-- The value of a digit in `base`, if it is one. -/
def digitValue (base : Nat) (c : Char) : Option Nat :=
  let d := if c.isDigit then c.toNat - 48
    else if 'a' ≤ c ∧ c ≤ 'z' then c.toNat - 87
    else if 'A' ≤ c ∧ c ≤ 'Z' then c.toNat - 55
    else base
  if d < base then some d else none

/-- A non-empty run of digits in `base`. -/
def parseDigits (base : Nat) (ds : List Char) : Option Nat :=
  if ds = [] then none
  else ds.foldlM (fun acc c => (digitValue base c).map (acc * base + ·)) 0

/-- `StrUnsignedDecimalLiteral` without `Infinity`: digits, an optional fraction, an optional
exponent, with at least one digit before the exponent. -/
def parseUnsignedDecimal (s : List Char) : Option JsNumber := do
  let (mant, exp) := match s.span (fun c => c ≠ 'e' ∧ c ≠ 'E') with
    | (m, []) => (m, none)
    | (m, _ :: e) => (m, some e)
  let (intPart, fracPart) := match mant.span (· ≠ '.') with
    | (i, []) => (i, [])
    | (i, _ :: f) => (i, f)
  if intPart = [] ∧ fracPart = [] then none else
  let digits ← parseDigits 10 (intPart ++ fracPart)
  let e : Int ← match exp with
    | none => pure 0
    | some ('+' :: ds) => (parseDigits 10 ds).map Int.ofNat
    | some ('-' :: ds) => (parseDigits 10 ds).map fun n => -Int.ofNat n
    | some ds => (parseDigits 10 ds).map Int.ofNat
  pure (.decimal digits (e - fracPart.length))

/-- `StringToNumber(str)`: white space trimmed, an empty string is `0`, then a prefixed
binary, octal or hex integer, `Infinity`, or a signed decimal literal; anything else is `NaN`. -/
def jsNumber (str : String) : JsNumber :=
  let s := ((str.toList.dropWhile isStrWhiteSpace).reverse.dropWhile isStrWhiteSpace).reverse
  let negate : JsNumber → JsNumber
    | .decimal m e => .decimal (-m) e
    | .infinity n => .infinity (!n)
    | .nan => .nan
  let unsigned (t : List Char) : Option JsNumber :=
    if t = "Infinity".toList then some (.infinity false) else parseUnsignedDecimal t
  let result : Option JsNumber := match s with
    | [] => some (JsNumber.decimal 0 0)
    | '0' :: 'x' :: ds | '0' :: 'X' :: ds => (parseDigits 16 ds).map (JsNumber.decimal · 0)
    | '0' :: 'o' :: ds | '0' :: 'O' :: ds => (parseDigits 8 ds).map (JsNumber.decimal · 0)
    | '0' :: 'b' :: ds | '0' :: 'B' :: ds => (parseDigits 2 ds).map (JsNumber.decimal · 0)
    | '+' :: t => unsigned t
    | '-' :: t => (unsigned t).map negate
    | t => unsigned t
  result.getD .nan

/-- `getCodeByError(err)`. -/
def getCodeByError (err : Error) : JsNumber :=
  if PREFIX.toList.isPrefixOf err.message.toList then
    jsNumber ⟨err.message.toList.drop PREFIX.length⟩
  else .decimal ErrorCode.SERVER_DEVICE_FAILURE.value 0

/-- `buf.writeUInt8(value)`: it throws (`none`) for a value below `0` or above `255`, stores
`NaN` as `0` and drops a fraction. -/
def JsNumber.toUInt8 : JsNumber → Option Nat
  | .nan => some 0
  | .infinity _ => none
  | .decimal m e =>
    if m < 0 then none
    else if 0 ≤ e then
      if m.toNat * 10 ^ e.toNat ≤ 255 then some (m.toNat * 10 ^ e.toNat) else none
    else if m.toNat ≤ 255 * 10 ^ (-e).toNat then some (m.toNat / 10 ^ (-e).toNat) else none

/-! ## `Number()` reads back the decimal digits `toString` writes -/

/-- `toDigitsCore` puts the digits it finds in front of those it was given. -/
theorem toDigitsCore_append (fuel n : Nat) (ds : List Char) :
    Nat.toDigitsCore 10 fuel n ds = Nat.toDigitsCore 10 fuel n [] ++ ds := by
  induction fuel generalizing n ds with
  | zero => rfl
  | succ fuel ih =>
    simp only [Nat.toDigitsCore]
    split
    · rfl
    · rw [ih _ (_ :: ds), ih _ [_], List.append_assoc, List.singleton_append]

/-- The facts about one decimal digit character that `Number()` relies on. -/
theorem digitChar_spec : ∀ d < 10, digitValue 10 (Nat.digitChar d) = some d ∧
    isStrWhiteSpace (Nat.digitChar d) = false ∧ Nat.digitChar d ∉ "eE.+-xXoObBI".toList := by
  decide

/-- Every character `toDigitsCore` adds is a decimal digit character, and the digits read back
as the number. -/
theorem toDigitsCore_spec (fuel n : Nat) (h : n < fuel) :
    Nat.toDigitsCore 10 fuel n [] ≠ [] ∧
    (∀ c ∈ Nat.toDigitsCore 10 fuel n [], ∃ d < 10, c = Nat.digitChar d) ∧
    (Nat.toDigitsCore 10 fuel n []).foldlM (fun acc c => (digitValue 10 c).map (acc * 10 + ·)) 0 =
      some n := by
  induction fuel generalizing n with
  | zero => omega
  | succ fuel ih =>
    have hd := (digitChar_spec (n % 10) (Nat.mod_lt _ (by decide))).1
    simp only [Nat.toDigitsCore]
    split
    · refine ⟨List.cons_ne_nil _ _, by simp; exact ⟨n % 10, Nat.mod_lt _ (by decide), rfl⟩, ?_⟩
      simp [hd]
      omega
    · obtain ⟨hne, hall, hfold⟩ := ih (n / 10) (by omega)
      rw [toDigitsCore_append]
      refine ⟨by simp, ?_, ?_⟩
      · simp only [List.mem_append, List.mem_singleton]
        rintro c (hc | rfl)
        · exact hall c hc
        · exact ⟨n % 10, Nat.mod_lt _ (by decide), rfl⟩
      · simp [hfold, hd]
        omega

/-- `dropWhile` keeps a list none of whose elements it would drop. -/
theorem dropWhile_of_forall_false {α : Type} {p : α → Bool} : ∀ {l : List α}, (∀ a ∈ l, p a = false) →
    l.dropWhile p = l
  | [], _ => rfl
  | a :: _, h => List.dropWhile_cons_of_neg (by simp [h a (List.mem_cons_self _ _)])

/-- `Number()` of a run of decimal digit characters is the number they spell. -/
theorem jsNumber_digits {ds : List Char} {v : Nat} (hall : ∀ c ∈ ds, ∃ d < 10, c = Nat.digitChar d)
    (hv : parseDigits 10 ds = some v) : jsNumber ⟨ds⟩ = .decimal v 0 := by
  have hws : ∀ c ∈ ds, isStrWhiteSpace c = false := fun c hc => by
    obtain ⟨d, hd, rfl⟩ := hall c hc
    exact (digitChar_spec d hd).2.1
  have htrim : ((ds.dropWhile isStrWhiteSpace).reverse.dropWhile isStrWhiteSpace).reverse = ds := by
    rw [dropWhile_of_forall_false hws, dropWhile_of_forall_false (by simpa using hws), List.reverse_reverse]
  have hbad : ∀ c ∈ ds, c ∉ "eE.+-xXoObBI".toList := fun c hc => by
    obtain ⟨d, hd, rfl⟩ := hall c hc
    exact (digitChar_spec d hd).2.2
  have hfree : ∀ c ∈ ds, c ≠ 'e' ∧ c ≠ 'E' ∧ c ≠ '.' ∧ c ≠ 'I' := fun c hc => by
    refine ⟨?_, ?_, ?_, ?_⟩ <;> rintro rfl <;> exact hbad _ hc (by decide)
  have hne : ds ≠ [] := by rintro rfl; simp [parseDigits] at hv
  have hexp : ds.span (fun c => c ≠ 'e' ∧ c ≠ 'E') = (ds, []) := by
    rw [List.span_eq_take_drop, List.takeWhile_eq_self_iff.2, List.dropWhile_eq_nil_iff.2] <;>
      intro c hc <;> simp [hfree c hc]
  have hdot : ds.span (· ≠ '.') = (ds, []) := by
    rw [List.span_eq_take_drop, List.takeWhile_eq_self_iff.2, List.dropWhile_eq_nil_iff.2] <;>
      intro c hc <;> simp [hfree c hc]
  have hunsigned : parseUnsignedDecimal ds = some (.decimal v 0) := by
    unfold parseUnsignedDecimal
    rw [hexp]
    dsimp only
    rw [hdot]
    simp [hne, hv]
  have hinf : ds ≠ ['I', 'n', 'f', 'i', 'n', 'i', 't', 'y'] := fun h => (hfree 'I' (h ▸ by decide)).2.2.2 rfl
  unfold jsNumber
  dsimp only [String.toList]
  rw [htrim]
  split
  · exact absurd rfl hne
  all_goals try (simp at hbad; done)
  rw [if_neg hinf, hunsigned]
  rfl

/-- `toString n` is the decimal digits `Nat.toDigits` writes. -/
theorem toString_toList (n : Nat) : (toString n).toList = Nat.toDigitsCore 10 (n + 1) n [] := rfl

/-- `Number()` of `toString n` is `n`. -/
theorem jsNumber_toString (n : Nat) : jsNumber ⟨(toString n).toList⟩ = .decimal n 0 := by
  obtain ⟨hne, hall, hfold⟩ := toDigitsCore_spec (n + 1) n (Nat.lt_succ_self n)
  rw [toString_toList]
  exact jsNumber_digits hall (by simp [parseDigits, hne, hfold])

/-- An error whose message is the prefix and then the decimal digits of `n` carries `n`. -/
theorem getCodeByError_prefix (n : Nat) : getCodeByError ⟨PREFIX ++ toString n⟩ = .decimal n 0 := by
  have hdrop : (PREFIX ++ toString n).toList.drop PREFIX.length = (toString n).toList :=
    List.drop_left PREFIX.toList (toString n).toList
  have hpre : PREFIX.toList.isPrefixOf (PREFIX ++ toString n).toList = true :=
    List.isPrefixOf_iff_prefix.2 (List.prefix_append _ _)
  simp only [getCodeByError, hpre, if_true, hdrop, jsNumber_toString]

/-- An error without the prefix is a server device failure. -/
theorem getCodeByError_of_not_prefix {err : Error} (h : PREFIX.toList.isPrefixOf err.message.toList = false) :
    getCodeByError err = .decimal ErrorCode.SERVER_DEVICE_FAILURE.value 0 := by
  simp only [getCodeByError, h, Bool.false_eq_true, if_false]

/-- What `writeUInt8` stores is a byte. -/
theorem JsNumber.toUInt8_lt {x : JsNumber} {code : Nat} (h : x.toUInt8 = some code) : code < 256 := by
  unfold JsNumber.toUInt8 at h
  split at h
  · cases h; decide
  · cases h
  · split at h
    · cases h
    · split at h
      · split at h
        · cases h; omega
        · cases h
      · split at h
        · cases h; exact Nat.lt_succ_of_le (Nat.div_le_of_le_mul (by rwa [Nat.mul_comm]))
        · cases h

@[simp] theorem JsNumber.toUInt8_decimal (n : Nat) :
    (JsNumber.decimal n 0).toUInt8 = if n ≤ 255 then some n else none := by
  simp [JsNumber.toUInt8, show ¬((n : Int) < 0) by omega]

end NjsModbus
