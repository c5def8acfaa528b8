import NjsModbus.Layers.Abstract

/-!
# `AsciiApplicationLayer`

`src/layers/application/ascii-application-layer.ts`: the wire ADU is
`':' HEX(unit) HEX(fc) HEX(data…) HEX(LRC) CR LF`.

* `scan` is the three-state scanner of the `'data'` listener, one byte at a time; on the LF
  that ends a frame it hands the accumulated body to `framing`.
* `framing` pairs the body's characters into bytes as the source does, through
  `Number('0x' + pair)` (`hexPair`), splits them as unit, fc, data and LRC, runs the
  pre-checks (its own loop, which compares lengths the other way round from the RTU/MBAP
  loop), and checks the LRC. It never checks that the body's characters are hex digits
  (`framing_none_accepts`).
-/

namespace NjsModbus

/-- `_status`. -/
inductive Status where
  | idle
  | reception
  | waitingEnd
  deriving DecidableEq, Repr

/-- The state of an ASCII application layer. -/
structure AsciiApplicationLayer where
  waitingResponse : Option WaitingResponse := none
  status : Status := .idle
  /-- `_frame`, the accumulated body. -/
  frame : List Nat := []

namespace AsciiApplicationLayer

/-- `CHAR_CODE.COLON`. -/
def COLON : Nat := 58
/-- `CHAR_CODE.CR`. -/
def CR : Nat := 13
/-- `CHAR_CODE.LF`. -/
def LF : Nat := 10

/-! ## The scanner -/

/-- One byte through the `switch (this._status)` of the `'data'` listener: the new status and
accumulator, and the body handed to `framing` when an LF ends a frame. -/
def scan (status : Status) (frame : List Nat) (value : Nat) :
    Status × List Nat × Option (List Nat) :=
  match status with
  | .idle => if value = COLON then (.reception, [], none) else (.idle, frame, none)
  | .reception =>
    if value = COLON then (.reception, [], none)
    else if value = CR then (.waitingEnd, frame, none)
    else (.reception, frame ++ [value], none)
  | .waitingEnd =>
    if value = COLON then (.reception, [], none)
    else (.idle, frame, if value = LF then some frame else none)

/-! ## Hex pairs -/

/-- An ASCII hexadecimal digit, either case. -/
def isHexDigit (c : Nat) : Bool :=
  (48 ≤ c && c ≤ 57) || (65 ≤ c && c ≤ 70) || (97 ≤ c && c ≤ 102)

/-- The value of a hexadecimal digit. -/
def hexDigitValue (c : Nat) : Nat :=
  if c ≤ 57 then c - 48 else if c ≤ 70 then c - 55 else c - 87

/-- The characters below 256 that `Number()` trims as white space (`StrWhiteSpaceChar`). -/
def isWhiteSpace (c : Nat) : Bool :=
  c = 9 || c = 10 || c = 11 || c = 12 || c = 13 || c = 32 || c = 160

/-- `Buffer.from([Number('0x' + String.fromCharCode(c1) + String.fromCharCode(c2))])[0]`.
`Number` trims trailing white space, so a pair whose second character is white space reads as
its first digit alone; anything that is not a hex literal is `NaN`, which `Buffer.from` stores
as `0`. -/
def hexPair (c1 c2 : Nat) : Nat :=
  if isWhiteSpace c2 then (if isHexDigit c1 then hexDigitValue c1 else 0)
  else if isHexDigit c1 && isHexDigit c2 then hexDigitValue c1 * 16 + hexDigitValue c2
  else 0

/-- The `for (const value of _buffer)` loop that pushes one number per two characters. -/
def hexPairs : List Nat → List Nat
  | c1 :: c2 :: rest => hexPair c1 c2 :: hexPairs rest
  | _ => []

/-! ## Framing -/

/-- The pre-check loop of ASCII framing. A number `res` is "Insufficient data length" when the
data is *shorter* than `res`, the reverse of `preCheckLoop`. -/
def preCheck (checks : List PreCheck) (frame : Frame) : Option Error :=
  match checks with
  | [] => none
  | check :: rest =>
    match check frame with
    | .undefined => some insufficientDataLength
    | .number res =>
      if frame.data.length < res then some insufficientDataLength
      else if frame.data.length ≠ res then some invalidResponse
      else if res = 0 then some invalidResponse
      else preCheck rest frame
    | .bool b => if b then preCheck rest frame else some invalidResponse

/-- The frame `framing` reads off a body: unit, fc, and the bytes between them and the LRC. -/
def decode (body : List Nat) : Frame :=
  let buffer := hexPairs body
  { unit := buffer.getD 0 0, fc := buffer.getD 1 0,
    data := (buffer.take (buffer.length - 1)).drop 2, buffer := body }

/-- `buffer[buffer.length - 1] === lrc(buffer.subarray(0, buffer.length - 1))` on the decoded
bytes. -/
def lrcPassed (body : List Nat) : Bool :=
  let buffer := hexPairs body
  buffer.getD (buffer.length - 1) 0 = lrc (buffer.take (buffer.length - 1))

/-- `framing(_buffer, callback)`, as the one result it passes to `callback`. -/
def framing (waitingResponse : Option WaitingResponse) (body : List Nat) : Except Error Frame :=
  if body.length ≥ 6 then
    if body.length % 2 = 0 then
      match waitingResponse.bind fun w => preCheck w.preCheck (decode body) with
      | some e => .error e
      | none => if lrcPassed body then .ok (decode body) else .error lrcCheckFailed
    else .error invalidData
  else .error insufficientDataLength

/-! ## What framing accepts -/

/-- A pair whose first character is not a hex digit reads as `0`. -/
theorem hexPair_of_not_hex {c1 : Nat} (h : isHexDigit c1 = false) (c2 : Nat) : hexPair c1 c2 = 0 := by
  simp [hexPair, h]

/-- A body with no hex digit pairs into zero bytes. -/
theorem hexPairs_of_not_hex {body : List Nat} (h : ∀ c ∈ body, isHexDigit c = false) :
    hexPairs body = List.replicate (body.length / 2) 0 := by
  induction body using hexPairs.induct with
  | case1 c1 c2 rest ih =>
    rw [hexPairs, hexPair_of_not_hex (h c1 (List.mem_cons_self _ _)),
      ih fun c hc => h c (List.mem_cons_of_mem _ (List.mem_cons_of_mem _ hc))]
    rw [List.length_cons, List.length_cons, show (rest.length + 1 + 1) / 2 = rest.length / 2 + 1 by omega,
      List.replicate_succ]
  | case2 l hl =>
    rcases l with _ | ⟨_, _ | ⟨_, _⟩⟩
    · rfl
    · simp [hexPairs]
    · exact (hl _ _ _ rfl).elim

/-- With no response wait, `framing` passes a body on exactly when it is of even length at
least `6` and its decoded bytes pass the LRC check. -/
theorem framing_none_eq_ok (body : List Nat) (f : Frame) :
    framing none body = .ok f ↔
      6 ≤ body.length ∧ body.length % 2 = 0 ∧ lrcPassed body = true ∧ f = decode body := by
  unfold framing
  by_cases h6 : 6 ≤ body.length <;> by_cases h2 : body.length % 2 = 0 <;> by_cases hl : lrcPassed body = true <;>
    simp [h6, h2, hl, eq_comm]

/-- The decoded bytes of a body of non-hex characters are all `0`, and so is their LRC. -/
theorem framing_of_not_hex {body : List Nat} (h6 : 6 ≤ body.length) (h2 : body.length % 2 = 0)
    (h : ∀ c ∈ body, isHexDigit c = false) :
    framing none body =
      .ok { unit := 0, fc := 0, data := List.replicate (body.length / 2 - 3) 0, buffer := body } := by
  have hzero : ∀ k, lrc (List.replicate k 0) = 0 := fun k => by
    rw [lrc_eq, show (List.replicate k 0).sum = 0 by induction k <;> simp [List.replicate_succ, *]]
  have hlrc : lrcPassed body = true := by
    simp [lrcPassed, hexPairs_of_not_hex h, List.take_replicate, hzero]
  rw [(framing_none_eq_ok body _).2 ⟨h6, h2, hlrc, rfl⟩]
  simp [decode, hexPairs_of_not_hex h, List.take_replicate, List.drop_replicate]
  omega

/-- With no response wait, `framing` passes a body on exactly when it has an even length of at
least `6` and its decoded bytes pass the LRC check. It never checks that the characters are hex
digits: a body with none reads as zero bytes, whose LRC is `0`, and is passed on. -/
theorem framing_none_accepts :
    (∀ (body : List Nat) (f : Frame), framing none body = .ok f ↔
      6 ≤ body.length ∧ body.length % 2 = 0 ∧ lrcPassed body = true ∧ f = decode body) ∧
    (∀ body : List Nat, 6 ≤ body.length → body.length % 2 = 0 → (∀ c ∈ body, isHexDigit c = false) →
      framing none body =
        .ok { unit := 0, fc := 0, data := List.replicate (body.length / 2 - 3) 0, buffer := body }) :=
  ⟨framing_none_eq_ok, fun _ h6 h2 h => framing_of_not_hex h6 h2 h⟩

/-- `"GGGGGG"` is a frame with unit `0`, fc `0` and no data. -/
example : framing none [71, 71, 71, 71, 71, 71] =
    .ok { unit := 0, fc := 0, data := [], buffer := [71, 71, 71, 71, 71, 71] } := by
  decide

/-! ## The `'data'` listener -/

/-- One byte of a burst: scan it, and frame the body an LF hands over, delivering the result
to the wait callback (which stops the wait) or, with no wait registered, emitting a good frame. -/
def handleByte (s : AsciiApplicationLayer) (value : Nat) : AsciiApplicationLayer × List LayerEvent :=
  let (status, frame, body) := scan s.status s.frame value
  let s := { s with status, frame }
  match body with
  | none => (s, [])
  | some body =>
    match s.waitingResponse with
    | some w => ({ s with waitingResponse := none }, [.callback w.callback (framing (some w) body)])
    | none =>
      (s, match framing none body with
        | .ok f => [.framing f]
        | .error _ => [])

/-- The `'data'` listener: `data.forEach` over the burst. -/
def handleData : List Nat → AsciiApplicationLayer → AsciiApplicationLayer × List LayerEvent
  | [], s => (s, [])
  | value :: rest, s =>
    let r := handleByte s value
    let r' := handleData rest r.1
    (r'.1, r.2 ++ r'.2)

def startWaitingResponse (preCheck : List PreCheck) (callback : Nat) (_ : AsciiApplicationLayer) :
    AsciiApplicationLayer :=
  { waitingResponse := some ⟨preCheck, callback⟩, status := .idle, frame := [] }

def stopWaitingResponse (s : AsciiApplicationLayer) : AsciiApplicationLayer :=
  { s with waitingResponse := none }

/-- The `'close'` listener. -/
def handleClose (s : AsciiApplicationLayer) : AsciiApplicationLayer :=
  { s with status := .idle, frame := [] }

/-- One hexadecimal digit, upper case: `toString(16).toUpperCase()`. -/
def hexChar (d : Nat) : Nat := if d < 10 then 48 + d else 55 + d

/-- `value.toString(16).toUpperCase().padStart(2, '0')` for a byte. -/
def hexByte (value : Nat) : List Nat := [hexChar (value / 16), hexChar (value % 16)]

/-- `encode(data)`: `':'`, the hex digits of unit, fc, data and LRC, CR LF; `none` where a write
throws. -/
def encode (adu : ApplicationDataUnit) : Option (List Nat) := do
  let unit ← writeUInt8 adu.unit
  let fc ← writeUInt8 adu.fc
  let data ← writeBytes adu.data
  let check ← writeUInt8 (lrc (unit ++ fc ++ data))
  pure (COLON :: (unit ++ fc ++ data ++ check).flatMap hexByte ++ [CR, LF])

/-- The ASCII layer as the client sees it; it has no timer of its own. -/
def layer : AbstractApplicationLayer AsciiApplicationLayer where
  waitingResponse := AsciiApplicationLayer.waitingResponse
  timerArmed _ := false
  startWaitingResponse := startWaitingResponse
  stopWaitingResponse := stopWaitingResponse
  encode adu s := (encode adu).map (·, s)
  handleData := handleData
  timerFires s := (s, [])
  preCheck := preCheck

/-! ## The two pre-check loops -/

/-- Where a length check expects more data than the frame carries, the ASCII loop waits for
more bytes while the RTU/MBAP loop rejects the response; where it expects less, the reverse. -/
theorem preCheck_number_vs_preCheckLoop {check : PreCheck} {frame : Frame} {res : Nat}
    (h : check frame = .number res) (rest : List PreCheck) :
    (frame.data.length < res → preCheck (check :: rest) frame = some insufficientDataLength ∧
      preCheckLoop (check :: rest) frame = some invalidResponse) ∧
    (res < frame.data.length → preCheck (check :: rest) frame = some invalidResponse ∧
      preCheckLoop (check :: rest) frame = some insufficientDataLength) := by
  simp only [preCheck, preCheckLoop, h]
  constructor <;> intro hlt <;> simp [hlt, Nat.not_lt.mpr hlt.le, hlt.ne, hlt.ne']

/-! ## One ADU on the wire -/

/-- The characters `encode` writes between `':'` and CR LF: the hex digits of the ADU's bytes
and of their LRC. -/
def hexBody (adu : ApplicationDataUnit) : List Nat := (adu.bytes ++ [lrc adu.bytes]).flatMap hexByte

/-- What `encode` writes. -/
theorem encode_eq_some {adu : ApplicationDataUnit} {bytes : List Nat} (h : encode adu = some bytes) :
    AllBytes adu.bytes ∧ bytes = COLON :: hexBody adu ++ [CR, LF] := by
  simp only [encode, Option.bind_eq_bind, Option.bind_eq_some, writeUInt8_eq_some,
    writeBytes_eq_some, Option.pure_def, Option.some.injEq] at h
  obtain ⟨_, ⟨hu, rfl⟩, _, ⟨hf, rfl⟩, _, ⟨hd, rfl⟩, _, ⟨-, rfl⟩, rfl⟩ := h
  exact ⟨by simp [ApplicationDataUnit.bytes, hu, hf, hd], rfl⟩

theorem encode_of_allBytes {adu : ApplicationDataUnit} (h : AllBytes adu.bytes) :
    encode adu = some (COLON :: hexBody adu ++ [CR, LF]) := by
  simp only [ApplicationDataUnit.bytes, allBytes_cons] at h
  simp [encode, writeUInt8_of_lt h.1, writeUInt8_of_lt h.2.1, writeBytes_of_allBytes h.2.2,
    writeUInt8_of_lt (lrc_lt _), hexBody, ApplicationDataUnit.bytes]

/-- A hex digit as `encode` writes it is a digit `hexPair` reads, not white space. -/
theorem hexChar_spec : ∀ d < 16, isHexDigit (hexChar d) = true ∧ hexDigitValue (hexChar d) = d ∧
    isWhiteSpace (hexChar d) = false := by
  decide

/-- No hex digit `encode` writes is one of the scanner's control characters. -/
theorem hexChar_ne (d : Nat) : hexChar d ≠ COLON ∧ hexChar d ≠ CR := by
  unfold hexChar COLON CR; split <;> omega

theorem hexPair_hexByte {v : Nat} (hv : v < 256) : hexPair (hexChar (v / 16)) (hexChar (v % 16)) = v := by
  obtain ⟨hd1, hv1, -⟩ := hexChar_spec (v / 16) (by omega)
  obtain ⟨hd2, hv2, hw2⟩ := hexChar_spec (v % 16) (Nat.mod_lt _ (by decide))
  simp only [hexPair, hw2, hd1, hd2, hv1, hv2, Bool.and_self, if_true, Bool.false_eq_true, if_false]
  omega

/-- Pairing the hex digits of bytes gives the bytes back. -/
theorem hexPairs_flatMap_hexByte {l : List Nat} (h : AllBytes l) : hexPairs (l.flatMap hexByte) = l := by
  induction l with
  | nil => rfl
  | cons v rest ih =>
    rw [allBytes_cons] at h
    rw [List.flatMap_cons]
    show hexPairs (hexChar (v / 16) :: hexChar (v % 16) :: rest.flatMap hexByte) = v :: rest
    rw [hexPairs, hexPair_hexByte h.1, ih h.2]

theorem length_flatMap_hexByte (l : List Nat) : (l.flatMap hexByte).length = 2 * l.length := by
  induction l with
  | nil => rfl
  | cons v rest ih => rw [List.flatMap_cons, List.length_append, ih]; simp [hexByte]; omega

/-- No character of an encoded body is `':'` or CR. -/
theorem hexBody_free (adu : ApplicationDataUnit) : ∀ c ∈ hexBody adu, c ≠ COLON ∧ c ≠ CR := by
  simp only [hexBody, List.mem_flatMap, hexByte, List.mem_cons, List.not_mem_nil, or_false]
  rintro c ⟨v, -, rfl | rfl⟩ <;> exact hexChar_ne _

@[simp] theorem length_hexBody (adu : ApplicationDataUnit) :
    (hexBody adu).length = 2 * (adu.data.length + 3) := by
  rw [hexBody, length_flatMap_hexByte]; simp [ApplicationDataUnit.bytes]

/-- The bytes an encoded body pairs back to. -/
theorem hexPairs_hexBody {adu : ApplicationDataUnit} (h : AllBytes adu.bytes) :
    hexPairs (hexBody adu) = adu.bytes ++ [lrc adu.bytes] :=
  hexPairs_flatMap_hexByte (by simp [h, lrc_lt])

/-- `framing` reads back the frame `encode` wrote. -/
theorem decode_hexBody {adu : ApplicationDataUnit} (h : AllBytes adu.bytes) :
    decode (hexBody adu) = { unit := adu.unit, fc := adu.fc, data := adu.data, buffer := hexBody adu } := by
  simp [decode, hexPairs_hexBody h, ApplicationDataUnit.bytes]

theorem lrcPassed_hexBody {adu : ApplicationDataUnit} (h : AllBytes adu.bytes) :
    lrcPassed (hexBody adu) = true := by
  simp [lrcPassed, hexPairs_hexBody h, List.getD_append_right]

/-- What `framing` makes of an encoded body: its frame, unless a pre-check fails. -/
theorem framing_hexBody {adu : ApplicationDataUnit} (h : AllBytes adu.bytes) (w : Option WaitingResponse) :
    framing w (hexBody adu) = match w.bind fun w => preCheck w.preCheck (decode (hexBody adu)) with
      | some e => .error e
      | none => .ok (decode (hexBody adu)) := by
  have hlen : (hexBody adu).length ≥ 6 := by simp; omega
  have heven : (hexBody adu).length % 2 = 0 := by simp
  simp only [framing, if_pos hlen, if_pos heven, lrcPassed_hexBody h, if_true]

/-- A list of checks that each return `true` or the exact, non-zero data length passes. -/
theorem preCheck_eq_none {checks : List PreCheck} {frame : Frame}
    (h : ∀ c ∈ checks, c frame = .bool true ∨
      (c frame = .number frame.data.length ∧ 0 < frame.data.length)) :
    preCheck checks frame = none := by
  induction checks with
  | nil => rfl
  | cons c rest ih =>
    have hrest := ih fun c' hc' => h c' (List.mem_cons_of_mem c hc')
    rcases h c (List.mem_cons_self c rest) with hc | ⟨hc, hpos⟩
    · simp [preCheck, hc, hrest]
    · simp [preCheck, hc, hrest, Nat.pos_iff_ne_zero.mp hpos]

/-! ## The slot discipline -/

theorem framing_ok {w : Option WaitingResponse} {body : List Nat} {f : Frame}
    (h : framing w body = .ok f) :
    f = decode body ∧ ∀ v ∈ w, preCheck v.preCheck (decode body) = none := by
  unfold framing at h
  split at h
  · split at h
    · split at h
      · cases h
      · split at h
        · cases h
          refine ⟨rfl, fun v hv => ?_⟩
          cases w <;> simp_all
        · cases h
    · cases h
  · cases h

theorem handleByte_of_none {s : AsciiApplicationLayer} (h : s.waitingResponse = none) (v : Nat) :
    LayerEvent.callbacks (handleByte s v).2 = [] ∧ (handleByte s v).1.waitingResponse = none := by
  simp only [handleByte]
  split
  · exact ⟨rfl, h⟩
  · simp only [h]
    exact ⟨by split <;> rfl, trivial⟩

theorem handleByte_of_some {s : AsciiApplicationLayer} {w : WaitingResponse}
    (h : s.waitingResponse = some w) (v : Nat) :
    (LayerEvent.callbacks (handleByte s v).2 = [] ∧ (handleByte s v).1.waitingResponse = some w) ∨
    (∃ res, LayerEvent.callbacks (handleByte s v).2 = [(w.callback, res)] ∧
      (handleByte s v).1.waitingResponse = none ∧ ∀ f, res = .ok f → preCheck w.preCheck f = none) := by
  simp only [handleByte]
  split
  · exact .inl ⟨rfl, h⟩
  · simp only [h]
    exact .inr ⟨_, rfl, trivial, fun f hf => (framing_ok hf).1 ▸ (framing_ok hf).2 w rfl⟩

theorem handleData_of_none {s : AsciiApplicationLayer} (h : s.waitingResponse = none)
    (data : List Nat) :
    LayerEvent.callbacks (handleData data s).2 = [] ∧ (handleData data s).1.waitingResponse = none := by
  induction data generalizing s with
  | nil => exact ⟨rfl, h⟩
  | cons v rest ih =>
    obtain ⟨hcb, hw⟩ := handleByte_of_none h v
    obtain ⟨hcb', hw'⟩ := ih hw
    refine ⟨?_, hw'⟩
    simp only [handleData, LayerEvent.callbacks_append, hcb, hcb', List.append_nil]

theorem handleData_of_some {s : AsciiApplicationLayer} {w : WaitingResponse}
    (h : s.waitingResponse = some w) (data : List Nat) :
    (LayerEvent.callbacks (handleData data s).2 = [] ∧ (handleData data s).1.waitingResponse = some w) ∨
    (∃ res, LayerEvent.callbacks (handleData data s).2 = [(w.callback, res)] ∧
      (handleData data s).1.waitingResponse = none ∧ ∀ f, res = .ok f → preCheck w.preCheck f = none) := by
  induction data generalizing s with
  | nil => exact .inl ⟨rfl, h⟩
  | cons v rest ih =>
    simp only [handleData, LayerEvent.callbacks_append]
    rcases handleByte_of_some h v with ⟨hcb, hw⟩ | ⟨res, hcb, hw, hres⟩
    · rw [hcb, List.nil_append]; exact ih hw
    · obtain ⟨hcb', hw'⟩ := handleData_of_none hw rest
      exact .inr ⟨res, by rw [hcb, hcb']; rfl, hw', hres⟩

/-- The ASCII layer keeps the client's slot discipline. -/
theorem layer_lawful : layer.Lawful where
  waitingResponse_start _ _ _ := rfl
  timerArmed_start _ _ _ := rfl
  waitingResponse_stop _ := rfl
  encode_slot a s b s' h := by
    simp only [layer, Option.map_eq_some'] at h
    obtain ⟨_, _, h⟩ := h
    cases h; exact ⟨rfl, rfl⟩
  handleData_idle d s h := handleData_of_none h d
  handleData_waiting d s w h := (handleData_of_some h d).imp (fun h => ⟨h.1, h.2, rfl⟩) id
  timerFires_idle _ h := ⟨rfl, h⟩

end AsciiApplicationLayer

end NjsModbus
