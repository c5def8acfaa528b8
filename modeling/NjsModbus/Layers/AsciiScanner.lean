import NjsModbus.Layers.Ascii

/-!
# The ASCII scanner over whole streams

The `'data'` listener of `AsciiApplicationLayer` feeds every byte of a burst to `scan`, which
hands a body to `framing` on the LF that ends a frame. This file runs the scanner over whole
streams (`scanRun`, the state it ends in, and `scanBodies`, the bodies it hands on) and ties it
back to the layer (`handleData_of_none_eq`). A stream split into bursts is scanned as the one
stream they make (`handleBursts_eq`, `scanBursts_eq`).

Two results come out of it:

* `scanBodies_eq`: from any state, the bodies handed on are those of the occurrences of
  `':' s CR LF` with `s` free of `':'` and CR (`frameOccurrences`), after whatever completes the
  frame the state had open (`pending`); with it, `scanBursts_characterization` says what the
  scanner's state and output are after any stream read from the idle state.
* `handleBursts_encode`: from any state with no wait registered, the bytes of
  `encode adu`, in any bursts, make the layer emit the one frame of `adu` and end idle.
-/

namespace NjsModbus

namespace AsciiApplicationLayer

/-! ## The scanner over a stream -/

/-- A character a body can hold: neither `':'` nor CR. -/
def isBodyChar (c : Nat) : Bool := c ≠ COLON && c ≠ CR

/-- The scanner's status and accumulator after one byte. -/
def scanStep (st : Status × List Nat) (v : Nat) : Status × List Nat :=
  ((scan st.1 st.2 v).1, (scan st.1 st.2 v).2.1)

/-- The scanner's status and accumulator after a stream. -/
def scanRun (st : Status × List Nat) : List Nat → Status × List Nat
  | [] => st
  | v :: rest => scanRun (scanStep st v) rest

/-- The bodies the scanner hands to `framing` over a stream, in order. -/
def scanBodies (st : Status × List Nat) : List Nat → List (List Nat)
  | [] => []
  | v :: rest => (scan st.1 st.2 v).2.2.toList ++ scanBodies (scanStep st v) rest

@[simp] theorem scanRun_nil (st : Status × List Nat) : scanRun st [] = st := rfl

@[simp] theorem scanRun_cons (st : Status × List Nat) (v : Nat) (rest : List Nat) :
    scanRun st (v :: rest) = scanRun (scanStep st v) rest := rfl

@[simp] theorem scanBodies_nil (st : Status × List Nat) : scanBodies st [] = [] := rfl

@[simp] theorem scanBodies_cons (st : Status × List Nat) (v : Nat) (rest : List Nat) :
    scanBodies st (v :: rest) = (scan st.1 st.2 v).2.2.toList ++ scanBodies (scanStep st v) rest :=
  rfl

theorem scanRun_append (st : Status × List Nat) (a b : List Nat) :
    scanRun st (a ++ b) = scanRun (scanRun st a) b := by
  induction a generalizing st with
  | nil => rfl
  | cons v rest ih => exact ih _

theorem scanBodies_append (st : Status × List Nat) (a b : List Nat) :
    scanBodies st (a ++ b) = scanBodies st a ++ scanBodies (scanRun st a) b := by
  induction a generalizing st with
  | nil => rfl
  | cons v rest ih => simp [ih]

/-- Body characters extend an open frame. -/
theorem scanRun_reception {t : List Nat} (ht : ∀ c ∈ t, isBodyChar c = true) (acc : List Nat) :
    scanRun (.reception, acc) t = (.reception, acc ++ t) ∧ scanBodies (.reception, acc) t = [] := by
  induction t generalizing acc with
  | nil => simp
  | cons c rest ih =>
    have hc : c ≠ COLON ∧ c ≠ CR := by simpa [isBodyChar] using ht c (List.mem_cons_self c rest)
    have hstep : scanStep (.reception, acc) c = (.reception, acc ++ [c]) := by
      simp [scanStep, scan, hc.1, hc.2]
    obtain ⟨h1, h2⟩ := ih (fun c' hc' => ht c' (List.mem_cons_of_mem c hc')) (acc ++ [c])
    simp [hstep, h1, h2, scan, hc.1, hc.2]

/-! ## The layer runs the scanner -/

/-- What the layer does with a body when no wait is registered: emit its frame if it frames. -/
def frameEvents (body : List Nat) : List LayerEvent :=
  match framing none body with
  | .ok f => [.framing f]
  | .error _ => []

theorem handleData_append (a b : List Nat) (s : AsciiApplicationLayer) :
    handleData (a ++ b) s =
      ((handleData b (handleData a s).1).1, (handleData a s).2 ++ (handleData b (handleData a s).1).2) := by
  induction a generalizing s with
  | nil => rfl
  | cons v rest ih => simp [handleData, ih]

/-- With no wait registered, the layer's state is the scanner's and its events are the frames of
the bodies the scanner hands on. -/
theorem handleData_of_none_eq {s : AsciiApplicationLayer} (h : s.waitingResponse = none)
    (data : List Nat) :
    handleData data s =
      ({ s with status := (scanRun (s.status, s.frame) data).1,
                frame := (scanRun (s.status, s.frame) data).2 },
        (scanBodies (s.status, s.frame) data).flatMap frameEvents) := by
  induction data generalizing s with
  | nil => rfl
  | cons v rest ih =>
    have hbyte : handleByte s v =
        ({ s with status := (scanStep (s.status, s.frame) v).1,
                  frame := (scanStep (s.status, s.frame) v).2 },
          (scan s.status s.frame v).2.2.toList.flatMap frameEvents) := by
      unfold handleByte scanStep
      generalize scan s.status s.frame v = r
      obtain ⟨status, frame, _ | body⟩ := r
      · rfl
      · cases hf : framing none body <;>
          simp only [h, hf, Option.toList_some, List.flatMap_cons, List.flatMap_nil, List.append_nil,
            frameEvents]
    simp only [handleData, hbyte]
    rw [ih (s := ⟨s.waitingResponse, (scanStep (s.status, s.frame) v).1,
      (scanStep (s.status, s.frame) v).2⟩) h]
    simp [List.flatMap_append]

/-- A stream in which the scanner hands nothing on changes only its state, waiting or not. -/
theorem handleData_quiet {s : AsciiApplicationLayer} {data : List Nat}
    (h : scanBodies (s.status, s.frame) data = []) :
    handleData data s =
      ({ s with status := (scanRun (s.status, s.frame) data).1,
                frame := (scanRun (s.status, s.frame) data).2 }, []) := by
  induction data generalizing s with
  | nil => rfl
  | cons v rest ih =>
    obtain ⟨h1, h2⟩ := List.append_eq_nil.mp h
    have hbyte : handleByte s v =
        ({ s with status := (scanStep (s.status, s.frame) v).1,
                  frame := (scanStep (s.status, s.frame) v).2 }, []) := by
      unfold handleByte scanStep
      generalize scan s.status s.frame v = r at h1 ⊢
      obtain ⟨status, frame, _ | body⟩ := r
      · rfl
      · cases h1
    simp only [handleData, hbyte]
    rw [ih (s := ⟨s.waitingResponse, (scanStep (s.status, s.frame) v).1,
      (scanStep (s.status, s.frame) v).2⟩) h2]
    rfl

/-- Successive `'data'` events, one per burst. -/
def handleBursts : List (List Nat) → AsciiApplicationLayer → AsciiApplicationLayer × List LayerEvent
  | [], s => (s, [])
  | burst :: rest, s =>
    ((handleBursts rest (handleData burst s).1).1,
      (handleData burst s).2 ++ (handleBursts rest (handleData burst s).1).2)

/-- Bursts are handled as the one stream they make. -/
theorem handleBursts_eq (bursts : List (List Nat)) (s : AsciiApplicationLayer) :
    handleBursts bursts s = handleData bursts.flatten s := by
  induction bursts generalizing s with
  | nil => rfl
  | cons burst rest ih => simp [handleBursts, ih, handleData_append]

/-- The scanner over successive bursts: its state after them and the bodies it handed on. -/
def scanBursts (st : Status × List Nat) : List (List Nat) → (Status × List Nat) × List (List Nat)
  | [] => (st, [])
  | burst :: rest =>
    ((scanBursts (scanRun st burst) rest).1,
      scanBodies st burst ++ (scanBursts (scanRun st burst) rest).2)

theorem scanBursts_eq (st : Status × List Nat) (bursts : List (List Nat)) :
    scanBursts st bursts = (scanRun st bursts.flatten, scanBodies st bursts.flatten) := by
  induction bursts generalizing st with
  | nil => rfl
  | cons burst rest ih => simp [scanBursts, ih, scanRun_append, scanBodies_append]

/-! ## The bodies handed on -/

/-- The occurrences of `':' s CR LF` in a stream whose `s` holds neither `':'` nor CR, as their
bodies, in stream order. Each is found at its `':'`: `s` is then the run of body characters
after it, which must be followed by CR LF. -/
def frameOccurrences : List Nat → List (List Nat)
  | [] => []
  | c :: rest =>
    (if c = COLON ∧ (rest.dropWhile isBodyChar).take 2 = [CR, LF] then [rest.takeWhile isBodyChar]
      else []) ++ frameOccurrences rest

/-- The body that completes the frame a scanner state has open, if the stream completes it
before any other `':'`. -/
def pending : Status × List Nat → List Nat → List (List Nat)
  | (.idle, _), _ => []
  | (.reception, acc), w =>
    if (w.dropWhile isBodyChar).take 2 = [CR, LF] then [acc ++ w.takeWhile isBodyChar] else []
  | (.waitingEnd, acc), w => if w.take 1 = [LF] then [acc] else []

/-- From any state, the scanner hands on the body that completes its open frame, then the body
of every occurrence of `':' s CR LF` in the stream. -/
theorem scanBodies_eq (st : Status × List Nat) (w : List Nat) :
    scanBodies st w = pending st w ++ frameOccurrences w := by
  induction w generalizing st with
  | nil => obtain ⟨status, acc⟩ := st; cases status <;> rfl
  | cons v rest ih =>
    obtain ⟨status, acc⟩ := st
    rw [scanBodies_cons, ih]
    have hCL : COLON ≠ CR ∧ COLON ≠ LF ∧ CR ≠ LF := by decide
    by_cases hc : v = COLON
    · subst hc
      cases status <;> simp [scan, scanStep, pending, frameOccurrences, isBodyChar, hCL]
    by_cases hr : v = CR
    · subst hr
      cases status <;> simp [scan, scanStep, pending, frameOccurrences, isBodyChar, hCL, Ne.symm hCL.1]
    · have hLF : LF ≠ COLON ∧ LF ≠ CR := by decide
      cases status <;> by_cases hl : v = LF <;>
        simp [scan, scanStep, pending, frameOccurrences, isBodyChar, hc, hr, hl, hLF]

/-- A stream free of `':'` holds no occurrence. -/
theorem frameOccurrences_eq_nil {w : List Nat} (h : ∀ c ∈ w, c ≠ COLON) : frameOccurrences w = [] := by
  induction w with
  | nil => rfl
  | cons c rest ih =>
    simp [frameOccurrences, h c (List.mem_cons_self c rest), ih fun c' hc' => h c' (List.mem_cons_of_mem c hc')]

/-! ## The scanner's state -/

/-- Every character of `t` is a body character. -/
def BodyFree (t : List Nat) : Prop := ∀ c ∈ t, c ≠ COLON ∧ c ≠ CR

/-- `w` ends with `':' t`, `t` free of `':'` and CR: a frame with body `t` is open. -/
def OpenFrame (w t : List Nat) : Prop := ∃ pre, w = pre ++ COLON :: t ∧ BodyFree t

/-- `w` ends with `':' t CR`, `t` free of `':'` and CR: a frame with body `t` awaits its LF. -/
def EndedFrame (w t : List Nat) : Prop := ∃ pre, w = pre ++ COLON :: t ++ [CR] ∧ BodyFree t

theorem openFrame_nil (t : List Nat) : ¬ OpenFrame [] t := by
  rintro ⟨pre, h, -⟩; simp at h

/-- One byte more: a `':'` opens an empty frame, a body character extends the open one. -/
theorem openFrame_snoc {w t : List Nat} {v : Nat} :
    OpenFrame (w ++ [v]) t ↔
      (v = COLON ∧ t = []) ∨ (v ≠ COLON ∧ v ≠ CR ∧ ∃ t0, t = t0 ++ [v] ∧ OpenFrame w t0) := by
  constructor
  · rintro ⟨pre, h, ht⟩
    rcases List.eq_nil_or_concat t with rfl | ⟨t0, c, rfl⟩
    · exact .inl ⟨by simpa using (List.append_inj' h rfl).2, rfl⟩
    · rw [List.concat_eq_append] at h ht
      have h' : w ++ [v] = (pre ++ COLON :: t0) ++ [c] := by rw [h]; simp
      obtain ⟨rfl, hv⟩ := List.append_inj' h' rfl
      obtain rfl : v = c := by simpa using hv
      have hc := ht v (by simp)
      exact .inr ⟨hc.1, hc.2, t0, List.concat_eq_append .., pre, rfl,
        fun c hc' => ht c (by simp [hc'])⟩
  · rintro (⟨rfl, rfl⟩ | ⟨hc, hr, t0, rfl, pre, rfl, ht0⟩)
    · exact ⟨w, rfl, by simp [BodyFree]⟩
    · refine ⟨pre, by simp, fun c hc' => ?_⟩
      rcases List.mem_append.mp hc' with h | h
      · exact ht0 c h
      · simp only [List.mem_singleton] at h; subst h; exact ⟨hc, hr⟩

/-- One byte more ends a frame exactly when it is CR after an open one. -/
theorem endedFrame_snoc {w t : List Nat} {v : Nat} : EndedFrame (w ++ [v]) t ↔ v = CR ∧ OpenFrame w t := by
  constructor
  · rintro ⟨pre, h, ht⟩
    obtain ⟨rfl, hv⟩ := List.append_inj' h rfl
    exact ⟨by simpa using hv, pre, rfl, ht⟩
  · rintro ⟨rfl, pre, rfl, ht⟩
    exact ⟨pre, rfl, ht⟩

theorem openFrame_unique {w t t' : List Nat} (h : OpenFrame w t) (h' : OpenFrame w t') : t = t' := by
  induction w using List.reverseRecOn generalizing t t' with
  | nil => exact absurd h (openFrame_nil t)
  | append_singleton w v ih =>
    rcases openFrame_snoc.mp h with ⟨rfl, rfl⟩ | ⟨hc, -, t0, rfl, h0⟩
    · rcases openFrame_snoc.mp h' with ⟨-, rfl⟩ | ⟨hc', -⟩
      · rfl
      · exact absurd rfl hc'
    · rcases openFrame_snoc.mp h' with ⟨hv, -⟩ | ⟨-, -, t0', rfl, h0'⟩
      · exact absurd hv hc
      · rw [ih h0 h0']

theorem endedFrame_unique {w t t' : List Nat} (h : EndedFrame w t) (h' : EndedFrame w t') : t = t' := by
  rcases List.eq_nil_or_concat w with rfl | ⟨w0, v, rfl⟩
  · obtain ⟨pre, h, -⟩ := h; simp at h
  · rw [List.concat_eq_append] at h h'
    exact openFrame_unique (endedFrame_snoc.mp h).2 (endedFrame_snoc.mp h').2

theorem not_openFrame_of_endedFrame {w t t' : List Nat} (h : EndedFrame w t) : ¬ OpenFrame w t' := by
  rcases List.eq_nil_or_concat w with rfl | ⟨w0, v, rfl⟩
  · exact openFrame_nil t'
  · rw [List.concat_eq_append] at h ⊢
    intro h'
    obtain ⟨rfl, -⟩ := endedFrame_snoc.mp h
    rcases openFrame_snoc.mp h' with ⟨hv, -⟩ | ⟨-, hr, -⟩
    · exact absurd hv (by decide)
    · exact hr rfl

/-- What the scanner's state says about the stream it has read. -/
def StateInv (w : List Nat) : Status × List Nat → Prop
  | (.reception, t) => OpenFrame w t
  | (.waitingEnd, t) => EndedFrame w t
  | (.idle, _) => ∀ t, ¬ OpenFrame w t ∧ ¬ EndedFrame w t

theorem stateInv_scanStep {w : List Nat} {st : Status × List Nat} (h : StateInv w st) (v : Nat) :
    StateInv (w ++ [v]) (scanStep st v) := by
  obtain ⟨status, acc⟩ := st
  by_cases hc : v = COLON
  · subst hc
    cases status <;> simp only [scanStep, scan, if_true, StateInv] <;>
      exact openFrame_snoc.mpr (.inl ⟨rfl, rfl⟩)
  cases status with
  | idle =>
    simp only [scanStep, scan, if_neg hc, StateInv]
    refine fun t => ⟨fun ho => ?_, fun he => ?_⟩
    · rcases openFrame_snoc.mp ho with ⟨hv, -⟩ | ⟨-, -, t0, -, h0⟩
      · exact hc hv
      · exact (h t0).1 h0
    · exact (h t).1 (endedFrame_snoc.mp he).2
  | reception =>
    by_cases hr : v = CR
    · subst hr
      simp only [scanStep, scan, if_neg hc, if_true, StateInv]
      exact endedFrame_snoc.mpr ⟨rfl, h⟩
    · simp only [scanStep, scan, if_neg hc, if_neg hr, StateInv]
      exact openFrame_snoc.mpr (.inr ⟨hc, hr, acc, rfl, h⟩)
  | waitingEnd =>
    simp only [scanStep, scan, if_neg hc, StateInv]
    refine fun t => ⟨fun ho => ?_, fun he => ?_⟩
    · rcases openFrame_snoc.mp ho with ⟨hv, -⟩ | ⟨-, -, t0, -, h0⟩
      · exact hc hv
      · exact not_openFrame_of_endedFrame h h0
    · exact not_openFrame_of_endedFrame h (endedFrame_snoc.mp he).2

theorem stateInv_scanRun {w : List Nat} {st : Status × List Nat} (h : StateInv w st) (u : List Nat) :
    StateInv (w ++ u) (scanRun st u) := by
  induction u generalizing w st with
  | nil => simpa using h
  | cons v rest ih =>
    have := ih (stateInv_scanStep h v)
    simpa using this

/-- From the idle state, after any stream `w`: the scanner is receiving a body `t` exactly when
`w` ends with `':' t`, awaiting the LF of a body `t` exactly when `w` ends with `':' t CR`, and
idle otherwise. -/
theorem scanRun_characterization (acc w t : List Nat) :
    (scanRun (.idle, acc) w = (.reception, t) ↔ OpenFrame w t) ∧
    (scanRun (.idle, acc) w = (.waitingEnd, t) ↔ EndedFrame w t) ∧
    ((scanRun (.idle, acc) w).1 = .idle ↔ ∀ t', ¬ OpenFrame w t' ∧ ¬ EndedFrame w t') := by
  have hinit : StateInv [] ((.idle, acc) : Status × List Nat) :=
    fun t => ⟨openFrame_nil t, fun ⟨pre, h, _⟩ => by simp at h⟩
  have hinv : StateInv w (scanRun (.idle, acc) w) := by simpa using stateInv_scanRun hinit w
  generalize scanRun (.idle, acc) w = st at hinv ⊢
  obtain ⟨status, t0⟩ := st
  cases status with
  | idle =>
    refine ⟨⟨nofun, fun ho => absurd ho (hinv t).1⟩, ⟨nofun, fun he => absurd he (hinv t).2⟩,
      ⟨fun _ => hinv, fun _ => rfl⟩⟩
  | reception =>
    refine ⟨⟨fun h => ?_, fun ho => ?_⟩, ⟨nofun, fun he => absurd hinv (not_openFrame_of_endedFrame he)⟩,
      ⟨nofun, fun h => absurd hinv (h t0).1⟩⟩
    · cases h; exact hinv
    · rw [openFrame_unique hinv ho]
  | waitingEnd =>
    refine ⟨⟨nofun, fun ho => absurd ho (not_openFrame_of_endedFrame hinv)⟩, ⟨fun h => ?_, fun he => ?_⟩,
      ⟨nofun, fun h => absurd hinv (h t0).2⟩⟩
    · cases h; exact hinv
    · rw [endedFrame_unique hinv he]

/-- From the idle state, over any stream cut into any bursts, the scanner hands to `framing`
exactly the bodies `s` of the occurrences of `':' s CR LF` with `s` free of `':'` and CR, in
stream order; and it ends receiving a body `t` exactly when the stream ends with `':' t`,
awaiting the LF of a body `t` exactly when it ends with `':' t CR`, and idle otherwise. -/
theorem scanBursts_characterization (acc : List Nat) (bursts : List (List Nat)) (t : List Nat) :
    (scanBursts (.idle, acc) bursts).2 = frameOccurrences bursts.flatten ∧
    ((scanBursts (.idle, acc) bursts).1 = (.reception, t) ↔ OpenFrame bursts.flatten t) ∧
    ((scanBursts (.idle, acc) bursts).1 = (.waitingEnd, t) ↔ EndedFrame bursts.flatten t) ∧
    ((scanBursts (.idle, acc) bursts).1.1 = .idle ↔
      ∀ t', ¬ OpenFrame bursts.flatten t' ∧ ¬ EndedFrame bursts.flatten t') := by
  rw [scanBursts_eq, scanBodies_eq]
  exact ⟨rfl, scanRun_characterization acc _ t⟩

/-! ## An encoded ADU on the wire -/

theorem isBodyChar_hexBody (adu : ApplicationDataUnit) : ∀ c ∈ hexBody adu, isBodyChar c = true := by
  intro c hc
  have := hexBody_free adu c hc
  simp [isBodyChar, this.1, this.2]

/-- From any state, the scanner reads an encoded ADU up to its CR into the state that awaits the
LF of its body, handing nothing on. -/
theorem scan_encodedPrefix (adu : ApplicationDataUnit) (st : Status × List Nat) :
    scanRun st (COLON :: hexBody adu ++ [CR]) = (.waitingEnd, hexBody adu) ∧
    scanBodies st (COLON :: hexBody adu ++ [CR]) = [] := by
  have hCR : CR ≠ COLON := by decide
  obtain ⟨status, acc⟩ := st
  have hstart : scan status acc COLON = (.reception, [], none) := by cases status <;> simp [scan]
  obtain ⟨hrun, hbodies⟩ := scanRun_reception (isBodyChar_hexBody adu) []
  simp only [List.cons_append, scanRun_cons, scanBodies_cons, scanStep, hstart, scanRun_append,
    scanBodies_append, hrun, hbodies]
  simp [scanStep, scan, hCR]

/-- From any state, the scanner reads an encoded ADU to the idle state and hands on its body
alone. -/
theorem scan_encoded (adu : ApplicationDataUnit) (st : Status × List Nat) :
    scanRun st (COLON :: hexBody adu ++ [CR, LF]) = (.idle, hexBody adu) ∧
    scanBodies st (COLON :: hexBody adu ++ [CR, LF]) = [hexBody adu] := by
  have hLF : LF ≠ COLON := by decide
  have hsplit : COLON :: hexBody adu ++ [CR, LF] = (COLON :: hexBody adu ++ [CR]) ++ [LF] := by simp
  obtain ⟨hrun, hbodies⟩ := scan_encodedPrefix adu st
  rw [hsplit, scanRun_append, scanBodies_append, hrun, hbodies]
  simp [scanStep, scan, hLF]

/-- A waiting layer hands an encoded reply to the wait callback, whatever state its scanner was
in. -/
theorem handleData_encoded_of_some {adu : ApplicationDataUnit} {s : AsciiApplicationLayer}
    {w : WaitingResponse} (hw : s.waitingResponse = some w) :
    (handleData (COLON :: hexBody adu ++ [CR, LF]) s).2 =
      [.callback w.callback (framing (some w) (hexBody adu))] := by
  have hsplit : COLON :: hexBody adu ++ [CR, LF] = (COLON :: hexBody adu ++ [CR]) ++ [LF] := by simp
  obtain ⟨hrun, hbodies⟩ := scan_encodedPrefix adu (s.status, s.frame)
  rw [hsplit, handleData_append, handleData_quiet hbodies, hrun]
  simp [handleData, handleByte, scan, hw, (by decide : LF ≠ COLON)]

/-- A layer with no wait registered emits the frame of an encoded ADU, whatever state its
scanner was in, and ends idle. -/
theorem handleData_encoded_of_none {adu : ApplicationDataUnit} (hb : AllBytes adu.bytes)
    {s : AsciiApplicationLayer} (hs : s.waitingResponse = none) :
    handleData (COLON :: hexBody adu ++ [CR, LF]) s =
      ({ s with status := .idle, frame := hexBody adu }, [.framing (decode (hexBody adu))]) := by
  rw [handleData_of_none_eq hs, (scan_encoded adu _).1, (scan_encoded adu _).2]
  simp [frameEvents, framing_hexBody hb]

/-- From any scanner state with no wait registered, the bytes of `encode adu`, cut into any
bursts, make the layer emit exactly one `'framing'` event, whose unit, fc and data are the
ADU's, and leave the scanner idle. -/
theorem handleBursts_encode {adu : ApplicationDataUnit} (hu : adu.unit < 256) (hf : adu.fc < 256)
    (hd : AllBytes adu.data) (s : AsciiApplicationLayer) (hs : s.waitingResponse = none) :
    ∃ bytes, encode adu = some bytes ∧ ∀ bursts : List (List Nat), bursts.flatten = bytes →
      ∃ f, (handleBursts bursts s).2 = [.framing f] ∧ f.Carries adu ∧
        (handleBursts bursts s).1.status = .idle := by
  have hb : AllBytes adu.bytes := by simp [ApplicationDataUnit.bytes, hu, hf, hd]
  refine ⟨_, encode_of_allBytes hb, fun bursts hflat => ⟨decode (hexBody adu), ?_, ?_, ?_⟩⟩
  · rw [handleBursts_eq, hflat, handleData_encoded_of_none hb hs]
  · rw [decode_hexBody hb]; exact ⟨rfl, rfl, rfl⟩
  · rw [handleBursts_eq, hflat, handleData_encoded_of_none hb hs]

/-- `handleBursts_encode` at a Read Holding Registers request to unit 1, from a new layer. -/
theorem handleBursts_encode_readHoldingRegisters :
    (1 < 256 ∧ 3 < 256 ∧ AllBytes [0, 0, 0, 1] ∧ ({} : AsciiApplicationLayer).waitingResponse = none) ∧
    ∃ bytes, encode { unit := 1, fc := 3, data := [0, 0, 0, 1] } = some bytes ∧
      ∀ bursts : List (List Nat), bursts.flatten = bytes →
        ∃ f, (handleBursts bursts {}).2 = [.framing f] ∧ f.Carries { unit := 1, fc := 3, data := [0, 0, 0, 1] } ∧
          (handleBursts bursts {}).1.status = .idle :=
  ⟨⟨by decide, by decide, by simp, rfl⟩,
    @handleBursts_encode { unit := 1, fc := 3, data := [0, 0, 0, 1] } (by decide) (by decide)
      (by simp) {} rfl⟩

end AsciiApplicationLayer

end NjsModbus
