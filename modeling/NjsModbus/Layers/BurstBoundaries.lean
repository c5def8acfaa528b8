import NjsModbus.Layers.AsciiScanner
import NjsModbus.Layers.Tcp

/-!
# Bursts that do not line up with frames

A stream transport hands over bytes in bursts of its own choosing: a reply may come in several
pieces, and two frames sent one after the other may come in one. The three framers meet that
differently:

* the ASCII scanner keeps its state from burst to burst, so a waiting layer sits out every
  proper prefix of an encoded reply, wherever it is cut, and the rest of the reply then hands
  the wait callback its frame (`AsciiApplicationLayer.handleData_prefix_waits`);
* the MBAP framer frames every burst alone and asks its length field to count the whole
  burst, so the first piece of a cut reply already fails the wait, with "Insufficient data
  length" under eight bytes and "Invalid data" from eight on
  (`TcpApplicationLayer.handleData_prefix_rejects`), and a burst that holds a frame and more
  bytes after it, a second frame say, is refused as a whole
  (`TcpApplicationLayer.handleData_extended_rejects`);
* the RTU framer buffers the bursts but reads a short frame's length check as "Invalid
  response" (`readHoldingRegisters_split`, `Master/Responses.lean`).
-/

namespace NjsModbus

namespace AsciiApplicationLayer

theorem hexBody_ne_LF (adu : ApplicationDataUnit) : ∀ c ∈ hexBody adu, c ≠ LF := by
  simp only [hexBody, List.mem_flatMap, hexByte, List.mem_cons, List.not_mem_nil, or_false]
  rintro c ⟨v, -, rfl | rfl⟩ <;> (unfold hexChar LF; split <;> omega)

/-- Only an LF hands a body to `framing`. -/
theorem scanBodies_of_ne_LF (st : Status × List Nat) {data : List Nat} (h : ∀ c ∈ data, c ≠ LF) :
    scanBodies st data = [] := by
  induction data generalizing st with
  | nil => rfl
  | cons v rest ih =>
    have hv : (scan st.1 st.2 v).2.2 = none := by
      have hne := h v (List.mem_cons_self v rest)
      rcases st with ⟨_ | _ | _, frame⟩ <;> simp only [scan] <;> split_ifs <;> simp [hne]
    simp [scanBodies, hv, ih _ fun c hc => h c (List.mem_cons_of_mem v hc)]

/-- A proper prefix of an encoded ADU holds no LF. -/
theorem ne_LF_before_last {adu : ApplicationDataUnit} {pre post : List Nat}
    (hsplit : pre ++ post = COLON :: hexBody adu ++ [CR, LF]) (hpost : post ≠ []) :
    ∀ c ∈ pre, c ≠ LF := by
  obtain ⟨post', last, rfl⟩ := List.eq_nil_or_concat post |>.resolve_left hpost
  have hpre : pre ++ post' = COLON :: hexBody adu ++ [CR] := by
    have : (pre ++ post') ++ [last] = (COLON :: hexBody adu ++ [CR]) ++ [LF] := by simpa using hsplit
    exact (List.append_inj' this rfl).1
  intro c hc
  have hmem : c ∈ COLON :: hexBody adu ++ [CR] := hpre ▸ List.mem_append_left post' hc
  simp only [List.cons_append, List.mem_cons, List.mem_append, List.mem_singleton,
    List.not_mem_nil, or_false] at hmem
  rcases hmem with rfl | hbody | rfl
  · decide
  · exact hexBody_ne_LF adu c hbody
  · decide

/-- A waiting ASCII layer sits out every proper prefix of an encoded reply, wherever it is cut:
nothing reaches the wait callback and the wait stays registered. The rest of the reply then
hands the callback what `framing` makes of the whole body. -/
theorem handleData_prefix_waits {adu : ApplicationDataUnit} {s : AsciiApplicationLayer}
    {w : WaitingResponse} (hw : s.waitingResponse = some w) {pre post : List Nat}
    (hsplit : pre ++ post = COLON :: hexBody adu ++ [CR, LF]) (hpost : post ≠ []) :
    (handleData pre s).2 = [] ∧ (handleData pre s).1.waitingResponse = some w ∧
      (handleData post (handleData pre s).1).2 = [.callback w.callback (framing (some w) (hexBody adu))] := by
  have hquiet := handleData_quiet (s := s) (scanBodies_of_ne_LF _ (ne_LF_before_last hsplit hpost))
  have hwhole := @handleData_encoded_of_some adu _ _ hw
  rw [← hsplit, handleData_append, hquiet] at hwhole
  refine ⟨by rw [hquiet], by rw [hquiet]; exact hw, ?_⟩
  rw [hquiet]
  simpa using hwhole

theorem handleData_prefix_waits_readHoldingRegisters :
    ({ waitingResponse := some ⟨[], 0⟩ } : AsciiApplicationLayer).waitingResponse = some ⟨[], 0⟩ ∧
      [COLON] ++ (hexBody { unit := 1, fc := 3, data := [2, 0, 7] } ++ [CR, LF]) =
        COLON :: hexBody { unit := 1, fc := 3, data := [2, 0, 7] } ++ [CR, LF] ∧
      hexBody { unit := 1, fc := 3, data := [2, 0, 7] } ++ [CR, LF] ≠ [] ∧
      ((handleData [COLON] { waitingResponse := some ⟨[], 0⟩ }).2 = [] ∧
        (handleData [COLON] { waitingResponse := some ⟨[], 0⟩ }).1.waitingResponse = some ⟨[], 0⟩ ∧
        (handleData (hexBody { unit := 1, fc := 3, data := [2, 0, 7] } ++ [CR, LF])
            (handleData [COLON] { waitingResponse := some ⟨[], 0⟩ }).1).2 =
          [.callback 0 (framing (some ⟨[], 0⟩) (hexBody { unit := 1, fc := 3, data := [2, 0, 7] }))]) :=
  ⟨rfl, rfl, by simp, handleData_prefix_waits rfl rfl (by simp)⟩

end AsciiApplicationLayer

namespace TcpApplicationLayer

/-- The bytes of a buffer up to `i + 1` read the same once more bytes follow. -/
theorem readUInt16BE_append_left {l : List Nat} (l' : List Nat) {i : Nat} (h : i + 1 < l.length) :
    readUInt16BE (l ++ l') i = readUInt16BE l i := by
  rw [readUInt16BE, readUInt16BE, List.getD_append _ _ _ _ (by omega), List.getD_append _ _ _ _ h]

/-- An encoding's length field counts its unit, code and data. -/
theorem lengthField_of_encode {adu : ApplicationDataUnit} {c c' : TcpApplicationLayer}
    {bytes : List Nat} (h : encode adu c = some (bytes, c')) :
    bytes.length = adu.data.length + 8 ∧ readUInt16BE bytes 4 = adu.data.length + 2 := by
  obtain ⟨-, -, rfl⟩ := encode_eq_some h
  refine ⟨by simp, ?_⟩
  simp only [readUInt16BE, List.cons_append, List.getD_cons_succ, List.getD_cons_zero]
  omega

/-- A waiting MBAP layer frames every burst alone: the first piece of an encoded reply cut
before its last byte fails the wait, whatever the pre-checks, with "Insufficient data length"
under eight bytes and "Invalid data" from eight on, where the length field counts more bytes
than the piece holds. -/
theorem handleData_prefix_rejects {adu : ApplicationDataUnit} {c c' : TcpApplicationLayer}
    {bytes : List Nat} (h : encode adu c = some (bytes, c')) {pre post : List Nat}
    (hsplit : pre ++ post = bytes) (hpost : post ≠ []) {s : TcpApplicationLayer} {w : WaitingResponse}
    (hw : s.waitingResponse = some w) :
    handleData pre s = ({ s with waitingResponse := none },
      [.callback w.callback (.error (if pre.length < 8 then insufficientDataLength else invalidData))]) := by
  rw [handleData_of_some hw]
  obtain ⟨hl, hfield⟩ := lengthField_of_encode h
  have hlen : pre.length < adu.data.length + 8 := by
    have hl' := congrArg List.length hsplit
    have : post.length ≠ 0 := fun h0 => hpost (List.length_eq_zero.mp h0)
    simp only [List.length_append] at hl'
    omega
  by_cases hshort : pre.length < 8
  · simp [framing, hshort]
  · have hinvalid : headerValid pre = false := by
      have hpre : readUInt16BE pre 4 = adu.data.length + 2 := by
        rw [← hfield, ← hsplit, readUInt16BE_append_left post (by omega)]
      simp only [headerValid, hpre, Bool.and_eq_false_iff, decide_eq_false_iff_not]
      exact .inr (by omega)
    simp [framing, hshort, hinvalid]

theorem handleData_prefix_rejects_afterByteCount :
    encode { transaction := some 1, unit := 1, fc := 3, data := [2, 0, 7] } {} =
        some ([0, 1, 0, 0, 0, 5, 1, 3, 2, 0, 7], { transactionId := 2 }) ∧
      [0, 1, 0, 0, 0, 5, 1, 3, 2] ++ [0, 7] = [0, 1, 0, 0, 0, 5, 1, 3, 2, 0, 7] ∧ [0, 7] ≠ [] ∧
      ({ waitingResponse := some ⟨[], 0⟩ } : TcpApplicationLayer).waitingResponse = some ⟨[], 0⟩ ∧
      handleData [0, 1, 0, 0, 0, 5, 1, 3, 2] { waitingResponse := some ⟨[], 0⟩ } =
        ({ ({ waitingResponse := some ⟨[], 0⟩ } : TcpApplicationLayer) with waitingResponse := none },
          [.callback 0 (.error (if [0, 1, 0, 0, 0, 5, 1, 3, 2].length < 8 then insufficientDataLength
            else invalidData))]) :=
  ⟨rfl, rfl, by simp, rfl,
    @handleData_prefix_rejects { transaction := some 1, unit := 1, fc := 3, data := [2, 0, 7] } {} _ _ rfl
      [0, 1, 0, 0, 0, 5, 1, 3, 2] [0, 7] rfl (by simp) _ _ rfl⟩

/-- The length field of an encoding followed by more bytes counts fewer bytes than the burst:
`framing` refuses the burst as "Invalid data", whatever the wait. -/
theorem framing_extended {adu : ApplicationDataUnit} {c c' : TcpApplicationLayer} {bytes : List Nat}
    (h : encode adu c = some (bytes, c')) {rest : List Nat} (hrest : rest ≠ [])
    (w : Option WaitingResponse) : framing w (bytes ++ rest) = .error invalidData := by
  obtain ⟨hl, hfield⟩ := lengthField_of_encode h
  have hr : rest.length ≠ 0 := fun h0 => hrest (List.length_eq_zero.mp h0)
  have hinvalid : headerValid (bytes ++ rest) = false := by
    simp only [headerValid, readUInt16BE_append_left rest (by omega : 4 + 1 < bytes.length), hfield,
      List.length_append, hl, Bool.and_eq_false_iff, decide_eq_false_iff_not]
    exact .inr (by omega)
  have hlong : (bytes ++ rest).length ≥ 8 := by simp only [List.length_append]; omega
  rw [framing, if_pos hlong, hinvalid]
  rfl

/-- The MBAP framer takes a burst only when it is one frame exactly: a burst that holds an
encoded ADU and any bytes after it (a second frame that TCP delivered with the first, say) is
refused as a whole. A layer no one waits on emits nothing for it, so both frames are lost; a
waiting layer fails the wait with "Invalid data". -/
theorem handleData_extended_rejects {adu : ApplicationDataUnit} {c c' : TcpApplicationLayer}
    {bytes : List Nat} (h : encode adu c = some (bytes, c')) {rest : List Nat} (hrest : rest ≠ [])
    (s : TcpApplicationLayer) :
    handleData (bytes ++ rest) s = match s.waitingResponse with
      | none => (s, [])
      | some w => ({ s with waitingResponse := none }, [.callback w.callback (.error invalidData)]) := by
  cases hw : s.waitingResponse with
  | none => simp [handleData_of_none hw, framing_extended h hrest]
  | some w => simp [handleData_of_some hw, framing_extended h hrest]

theorem handleData_extended_rejects_twoRequests :
    encode { transaction := some 1, unit := 1, fc := 3, data := [0, 0, 0, 1] } {} =
        some ([0, 1, 0, 0, 0, 6, 1, 3, 0, 0, 0, 1], { transactionId := 2 }) ∧
      [0, 2, 0, 0, 0, 6, 1, 3, 0, 0, 0, 1] ≠ [] ∧
      handleData ([0, 1, 0, 0, 0, 6, 1, 3, 0, 0, 0, 1] ++ [0, 2, 0, 0, 0, 6, 1, 3, 0, 0, 0, 1]) {} =
        match ({} : TcpApplicationLayer).waitingResponse with
        | none => ({}, [])
        | some w => ({ ({} : TcpApplicationLayer) with waitingResponse := none },
            [.callback w.callback (.error invalidData)]) :=
  ⟨rfl, by simp,
    @handleData_extended_rejects { transaction := some 1, unit := 1, fc := 3, data := [0, 0, 0, 1] } {} _ _ rfl
      [0, 2, 0, 0, 0, 6, 1, 3, 0, 0, 0, 1] (by simp) {}⟩

end TcpApplicationLayer

end NjsModbus
