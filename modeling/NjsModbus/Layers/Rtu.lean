import NjsModbus.Layers.Abstract

/-!
# `RtuApplicationLayer`

`src/layers/application/rtu-application-layer.ts`: the wire ADU is
`[unit | fc | data | CRC16-LE]`. Bursts are appended to `_bufferRx`.

* Not waiting, each burst (re)arms the 3.5T timer; when it fires (or at once, on a transport
  whose `threePointFiveT` is `0`) the whole buffer is framed, a good frame emitted, and the
  buffer reset.
* Waiting, each burst frames the buffer with the registered pre-checks; "Insufficient data
  length" is swallowed and the buffer kept, any other result goes to the wait callback.
-/

namespace NjsModbus

/-- The state of an RTU application layer. -/
structure RtuApplicationLayer where
  waitingResponse : Option WaitingResponse := none
  /-- `_timerThreePointFive` is armed. -/
  timerThreePointFive : Bool := false
  bufferRx : List Nat := []

namespace RtuApplicationLayer

/-- The pre-check loop of RTU framing: the shared loop of the RTU and MBAP framers. -/
def preCheck : List PreCheck → Frame → Option Error := preCheckLoop

/-- The frame `framing` reads off a buffer: unit, fc, and the data between them and the CRC. -/
def decode (buffer : List Nat) : Frame :=
  { unit := buffer.getD 0 0, fc := buffer.getD 1 0,
    data := (buffer.take (buffer.length - 2)).drop 2, buffer }

/-- `buffer.readUInt16LE(buffer.length - 2) === crc(buffer.subarray(0, buffer.length - 2))`. -/
def crcPassed (buffer : List Nat) : Bool :=
  readUInt16LE buffer (buffer.length - 2) = crc (buffer.take (buffer.length - 2))

/-- `framing(buffer, callback)`, as the one result it passes to `callback`. -/
def framing (waitingResponse : Option WaitingResponse) (buffer : List Nat) : Except Error Frame :=
  if buffer.length ≥ 4 then
    match waitingResponse.bind fun w => preCheck w.preCheck (decode buffer) with
    | some e => .error e
    | none => if crcPassed buffer then .ok (decode buffer) else .error crcCheckFailed
  else .error insufficientDataLength

/-- The one result the waiting branch swallows. -/
def isInsufficientDataLength : Except Error Frame → Bool
  | .error e => e.message = "Insufficient data length"
  | .ok _ => false

/-- The inner `handleData` of the not-waiting branch: frame the whole buffer, emit a good
frame, reset the buffer. -/
def flush (s : RtuApplicationLayer) : RtuApplicationLayer × List LayerEvent :=
  ({ s with bufferRx := [] },
    match framing s.waitingResponse s.bufferRx with
    | .ok f => [.framing f]
    | .error _ => [])

/-- The `'data'` listener of a layer whose 3.5T interval is `threePointFiveT` (`0` on a
non-serial transport, which frames every burst at once). -/
def handleData (threePointFiveT : Nat) (data : List Nat) (s : RtuApplicationLayer) :
    RtuApplicationLayer × List LayerEvent :=
  let s := { s with bufferRx := s.bufferRx ++ data }
  match s.waitingResponse with
  | some w =>
    let r := framing (some w) s.bufferRx
    if isInsufficientDataLength r then (s, [])
    else ({ s with waitingResponse := none, bufferRx := [] }, [.callback w.callback r])
  | none =>
    if threePointFiveT ≠ 0 then ({ s with timerThreePointFive := true }, [])
    else flush { s with timerThreePointFive := false }

/-- The 3.5T timer fires. -/
def timerFires (s : RtuApplicationLayer) : RtuApplicationLayer × List LayerEvent :=
  flush { s with timerThreePointFive := false }

/-- A burst to a layer that is not waiting, then, on a serial transport, its 3.5T timer firing:
the state after both and the events of both. -/
def receive (threePointFiveT : Nat) (data : List Nat) (s : RtuApplicationLayer) :
    RtuApplicationLayer × List LayerEvent :=
  let r := handleData threePointFiveT data s
  if r.1.timerThreePointFive then ((timerFires r.1).1, r.2 ++ (timerFires r.1).2) else r

def startWaitingResponse (preCheck : List PreCheck) (callback : Nat) (_ : RtuApplicationLayer) :
    RtuApplicationLayer :=
  { waitingResponse := some ⟨preCheck, callback⟩, timerThreePointFive := false, bufferRx := [] }

def stopWaitingResponse (s : RtuApplicationLayer) : RtuApplicationLayer :=
  { s with waitingResponse := none }

/-- The `'close'` listener. -/
def handleClose (s : RtuApplicationLayer) : RtuApplicationLayer :=
  { s with timerThreePointFive := false, bufferRx := [] }

/-- `encode(data)`: `[unit | fc | data | crc LE]`, or `none` where a write throws. -/
def encode (adu : ApplicationDataUnit) : Option (List Nat) := do
  let unit ← writeUInt8 adu.unit
  let fc ← writeUInt8 adu.fc
  let data ← writeBytes adu.data
  let crcBytes ← writeUInt16LE (crc (unit ++ fc ++ data))
  pure (unit ++ fc ++ data ++ crcBytes)

/-- The RTU layer as the client sees it. -/
def layer (threePointFiveT : Nat) : AbstractApplicationLayer RtuApplicationLayer where
  waitingResponse := RtuApplicationLayer.waitingResponse
  timerArmed := timerThreePointFive
  startWaitingResponse := startWaitingResponse
  stopWaitingResponse := stopWaitingResponse
  encode adu s := (encode adu).map (·, s)
  handleData := handleData threePointFiveT
  timerFires := timerFires
  preCheck := preCheck

/-! ## The framing results -/

theorem framing_ok {w : Option WaitingResponse} {buffer : List Nat} {f : Frame}
    (h : framing w buffer = .ok f) :
    f = decode buffer ∧ ∀ v ∈ w, preCheck v.preCheck (decode buffer) = none := by
  unfold framing at h
  split at h
  · split at h
    · cases h
    · rename_i hpre
      split at h
      · cases h
        refine ⟨rfl, fun v hv => ?_⟩
        cases w <;> simp_all
      · cases h
  · cases h

@[simp] theorem flush_waitingResponse (s : RtuApplicationLayer) :
    (flush s).1.waitingResponse = s.waitingResponse := rfl

theorem callbacks_flush (s : RtuApplicationLayer) : LayerEvent.callbacks (flush s).2 = [] := by
  unfold flush; split <;> rfl

theorem handleData_of_none {s : RtuApplicationLayer} (h : s.waitingResponse = none)
    (threePointFiveT : Nat) (data : List Nat) :
    handleData threePointFiveT data s =
      if threePointFiveT ≠ 0 then
        ({ s with bufferRx := s.bufferRx ++ data, timerThreePointFive := true }, [])
      else flush { s with bufferRx := s.bufferRx ++ data, timerThreePointFive := false } := by
  simp only [handleData, h]

theorem handleData_of_some {s : RtuApplicationLayer} {w : WaitingResponse}
    (h : s.waitingResponse = some w) (threePointFiveT : Nat) (data : List Nat) :
    handleData threePointFiveT data s =
      if isInsufficientDataLength (framing (some w) (s.bufferRx ++ data)) then
        ({ s with bufferRx := s.bufferRx ++ data }, [])
      else ({ s with waitingResponse := none, bufferRx := [] },
        [.callback w.callback (framing (some w) (s.bufferRx ++ data))]) := by
  simp only [handleData, h]

/-! ## One ADU on the wire -/

/-- What `encode` writes: the ADU's bytes and their CRC, low byte first. -/
theorem encode_eq_some {adu : ApplicationDataUnit} {bytes : List Nat} (h : encode adu = some bytes) :
    AllBytes adu.bytes ∧ bytes = adu.bytes ++ [crc adu.bytes % 256, crc adu.bytes / 256] := by
  simp only [encode, Option.bind_eq_bind, Option.bind_eq_some, writeUInt8_eq_some,
    writeBytes_eq_some, writeUInt16LE_eq_some, Option.pure_def, Option.some.injEq] at h
  obtain ⟨_, ⟨hu, rfl⟩, _, ⟨hf, rfl⟩, _, ⟨hd, rfl⟩, _, ⟨-, rfl⟩, rfl⟩ := h
  exact ⟨by simp [ApplicationDataUnit.bytes, hu, hf, hd], rfl⟩

theorem encode_isSome {adu : ApplicationDataUnit} (h : adu.Valid) : ∃ bytes, encode adu = some bytes := by
  have hc := crc_lt h.bytes
  simp only [ApplicationDataUnit.bytes] at hc
  simp [encode, writeUInt8_of_lt h.unit, writeUInt8_of_lt h.fc, writeBytes_of_allBytes h.data,
    writeUInt16LE_of_lt hc]

/-- `framing` reads back the frame `encode` wrote. -/
theorem decode_of_encode {adu : ApplicationDataUnit} {bytes : List Nat} (h : encode adu = some bytes) :
    decode bytes = { unit := adu.unit, fc := adu.fc, data := adu.data, buffer := bytes } := by
  obtain ⟨-, rfl⟩ := encode_eq_some h
  simp [decode, ApplicationDataUnit.bytes]

theorem crcPassed_of_encode {adu : ApplicationDataUnit} {bytes : List Nat}
    (h : encode adu = some bytes) : crcPassed bytes = true := by
  obtain ⟨-, rfl⟩ := encode_eq_some h
  have hlen : (adu.bytes ++ [crc adu.bytes % 256, crc adu.bytes / 256]).length - 2 =
      adu.bytes.length := by simp
  simp only [crcPassed, hlen, readUInt16LE_append, List.take_left, Nat.mod_add_div', decide_True]

/-- What `framing` makes of an encoded ADU: its frame, unless a pre-check fails. -/
theorem framing_of_encode {adu : ApplicationDataUnit} {bytes : List Nat}
    (h : encode adu = some bytes) (w : Option WaitingResponse) :
    framing w bytes = match w.bind fun w => preCheck w.preCheck (decode bytes) with
      | some e => .error e
      | none => .ok (decode bytes) := by
  have hlen : bytes.length ≥ 4 := by
    obtain ⟨-, rfl⟩ := encode_eq_some h; simp [ApplicationDataUnit.bytes]
  simp only [framing, if_pos hlen, crcPassed_of_encode h, if_true]

/-- A waiting layer hands an encoded reply that passes the pre-checks to the wait callback. -/
theorem handleData_startWaitingResponse {adu : ApplicationDataUnit} {bytes : List Nat}
    (h : encode adu = some bytes) {checks : List PreCheck} (hpre : preCheck checks (decode bytes) = none)
    (threePointFiveT k : Nat) (s : RtuApplicationLayer) :
    handleData threePointFiveT bytes (startWaitingResponse checks k s) =
      ({ waitingResponse := none, timerThreePointFive := false, bufferRx := [] },
        [.callback k (.ok (decode bytes))]) := by
  rw [handleData_of_some rfl]
  simp [startWaitingResponse, framing_of_encode h, hpre, isInsufficientDataLength]

/-- A fresh layer that is not waiting emits an encoded frame once its 3.5T timer fires (at once
on a transport whose interval is `0`). -/
theorem receive_fresh {adu : ApplicationDataUnit} {bytes : List Nat} (h : encode adu = some bytes)
    (threePointFiveT : Nat) : (receive threePointFiveT bytes {}).2 = [.framing (decode bytes)] := by
  unfold receive
  rw [handleData_of_none rfl]
  split <;> simp [timerFires, flush, framing_of_encode h]

/-! ## Encoding and framing invert each other -/

/-- Every ADU of bytes encodes, whatever the length of its data. -/
theorem encode_of_allBytes {adu : ApplicationDataUnit} (h : AllBytes adu.bytes) :
    encode adu = some (adu.bytes ++ [crc adu.bytes % 256, crc adu.bytes / 256]) := by
  have hc := crc_lt h
  simp only [ApplicationDataUnit.bytes, allBytes_cons] at h hc
  simp [encode, writeUInt8_of_lt h.1, writeUInt8_of_lt h.2.1, writeBytes_of_allBytes h.2.2,
    writeUInt16LE_of_lt hc, ApplicationDataUnit.bytes]

/-- With no wait registered, an ADU of bytes encodes and frames back to its unit, fc and data. -/
theorem framing_encode {adu : ApplicationDataUnit} (h : AllBytes adu.bytes) :
    ∃ bytes, encode adu = some bytes ∧
      framing none bytes = .ok { unit := adu.unit, fc := adu.fc, data := adu.data, buffer := bytes } :=
  ⟨_, encode_of_allBytes h, by
    rw [framing_of_encode (encode_of_allBytes h), decode_of_encode (encode_of_allBytes h)]; rfl⟩

/-- With no wait registered, `framing` accepts a buffer of four bytes or more whose CRC checks. -/
theorem framing_none_ok {buffer : List Nat} {f : Frame} (h : framing none buffer = .ok f) :
    4 ≤ buffer.length ∧ crcPassed buffer = true ∧ f = decode buffer := by
  unfold framing at h
  split at h
  · split at h
    · cases h
    · split at h
      · cases h; exact ⟨‹_›, ‹_›, rfl⟩
      · cases h
  · cases h

/-- The last two entries of a buffer split off. -/
theorem exists_append_two {l : List Nat} (h : 2 ≤ l.length) : ∃ pre x y, l = pre ++ [x, y] := by
  obtain ⟨l', y, rfl⟩ := (List.eq_nil_or_concat l).resolve_left (by rintro rfl; simp at h)
  obtain ⟨pre, x, rfl⟩ := (List.eq_nil_or_concat l').resolve_left (by rintro rfl; simp at h)
  exact ⟨pre, x, y, by simp⟩

/-- A buffer of bytes that `framing` accepts is the encoding of the frame it decodes to: the
CRC it carries is the one `encode` computes, low byte first. -/
theorem encode_of_framing {buffer : List Nat} (hb : AllBytes buffer) {f : Frame}
    (h : framing none buffer = .ok f) : encode f.toApplicationDataUnit = some buffer := by
  obtain ⟨hlen, hcrc, rfl⟩ := framing_none_ok h
  obtain ⟨pre, x, y, rfl⟩ := exists_append_two (show 2 ≤ buffer.length by omega)
  have hpre : (pre ++ [x, y]).length - 2 = pre.length := by simp
  simp only [crcPassed, hpre, readUInt16LE_append, List.take_left, decide_eq_true_eq] at hcrc
  simp only [allBytes_append, allBytes_cons] at hb
  rcases pre with _ | ⟨b0, _ | ⟨b1, data⟩⟩ <;> simp at hlen
  have hbytes : (decode (b0 :: b1 :: data ++ [x, y])).bytes = b0 :: b1 :: data := by
    simp [decode, ApplicationDataUnit.bytes]
  rw [encode_of_allBytes (by rw [hbytes]; exact hb.1), hbytes, ← hcrc]
  simp only [Option.some.injEq, List.append_cancel_left_eq, List.cons.injEq, and_true]
  omega

/-- The RTU layer keeps the client's slot discipline. -/
theorem layer_lawful (threePointFiveT : Nat) : (layer threePointFiveT).Lawful where
  waitingResponse_start _ _ _ := rfl
  timerArmed_start _ _ _ := rfl
  waitingResponse_stop _ := rfl
  encode_slot a s b s' h := by
    simp only [layer, Option.map_eq_some'] at h
    obtain ⟨_, _, h⟩ := h
    cases h; exact ⟨rfl, rfl⟩
  handleData_idle d s h := by
    simp only [layer, handleData_of_none h]
    split
    · exact ⟨rfl, h⟩
    · exact ⟨callbacks_flush _, h⟩
  handleData_waiting d s w h := by
    simp only [layer, handleData_of_some h]
    split
    · exact .inl ⟨rfl, h, rfl⟩
    · refine .inr ⟨_, rfl, rfl, fun f hf => ?_⟩
      exact (framing_ok hf).1 ▸ (framing_ok hf).2 w rfl
  timerFires_idle s h := ⟨callbacks_flush _, h⟩

end RtuApplicationLayer

end NjsModbus
