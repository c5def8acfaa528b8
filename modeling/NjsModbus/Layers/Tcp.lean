import NjsModbus.Layers.Abstract

/-!
# `TcpApplicationLayer`

`src/layers/application/tcp-application-layer.ts`: the MBAP wire ADU is
`[transaction(2 BE) | protocol 0x0000 | length(2 BE) | unit | fc | data]` with
`length = data.length + 2`. Every burst is framed on its own; the layer keeps no buffer, only the
response-wait slot and the transaction counter `encode` draws from.
-/

namespace NjsModbus

/-- The state of an MBAP application layer. -/
structure TcpApplicationLayer where
  waitingResponse : Option WaitingResponse := none
  /-- `_transactionId`. -/
  transactionId : Nat := 1

namespace TcpApplicationLayer

/-- The pre-check loop of MBAP framing: the shared loop of the RTU and MBAP framers. -/
def preCheck : List PreCheck → Frame → Option Error := preCheckLoop

/-- The frame `framing` reads off a buffer. -/
def decode (buffer : List Nat) : Frame :=
  { transaction := some (readUInt16BE buffer 0), unit := buffer.getD 6 0,
    fc := buffer.getD 7 0, data := buffer.drop 8, buffer }

/-- The MBAP header check: protocol `0` and a length field that counts the rest. -/
def headerValid (buffer : List Nat) : Bool :=
  buffer.getD 2 0 = 0 && buffer.getD 3 0 = 0 && readUInt16BE buffer 4 = buffer.length - 6

/-- `framing(buffer, callback)`, as the one result it passes to `callback`. -/
def framing (waitingResponse : Option WaitingResponse) (buffer : List Nat) : Except Error Frame :=
  if buffer.length ≥ 8 then
    if headerValid buffer then
      match waitingResponse.bind fun w => preCheck w.preCheck (decode buffer) with
      | some e => .error e
      | none => .ok (decode buffer)
    else .error invalidData
  else .error insufficientDataLength

/-- The `'data'` listener: the burst goes to the wait callback if one is registered, and is
emitted otherwise when it frames. -/
def handleData (data : List Nat) (s : TcpApplicationLayer) : TcpApplicationLayer × List LayerEvent :=
  match s.waitingResponse with
  | some w => ({ s with waitingResponse := none }, [.callback w.callback (framing (some w) data)])
  | none =>
    (s, match framing none data with
      | .ok f => [.framing f]
      | .error _ => [])

def startWaitingResponse (preCheck : List PreCheck) (callback : Nat) (s : TcpApplicationLayer) :
    TcpApplicationLayer :=
  { s with waitingResponse := some ⟨preCheck, callback⟩ }

def stopWaitingResponse (s : TcpApplicationLayer) : TcpApplicationLayer :=
  { s with waitingResponse := none }

/-- `(this._transactionId + 1) % 256 || 1`. -/
def nextTransactionId (id : Nat) : Nat :=
  if (id + 1) % 256 = 0 then 1 else (id + 1) % 256

/-- `encode(data)`: the MBAP ADU, with the caller's transaction or else the counter, which
then advances; `none` where a write throws. -/
def encode (adu : ApplicationDataUnit) (s : TcpApplicationLayer) :
    Option (List Nat × TcpApplicationLayer) := do
  let transaction ← writeUInt16BE (adu.transaction.getD s.transactionId)
  let protocol ← writeUInt16BE 0
  let length ← writeUInt16BE (adu.data.length + 2)
  let unit ← writeUInt8 adu.unit
  let fc ← writeUInt8 adu.fc
  let data ← writeBytes adu.data
  pure (transaction ++ protocol ++ length ++ unit ++ fc ++ data,
    { s with transactionId := nextTransactionId s.transactionId })

/-- The MBAP layer as the client sees it; it has no timer of its own. -/
def layer : AbstractApplicationLayer TcpApplicationLayer where
  waitingResponse := TcpApplicationLayer.waitingResponse
  timerArmed _ := false
  startWaitingResponse := startWaitingResponse
  stopWaitingResponse := stopWaitingResponse
  encode := encode
  handleData := handleData
  timerFires s := (s, [])
  preCheck := preCheck

theorem framing_ok {w : Option WaitingResponse} {buffer : List Nat} {f : Frame}
    (h : framing w buffer = .ok f) :
    f = decode buffer ∧ ∀ v ∈ w, preCheck v.preCheck (decode buffer) = none := by
  unfold framing at h
  split at h
  · split at h
    · split at h
      · cases h
      · cases h
        refine ⟨rfl, fun v hv => ?_⟩
        cases w <;> simp_all
    · cases h
  · cases h

theorem encode_waitingResponse {a : ApplicationDataUnit} {s s' : TcpApplicationLayer}
    {b : List Nat} (h : encode a s = some (b, s')) : s'.waitingResponse = s.waitingResponse := by
  simp only [encode, Option.bind_eq_bind, Option.bind_eq_some, Option.pure_def,
    Option.some.injEq, Prod.mk.injEq] at h
  obtain ⟨_, _, _, _, _, _, _, _, _, _, _, _, -, rfl⟩ := h
  rfl

theorem handleData_of_none {s : TcpApplicationLayer} (h : s.waitingResponse = none)
    (data : List Nat) :
    handleData data s = (s, match framing none data with
      | .ok f => [.framing f]
      | .error _ => []) := by
  simp only [handleData, h]

theorem handleData_of_some {s : TcpApplicationLayer} {w : WaitingResponse}
    (h : s.waitingResponse = some w) (data : List Nat) :
    handleData data s =
      ({ s with waitingResponse := none }, [.callback w.callback (framing (some w) data)]) := by
  simp only [handleData, h]

/-! ## One ADU on the wire -/

/-- What `encode` writes: the MBAP header with the transaction used, then unit, fc and data. -/
theorem encode_eq_some {adu : ApplicationDataUnit} {s s' : TcpApplicationLayer} {bytes : List Nat}
    (h : encode adu s = some (bytes, s')) :
    adu.transaction.getD s.transactionId < 65536 ∧ adu.data.length + 2 < 65536 ∧
      bytes = [adu.transaction.getD s.transactionId / 256, adu.transaction.getD s.transactionId % 256,
        0, 0, (adu.data.length + 2) / 256, (adu.data.length + 2) % 256, adu.unit, adu.fc] ++ adu.data := by
  simp only [encode, Option.bind_eq_bind, Option.bind_eq_some, writeUInt16BE_eq_some,
    writeUInt8_eq_some, writeBytes_eq_some, Option.pure_def, Option.some.injEq, Prod.mk.injEq] at h
  obtain ⟨_, ⟨ht, rfl⟩, _, ⟨-, rfl⟩, _, ⟨hl, rfl⟩, _, ⟨-, rfl⟩, _, ⟨-, rfl⟩, _, ⟨-, rfl⟩, rfl, -⟩ := h
  exact ⟨ht, hl, rfl⟩

theorem encode_isSome {adu : ApplicationDataUnit} (h : adu.Valid) {s : TcpApplicationLayer}
    (hs : s.transactionId < 65536) : ∃ bytes s', encode adu s = some (bytes, s') := by
  have ht : adu.transaction.getD s.transactionId < 65536 := by
    cases hadu : adu.transaction with
    | none => exact hs
    | some t => exact h.transaction t hadu
  have hl : adu.data.length + 2 < 65536 := by have := h.length; omega
  simp [encode, writeUInt16BE_of_lt ht, writeUInt16BE_of_lt hl,
    writeUInt16BE_of_lt (by decide : (0 : Nat) < 65536), writeUInt8_of_lt h.unit,
    writeUInt8_of_lt h.fc, writeBytes_of_allBytes h.data]

/-- `framing` reads back the frame `encode` wrote, with the transaction it used. -/
theorem decode_of_encode {adu : ApplicationDataUnit} {s s' : TcpApplicationLayer} {bytes : List Nat}
    (h : encode adu s = some (bytes, s')) :
    decode bytes =
      { transaction := some (adu.transaction.getD s.transactionId), unit := adu.unit, fc := adu.fc,
        data := adu.data, buffer := bytes } := by
  obtain ⟨-, -, rfl⟩ := encode_eq_some h
  simp [decode, readUInt16BE, Nat.div_add_mod']

theorem headerValid_of_encode {adu : ApplicationDataUnit} {s s' : TcpApplicationLayer}
    {bytes : List Nat} (h : encode adu s = some (bytes, s')) : headerValid bytes = true := by
  obtain ⟨-, -, rfl⟩ := encode_eq_some h
  simp [headerValid, readUInt16BE, Nat.div_add_mod']

/-- What `framing` makes of an encoded ADU: its frame, unless a pre-check fails. -/
theorem framing_of_encode {adu : ApplicationDataUnit} {s s' : TcpApplicationLayer} {bytes : List Nat}
    (h : encode adu s = some (bytes, s')) (w : Option WaitingResponse) :
    framing w bytes = match w.bind fun w => preCheck w.preCheck (decode bytes) with
      | some e => .error e
      | none => .ok (decode bytes) := by
  have hlen : bytes.length ≥ 8 := by obtain ⟨-, -, rfl⟩ := encode_eq_some h; simp
  simp only [framing, if_pos hlen, headerValid_of_encode h, if_true]

/-- A waiting layer hands an encoded reply that passes the pre-checks to the wait callback. -/
theorem handleData_startWaitingResponse {adu : ApplicationDataUnit} {s s' : TcpApplicationLayer}
    {bytes : List Nat} (h : encode adu s = some (bytes, s')) {checks : List PreCheck}
    (hpre : preCheck checks (decode bytes) = none) (k : Nat) (c : TcpApplicationLayer) :
    (handleData bytes (startWaitingResponse checks k c)).2 = [.callback k (.ok (decode bytes))] := by
  simp [handleData, startWaitingResponse, framing_of_encode h, hpre]

/-- A layer that is not waiting emits an encoded frame. -/
theorem handleData_of_encode {adu : ApplicationDataUnit} {s s' : TcpApplicationLayer}
    {bytes : List Nat} (h : encode adu s = some (bytes, s')) {c : TcpApplicationLayer}
    (hc : c.waitingResponse = none) : (handleData bytes c).2 = [.framing (decode bytes)] := by
  simp [handleData_of_none hc, framing_of_encode h]

/-! ## Encoding and framing invert each other -/

/-- `(id + 1) % 256 || 1` is always in `1`–`255`. -/
theorem nextTransactionId_pos_lt (id : Nat) : 1 ≤ nextTransactionId id ∧ nextTransactionId id < 256 := by
  unfold nextTransactionId
  split <;> omega

/-- The counter `encode` leaves behind is the next one. -/
theorem encode_transactionId {adu : ApplicationDataUnit} {s s' : TcpApplicationLayer}
    {bytes : List Nat} (h : encode adu s = some (bytes, s')) :
    s'.transactionId = nextTransactionId s.transactionId := by
  simp only [encode, Option.bind_eq_bind, Option.bind_eq_some, Option.pure_def,
    Option.some.injEq, Prod.mk.injEq] at h
  obtain ⟨_, _, _, _, _, _, _, _, _, _, _, _, -, rfl⟩ := h
  rfl

/-- With no wait registered, a valid ADU encodes and frames back, with the caller's transaction
or else the counter before the call. -/
theorem framing_encode {adu : ApplicationDataUnit} (h : adu.Valid) {s : TcpApplicationLayer}
    (hs : s.transactionId < 65536) :
    ∃ bytes s', encode adu s = some (bytes, s') ∧
      framing none bytes = .ok
        { transaction := some (adu.transaction.getD s.transactionId), unit := adu.unit, fc := adu.fc,
          data := adu.data, buffer := bytes } := by
  obtain ⟨bytes, s', henc⟩ := encode_isSome h hs
  exact ⟨bytes, s', henc, by rw [framing_of_encode henc, decode_of_encode henc]; rfl⟩

/-- With no wait registered, `framing` accepts a buffer of eight bytes or more whose header
checks. -/
theorem framing_none_ok {buffer : List Nat} {f : Frame} (h : framing none buffer = .ok f) :
    8 ≤ buffer.length ∧ headerValid buffer = true ∧ f = decode buffer := by
  unfold framing at h
  split at h
  · split at h
    · split at h
      · cases h
      · cases h; exact ⟨‹_›, ‹_›, rfl⟩
    · cases h
  · cases h

/-- A buffer of bytes that `framing` accepts is the encoding of the frame it decodes to, from
any counter: the frame carries its own transaction. -/
theorem encode_of_framing {buffer : List Nat} (hb : AllBytes buffer) {f : Frame}
    (h : framing none buffer = .ok f) (s : TcpApplicationLayer) :
    encode f.toApplicationDataUnit s =
      some (buffer, { s with transactionId := nextTransactionId s.transactionId }) := by
  obtain ⟨hlen, hheader, rfl⟩ := framing_none_ok h
  rcases buffer with _|⟨t1, _|⟨t0, _|⟨p1, _|⟨p0, _|⟨l1, _|⟨l0, _|⟨u, _|⟨c, data⟩⟩⟩⟩⟩⟩⟩⟩ <;>
    simp at hlen
  simp only [allBytes_cons] at hb
  obtain ⟨ht1, ht0, -, -, hl1, hl0, hu, hc, hd⟩ := hb
  simp [headerValid, readUInt16BE] at hheader
  obtain ⟨⟨rfl, rfl⟩, hl⟩ := hheader
  simp [decode, encode, ← hl, writeUInt16BE_of_lt (show t1 * 256 + t0 < 65536 by omega),
    writeUInt16BE_of_lt (show l1 * 256 + l0 < 65536 by omega), writeUInt8_of_lt hu, writeUInt8_of_lt hc,
    writeBytes_of_allBytes hd, writeUInt16BE_of_lt (show (0 : Nat) < 65536 by decide),
    show (u :: c :: data)[0]?.getD 0 = u from rfl]
  omega

/-- The MBAP layer keeps the client's slot discipline. -/
theorem layer_lawful : layer.Lawful where
  waitingResponse_start _ _ _ := rfl
  timerArmed_start _ _ _ := rfl
  waitingResponse_stop _ := rfl
  encode_slot _ _ _ _ h := ⟨encode_waitingResponse h, rfl⟩
  handleData_idle d s h := by
    simp only [layer, handleData_of_none h]
    exact ⟨by split <;> rfl, h⟩
  handleData_waiting d s w h := by
    simp only [layer, handleData_of_some h]
    exact .inr ⟨_, rfl, trivial, fun f hf => (framing_ok hf).1 ▸ (framing_ok hf).2 w rfl⟩
  timerFires_idle _ h := ⟨rfl, h⟩

end TcpApplicationLayer

end NjsModbus
