import NjsModbus.Layers.Rtu
import NjsModbus.Layers.Tcp
import NjsModbus.Master.Requests

/-!
# The frames a request resolves with

Facts about the frame a wait callback receives, and about the transactions a client sends.

* The RTU layer frames every burst while a wait is registered, and its pre-check loop reports a
  frame *shorter* than a check's length as "Invalid response", not "Insufficient data length".
  A response split after its fourth byte and before its last fails the wait
  (`readHoldingRegisters_split`).
* On every lawful layer a request resolves only with a frame that passes its own pre-checks
  (`reachable_resolvedPass`). No check reads the MBAP transaction, so the late response to a
  request that timed out resolves the next request of the same shape, although it carries the
  earlier request's transaction (`readHoldingRegisters_stale`); `Exchange/Session.lean` shows that
  while each response comes before the next request, each request resolves with its own.
* Over MBAP, the `k`-th request a new client sends carries its own transaction or
  `k % 255 + 1` (`run_transactionIds`).
-/

namespace NjsModbus

/-! ## Split responses over RTU -/

/-- Checks that pass, then one that asks for more data than the frame holds: "Invalid
response". -/
theorem preCheckLoop_short {pass rest : List PreCheck} {check : PreCheck} {frame : Frame} {res : Nat}
    (hpass : ∀ c ∈ pass, c frame = .bool true) (h : check frame = .number res)
    (hshort : frame.data.length < res) :
    preCheckLoop (pass ++ check :: rest) frame = some invalidResponse := by
  induction pass with
  | nil => rw [List.nil_append, preCheckLoop_cons_number h]; simp [Nat.not_lt.mpr hshort.le, hshort.ne']
  | cons c pass ih =>
    rw [List.cons_append, preCheckLoop_cons_bool (hpass c (List.mem_cons_self _ _)), if_pos rfl]
    exact ih fun c' hc' => hpass c' (List.mem_cons_of_mem _ hc')

namespace RtuApplicationLayer

/-- A waiting layer whose buffer reaches four bytes, where the pre-checks fail with "Invalid
response", hands that error to the wait callback and stops the wait. -/
theorem handleData_invalid {t : Nat} {s : RtuApplicationLayer} {w : WaitingResponse}
    (hs : s.waitingResponse = some w) {data : List Nat} (hlen : 4 ≤ (s.bufferRx ++ data).length)
    (hpre : preCheck w.preCheck (decode (s.bufferRx ++ data)) = some invalidResponse) :
    (handleData t data s).2 = [.callback w.callback (.error invalidResponse)] ∧
      (handleData t data s).1.waitingResponse = none := by
  have hlen' : 4 ≤ s.bufferRx.length + data.length := by simpa using hlen
  have hinvalid : isInsufficientDataLength (.error invalidResponse) = false := by decide
  simp [handleData, hs, framing, hlen', hpre, hinvalid]

end RtuApplicationLayer

/-- A response to Read Holding Registers split after its fourth byte and before its last fails
the wait with "Invalid response", over an RTU layer with any 3.5T interval: the first burst is
framed on its own, and a frame shorter than the byte count the pre-checks ask for is not taken
for an incomplete one. The second burst then finds no wait. -/
theorem readHoldingRegisters_split (t : Nat) {unit address length : Nat} {c : MasterCall (List Nat)}
    (hc : ModbusMaster.readHoldingRegisters unit address length = some c) (hu : 1 ≤ unit ∧ unit ≤ 247)
    {reply : List Nat} (hunit : reply.getD 0 0 = unit) (hfc : reply.getD 1 0 = 0x03)
    (hlen : reply.length = length * 2 + 5) {k : Nat} (hk : 4 ≤ k ∧ k < reply.length) :
    ((({ layer := {} } : MasterState RtuApplicationLayer).run (RtuApplicationLayer.layer t)
      [.request c.toWaitRequest, .writeCompletes, .data (reply.take k), .data (reply.drop k)]).map
      (·.settlements)) = some [⟨0, .callback, .rejected invalidResponse⟩] := by
  simp only [ModbusMaster.readHoldingRegisters, ModbusMaster.writeFC3Or4, twoFields,
    Option.bind_eq_bind, Option.bind_eq_some, Option.pure_def, Option.some.injEq,
    writeUInt16BE_eq_some] at hc
  obtain ⟨_, ⟨_, ⟨ha, rfl⟩, _, ⟨hl, rfl⟩, rfl⟩, hc⟩ := hc
  have hbc : c.broadcast = false := by rw [← hc]; simp; omega
  obtain ⟨bytes, hbytes⟩ := @RtuApplicationLayer.encode_isSome c.adu
    (by rw [← hc]; exact ⟨show unit < 256 by omega, show 0x03 < 256 by decide, by simp; omega,
      by simp, by simp⟩)
  have hshort : RtuApplicationLayer.preCheck c.preCheck
      (RtuApplicationLayer.decode ([] ++ reply.take k)) = some invalidResponse := by
    rw [← hc]
    show preCheckLoop ([matchesUnitFc unit 0x03] ++ _ :: _) _ = _
    refine preCheckLoop_short ?_ rfl ?_
    · simp [matchesUnitFc, RtuApplicationLayer.decode, List.getD_eq_getElem?_getD,
        List.getElem?_take, show 0 < k by omega, show 1 < k by omega, ← hunit, ← hfc]
    · simp [RtuApplicationLayer.decode]; omega
  obtain ⟨hcb, hslot⟩ := RtuApplicationLayer.handleData_invalid (t := t)
    (s := RtuApplicationLayer.startWaitingResponse c.preCheck 0 {}) rfl (by simp; omega) hshort
  have hcallback : LayerEvent.callbacks ((RtuApplicationLayer.layer t).handleData (reply.take k)
      ((RtuApplicationLayer.layer t).startWaitingResponse c.preCheck 0 {})).2 =
      [(0, .error invalidResponse)] := by
    simp only [RtuApplicationLayer.layer, hcb, LayerEvent.callbacks_callback, LayerEvent.callbacks_nil]
  have hidle := ((RtuApplicationLayer.layer_lawful t).handleData_idle (reply.drop k)
    ((RtuApplicationLayer.layer t).handleData (reply.take k)
      ((RtuApplicationLayer.layer t).startWaitingResponse c.preCheck 0 {})).1 hslot).1
  have hencode : (RtuApplicationLayer.layer t).encode c.adu {} = some (bytes, {}) := by
    simp [RtuApplicationLayer.layer, hbytes]
  simp only [MasterState.run, MasterState.step_request_init, hencode, Option.map_some',
    Option.some_bind, MasterState.step_writeCompletes_first hbc,
    MasterState.step_data_first _ _ hcallback]
  simp [MasterState.step, MasterState.deliver_nil hidle, MasterState.outcomeOf]

/-- `readHoldingRegisters_split` at a response of one register, split after its byte count. -/
theorem readHoldingRegisters_split_after_byteCount :
    ModbusMaster.readHoldingRegisters 1 0 1 = some ((ModbusMaster.readHoldingRegisters 1 0 1).get rfl) ∧
    (1 ≤ 1 ∧ 1 ≤ 247) ∧ [1, 3, 2, 0, 7, 249, 134].getD 0 0 = 1 ∧
    [1, 3, 2, 0, 7, 249, 134].getD 1 0 = 0x03 ∧ [1, 3, 2, 0, 7, 249, 134].length = 1 * 2 + 5 ∧
    (4 ≤ 4 ∧ 4 < [1, 3, 2, 0, 7, 249, 134].length) ∧
    (({ layer := {} } : MasterState RtuApplicationLayer).run (RtuApplicationLayer.layer 0)
      [.request ((ModbusMaster.readHoldingRegisters 1 0 1).get rfl).toWaitRequest, .writeCompletes,
        .data ([1, 3, 2, 0, 7, 249, 134].take 4), .data ([1, 3, 2, 0, 7, 249, 134].drop 4)]).map
      (·.settlements) = some [⟨0, .callback, .rejected invalidResponse⟩] :=
  ⟨(Option.some_get _).symm, ⟨le_refl 1, by decide⟩, rfl, rfl, rfl, ⟨le_refl 4, by decide⟩,
    readHoldingRegisters_split 0 (Option.some_get _).symm ⟨le_refl 1, by decide⟩ (by rfl) (by rfl)
      (by rfl) ⟨le_refl 4, by decide⟩⟩

set_option maxRecDepth 4000 in
/-- The same response in one burst, with its CRC, resolves the request. -/
example :
    RtuApplicationLayer.encode { unit := 1, fc := 3, data := [2, 0, 7] } = some [1, 3, 2, 0, 7, 249, 134] ∧
    ((({ layer := {} } : MasterState RtuApplicationLayer).run (RtuApplicationLayer.layer 0)
      [.request ((ModbusMaster.readHoldingRegisters 1 0 1).get rfl).toWaitRequest, .writeCompletes,
        .data [1, 3, 2, 0, 7, 249, 134]]).map (·.settlements)).map (·.map (·.outcome)) =
      some [.resolved (some ⟨{ unit := 1, fc := 3, data := [2, 0, 7] }, [1, 3, 2, 0, 7, 249, 134]⟩)] := by
  decide

/-! ## What a request resolves with -/

namespace MasterState

variable {σ : Type} {L : AbstractApplicationLayer σ}

/-- Every request that resolved with a frame resolved with one that passes its own
pre-checks. -/
def ResolvedPass (L : AbstractApplicationLayer σ) (s : MasterState σ) : Prop :=
  ∀ st ∈ s.settlements, ∀ f, st.outcome = .resolved (some f) →
    ∃ r bytes, s.requests[st.request]? = some (r, bytes) ∧ L.preCheck r.preCheck f = none

/-- A step that only adds requests and settlements keeps the property when the settlements it
adds have it. -/
theorem resolvedPass_extend {s s' : MasterState σ} (hp : ResolvedPass L s)
    {extra : List (WaitRequest × List Nat)} (hreq : s'.requests = s.requests ++ extra)
    {new : List Settlement} (hset : s'.settlements = s.settlements ++ new)
    (hnew : ∀ st ∈ new, ∀ f, st.outcome = .resolved (some f) →
      ∃ r bytes, s'.requests[st.request]? = some (r, bytes) ∧ L.preCheck r.preCheck f = none) :
    ResolvedPass L s' := by
  intro st hst f hf
  rw [hset, List.mem_append] at hst
  rcases hst with hst | hst
  · obtain ⟨r, bytes, hget, hpre⟩ := hp st hst f hf
    exact ⟨r, bytes, by rw [hreq, List.getElem?_append_left (List.getElem?_eq_some_iff.mp hget).1, hget],
      hpre⟩
  · exact hnew st hst f hf

/-- Settling the current request without a frame keeps the property. -/
theorem resolvedPass_settle {s s' : MasterState σ} (hp : ResolvedPass L s) {cause : Cause}
    {outcome : Outcome} (ho : ∀ f, outcome ≠ .resolved (some f))
    (hset : s'.settlements = s.settlements ++ [⟨s.current, cause, outcome⟩])
    (hreq : s'.requests = s.requests) : ResolvedPass L s' :=
  resolvedPass_extend hp (hreq.trans (List.append_nil _).symm) hset fun st hst f hf => by
    rw [List.mem_singleton] at hst
    subst hst
    exact absurd hf (ho f)

/-- A burst or the layer's timer, invoking no callback or the registered wait's with a result
whose frame passes the wait's pre-checks, keeps the property. -/
theorem resolvedPass_layerStep {s : MasterState σ} {layer' : σ} {events : List LayerEvent}
    (hs : Inv L s) (hp : ResolvedPass L s)
    (hevents : LayerEvent.callbacks events = [] ∨ ∃ w res, L.waitingResponse s.layer = some w ∧
      LayerEvent.callbacks events = [(w.callback, res)] ∧
      ∀ f, res = .ok f → L.preCheck w.preCheck f = none) :
    ResolvedPass L ({ s with layer := layer' }.deliver events) := by
  rcases hevents with hcb | ⟨w, res, hw, hcb, hres⟩
  · rw [deliver_nil hcb]; exact hp
  obtain ⟨r, bytes, hlast, -, rfl⟩ := slot_request hs hw
  rw [deliver_current hcb]
  refine resolvedPass_extend hp (List.append_nil _).symm rfl fun st hst f hf => ?_
  rw [List.mem_singleton] at hst
  subst hst
  have hok : res = .ok f := by cases res <;> simp_all [outcomeOf]
  exact ⟨r, bytes, by rw [← hlast, List.getLast?_eq_getElem?]; rfl, hres f hok⟩

/-- Every event keeps the property. -/
theorem resolvedPass_step (hL : L.Lawful) {s s' : MasterState σ} {e : MasterEvent} (hs : Inv L s)
    (hp : ResolvedPass L s) (h : s.step L e = some s') : ResolvedPass L s' := by
  cases e with
  | request r =>
    obtain ⟨-, bytes, layer, -, rfl⟩ := step_request_some h
    exact resolvedPass_extend hp rfl (List.append_nil _).symm (by simp)
  | writeCompletes =>
    obtain ⟨-, r, bytes, -, ⟨-, rfl⟩ | ⟨-, rfl⟩⟩ := step_writeCompletes_some h
    · exact resolvedPass_settle hp (fun _ => by simp) rfl rfl
    · exact hp
  | writeFails e =>
    obtain ⟨-, rfl⟩ := step_writeFails_some h
    exact resolvedPass_settle hp (fun _ => by simp) rfl rfl
  | timeout =>
    obtain ⟨-, rfl⟩ := step_timeout_some h
    exact resolvedPass_settle hp (fun _ => by simp) rfl rfl
  | data bytes =>
    rw [step_data_some h]
    refine resolvedPass_layerStep hs hp ?_
    cases hw : L.waitingResponse s.layer with
    | none => exact .inl (hL.handleData_idle bytes _ hw).1
    | some w =>
      rcases hL.handleData_waiting bytes _ w hw with ⟨hcb, -⟩ | ⟨res, hcb, -, hres⟩
      · exact .inl hcb
      · exact .inr ⟨w, res, rfl, hcb, hres⟩
  | layerTimer =>
    obtain ⟨harmed, rfl⟩ := step_layerTimer_some h
    exact resolvedPass_layerStep hs hp (.inl (hL.timerFires_idle _ (slot_none_of_armed hs harmed)).1)

/-- On every lawful layer, every request that resolves with a frame, on every run, resolves
with one that passes that request's own pre-checks. -/
theorem reachable_resolvedPass (hL : L.Lawful) {s : MasterState σ} (h : Reachable L s) :
    ResolvedPass L s := by
  induction h with
  | init layer _ => exact fun _ hst => absurd hst (List.not_mem_nil _)
  | step e hr hstep ih => exact resolvedPass_step hL (reachable_inv hL hr) ih hstep

end MasterState

/-- No pre-check reads the MBAP transaction: the late response to a request that timed out
resolves the next request of the same shape. The response carries transaction `1`, which the
first request was encoded with; the request it resolves was encoded with transaction `2`. -/
theorem readHoldingRegisters_stale :
    ((ModbusMaster.readHoldingRegisters 1 0 1).bind fun c =>
      ((TcpApplicationLayer.encode { transaction := some 1, unit := 1, fc := 3, data := [2, 0, 7] }
        {}).map (·.1)).bind fun reply =>
      (({ layer := {} } : MasterState TcpApplicationLayer).run TcpApplicationLayer.layer
        [.request c.toWaitRequest, .writeCompletes, .timeout, .request c.toWaitRequest,
          .writeCompletes, .data reply]).map fun s => (s.settlements, s.requests.map (·.2.take 2))) =
    some ([⟨0, .timeout, .rejected timeoutError⟩,
      ⟨1, .callback, .resolved (some ⟨{ transaction := some 1, unit := 1, fc := 3, data := [2, 0, 7] },
        [0, 1, 0, 0, 0, 5, 1, 3, 2, 0, 7]⟩)⟩], [[0, 1], [0, 2]]) := by
  decide

/-! ## The MBAP transaction ids a client sends -/

namespace MasterState

variable {σ : Type} {L : AbstractApplicationLayer σ}

/-- A wait callback touches neither the layer nor the requests. -/
theorem callback_layer_requests (s : MasterState σ) (k : Nat) (r : Except Error Frame) :
    (s.callback k r).layer = s.layer ∧ (s.callback k r).requests = s.requests := by
  unfold callback settle; split <;> exact ⟨rfl, rfl⟩

/-- Delivering a layer's events touches neither the layer nor the requests. -/
theorem deliver_layer_requests (s : MasterState σ) (events : List LayerEvent) :
    (s.deliver events).layer = s.layer ∧ (s.deliver events).requests = s.requests := by
  unfold deliver
  induction LayerEvent.callbacks events generalizing s with
  | nil => exact ⟨rfl, rfl⟩
  | cons c rest ih =>
    obtain ⟨hlayer, hreq⟩ := ih (s.callback c.1 c.2)
    exact ⟨hlayer.trans (callback_layer_requests s c.1 c.2).1, hreq.trans (callback_layer_requests s c.1 c.2).2⟩

/-- Over MBAP, after `n` requests: the counter is `n % 255 + 1`, and the `k`-th request's bytes
carry its own transaction or, when it has none, `k % 255 + 1`. -/
def TransactionIds (s : MasterState TcpApplicationLayer) : Prop :=
  s.layer.transactionId = s.requests.length % 255 + 1 ∧
    ∀ (k : Nat) (r : WaitRequest) (bytes : List Nat), s.requests[k]? = some (r, bytes) →
      readUInt16BE bytes 0 = r.adu.transaction.getD (k % 255 + 1)

/-- `(id + 1) % 256 || 1` runs through 1..255 and starts again. -/
theorem nextTransactionId_mod (n : Nat) :
    TcpApplicationLayer.nextTransactionId (n % 255 + 1) = (n + 1) % 255 + 1 := by
  unfold TcpApplicationLayer.nextTransactionId
  split <;> omega

/-- A burst leaves the MBAP counter alone. -/
theorem transactionId_handleData (bytes : List Nat) (layer : TcpApplicationLayer) :
    (TcpApplicationLayer.handleData bytes layer).1.transactionId = layer.transactionId := by
  unfold TcpApplicationLayer.handleData; split <;> rfl

theorem transactionIds_step {s s' : MasterState TcpApplicationLayer} {e : MasterEvent}
    (hs : TransactionIds s) (h : s.step TcpApplicationLayer.layer e = some s') : TransactionIds s' := by
  cases e with
  | request r =>
    obtain ⟨-, bytes, layer, henc, rfl⟩ := step_request_some h
    have hid : readUInt16BE bytes 0 = r.adu.transaction.getD s.layer.transactionId := by
      simpa [TcpApplicationLayer.decode] using
        congrArg (fun f : Frame => f.transaction) (TcpApplicationLayer.decode_of_encode henc)
    refine ⟨?_, fun k r' bytes' hk => ?_⟩
    · show layer.transactionId = _
      rw [TcpApplicationLayer.encode_transactionId henc, hs.1, nextTransactionId_mod,
        List.length_append, List.length_singleton]
    · rcases Nat.lt_or_ge k s.requests.length with hlt | hge
      · rw [List.getElem?_append_left hlt] at hk
        exact hs.2 k r' bytes' hk
      · rw [List.getElem?_append_right hge] at hk
        have hk0 : k = s.requests.length := by
          have := (List.getElem?_eq_some_iff.mp hk).1
          simp only [List.length_singleton] at this
          omega
        subst hk0
        simp only [Nat.sub_self, List.getElem?_cons_zero, Option.some.injEq, Prod.mk.injEq] at hk
        obtain ⟨rfl, rfl⟩ := hk
        rw [hid, hs.1]
  | writeCompletes =>
    obtain ⟨-, r, bytes, -, ⟨-, rfl⟩ | ⟨-, rfl⟩⟩ := step_writeCompletes_some h <;> exact hs
  | writeFails e =>
    obtain ⟨-, rfl⟩ := step_writeFails_some h
    exact hs
  | timeout =>
    obtain ⟨-, rfl⟩ := step_timeout_some h
    exact hs
  | data bytes =>
    rw [step_data_some h]
    obtain ⟨hlayer, hreq⟩ := deliver_layer_requests
      { s with layer := (TcpApplicationLayer.layer.handleData bytes s.layer).1 }
      (TcpApplicationLayer.layer.handleData bytes s.layer).2
    refine ⟨?_, ?_⟩
    · rw [hlayer, hreq]
      exact (transactionId_handleData bytes s.layer).trans hs.1
    · rw [hreq]; exact hs.2
  | layerTimer => exact absurd (step_layerTimer_some h).1 Bool.false_ne_true

/-- Over MBAP, the `k`-th request (from `0`) a new client sends, on every run, carries the
caller's transaction if it gave one and `k % 255 + 1` otherwise: the ids run through 1..255 and
start again, never `0`, so no two of 255 consecutive requests share one. -/
theorem run_transactionIds {events : List MasterEvent} {s : MasterState TcpApplicationLayer}
    (h : ({ layer := {} } : MasterState TcpApplicationLayer).run TcpApplicationLayer.layer events = some s) :
    ∀ (k : Nat) (r : WaitRequest) (bytes : List Nat), s.requests[k]? = some (r, bytes) →
      readUInt16BE bytes 0 = r.adu.transaction.getD (k % 255 + 1) := by
  suffices ∀ (events : List MasterEvent) (s₀ : MasterState TcpApplicationLayer), TransactionIds s₀ →
      s₀.run TcpApplicationLayer.layer events = some s → TransactionIds s from
    (this events _ ⟨rfl, fun _ _ _ hk => absurd hk (by simp)⟩ h).2
  intro events
  induction events with
  | nil => intro s₀ hs₀ h; cases h; exact hs₀
  | cons e rest ih =>
    intro s₀ hs₀ h
    simp only [run, Option.bind_eq_some] at h
    obtain ⟨s₁, h₁, h₂⟩ := h
    exact ih s₁ (transactionIds_step hs₀ h₁) h₂

/-- Over MBAP, a unicast request whose wait times out brings an idle client back to idle with
its counter within 16 bits, so any number of such rounds runs. -/
theorem run_timedOut {r : WaitRequest} (hbc : r.broadcast = false) (hv : r.adu.Valid) :
    ∀ (n : Nat) (s : MasterState TcpApplicationLayer), s.phase = .idle → s.layer.transactionId < 65536 →
      ∃ s', s.run TcpApplicationLayer.layer
        (List.replicate n [.request r, .writeCompletes, .timeout]).flatten = some s'
  | 0, s, _, _ => ⟨s, rfl⟩
  | n + 1, s, hp, ht => by
    obtain ⟨bytes, layer', henc⟩ := TcpApplicationLayer.encode_isSome hv ht
    have hnext : layer'.transactionId < 65536 := by
      rw [TcpApplicationLayer.encode_transactionId henc]
      exact (TcpApplicationLayer.nextTransactionId_pos_lt _).2.trans (by decide)
    obtain ⟨s', hs'⟩ := run_timedOut hbc hv n
      { layer := { layer' with waitingResponse := none }, requests := s.requests ++ [(r, bytes)],
        phase := .idle, timer := false,
        settlements := s.settlements ++ [⟨s.requests.length, .timeout, .rejected timeoutError⟩] } rfl hnext
    refine ⟨s', ?_⟩
    simpa [run, step, hp, henc, hbc, current, settle, TcpApplicationLayer.layer,
      TcpApplicationLayer.startWaitingResponse, TcpApplicationLayer.stopWaitingResponse] using hs'

/-- `run_transactionIds` over 256 requests that each time out: the ids run through 1..255 and
the 256th request carries `1` again. -/
theorem run_transactionIds_wrap :
    ∃ s, ({ layer := {} } : MasterState TcpApplicationLayer).run TcpApplicationLayer.layer
        (List.replicate 256 [.request ⟨{ unit := 1, fc := 3, data := [] }, false, []⟩, .writeCompletes,
          .timeout]).flatten = some s ∧
      ∀ (k : Nat) (r : WaitRequest) (bytes : List Nat), s.requests[k]? = some (r, bytes) →
        readUInt16BE bytes 0 = r.adu.transaction.getD (k % 255 + 1) := by
  obtain ⟨s, hs⟩ := run_timedOut (r := ⟨{ unit := 1, fc := 3, data := [] }, false, []⟩) rfl
    ⟨by decide, by decide, by simp [AllBytes], by decide, nofun⟩ 256 { layer := {} } rfl (by decide)
  exact ⟨s, hs, run_transactionIds hs⟩

end MasterState

end NjsModbus
