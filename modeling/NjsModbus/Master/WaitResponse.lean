import NjsModbus.Layers.Abstract

/-!
# `ModbusMaster.waitResponse`: the client's runs

`waitResponse` writes the encoded request; once the write completes it resolves a broadcast at
once, and for a unicast request arms the timeout `tid` and registers the pre-checks and a wait
callback on the application layer. The callback clears `tid`, stops the wait and resolves or
rejects; the timeout stops the wait and rejects with `Timeout`; a failed write rejects.

The client is a state machine over any `AbstractApplicationLayer`: `MasterState` holds the layer,
the requests issued so far (the last one is current), the phase of the current one, whether its
`tid` is armed, and the log of every settling action taken, with the request it settles and the
path that took it. Events are a new request (allowed only when none is pending: callers issue
them one at a time), the write completing or failing, the timeout firing, a burst arriving and
the layer's own timer firing.

`reachable_inv` proves the invariant `Inv` along every run from the five `Lawful` facts alone,
and `clientDiscipline` reads the client's guarantees off it.
-/

namespace NjsModbus

/-- What `waitResponse` is given: the ADU the method encodes, whether the request is a broadcast
(`unit === 0`), and the response pre-checks. -/
structure WaitRequest where
  adu : ApplicationDataUnit
  broadcast : Bool
  preCheck : List PreCheck

/-- The path that settled a request. -/
inductive Cause where
  | write
  | timeout
  | callback
  deriving DecidableEq, Repr

/-- How a request settled. -/
inductive Outcome where
  | resolved (frame : Option Frame)
  | rejected (error : Error)
  deriving DecidableEq, Repr

/-- One settling action: a `resolve` or `reject` of a request's promise. -/
structure Settlement where
  request : Nat
  cause : Cause
  outcome : Outcome
  deriving DecidableEq, Repr

/-- The phase of the current request. -/
inductive Phase where
  /-- No request pending: none issued yet, or the last one settled. -/
  | idle
  | writing
  | waiting
  deriving DecidableEq, Repr

/-- A client over an application layer with state `σ`. -/
structure MasterState (σ : Type) where
  layer : σ
  /-- The requests issued so far with the bytes each was encoded to; the last is current. -/
  requests : List (WaitRequest × List Nat) := []
  phase : Phase := .idle
  /-- The current request's `tid` is armed. -/
  timer : Bool := false
  settlements : List Settlement := []

/-- What can happen to a client. -/
inductive MasterEvent where
  | request (r : WaitRequest)
  | writeCompletes
  | writeFails (error : Error)
  | timeout
  | data (bytes : List Nat)
  | layerTimer

namespace MasterState

variable {σ : Type} (L : AbstractApplicationLayer σ)

/-- The number of the current request. -/
def current (s : MasterState σ) : Nat := s.requests.length - 1

/-- How many settling actions request `k` has seen. -/
def settledCount (s : MasterState σ) (k : Nat) : Nat := s.settlements.countP (·.request = k)

/-- The promise outcome a wait-callback argument gives. -/
def outcomeOf : Except Error Frame → Outcome
  | .ok f => .resolved (some f)
  | .error e => .rejected e

/-- The current request settles by `cause`. -/
def settle (s : MasterState σ) (cause : Cause) (outcome : Outcome) : MasterState σ :=
  { s with phase := .idle, settlements := s.settlements ++ [⟨s.current, cause, outcome⟩] }

/-- Request `k`'s wait callback runs with `r`: it clears `k`'s `tid` and settles `k`. -/
def callback (s : MasterState σ) (k : Nat) (r : Except Error Frame) : MasterState σ :=
  if k = s.current then { s.settle .callback (outcomeOf r) with timer := false }
  else { s with settlements := s.settlements ++ [⟨k, .callback, outcomeOf r⟩] }

/-- A layer's events reach the client: every wait-callback invocation, in order. -/
def deliver (s : MasterState σ) (events : List LayerEvent) : MasterState σ :=
  (LayerEvent.callbacks events).foldl (fun s c => s.callback c.1 c.2) s

/-- One event; `none` where it cannot happen in that state. -/
def step (s : MasterState σ) : MasterEvent → Option (MasterState σ)
  | .request r =>
    if s.phase = .idle then
      (L.encode r.adu s.layer).map fun (bytes, layer) =>
        { s with layer, requests := s.requests ++ [(r, bytes)], phase := .writing }
    else none
  | .writeCompletes =>
    match s.phase, s.requests.getLast? with
    | .writing, some (r, _) =>
      if r.broadcast then some (s.settle .write (.resolved none))
      else some { s with layer := L.startWaitingResponse r.preCheck s.current s.layer,
                         timer := true, phase := .waiting }
    | _, _ => none
  | .writeFails e => if s.phase = .writing then some (s.settle .write (.rejected e)) else none
  | .timeout =>
    if s.timer then
      some { s.settle .timeout (.rejected timeoutError) with
        layer := L.stopWaitingResponse s.layer, timer := false }
    else none
  | .data bytes => some ({ s with layer := (L.handleData bytes s.layer).1 }.deliver
      (L.handleData bytes s.layer).2)
  | .layerTimer =>
    if L.timerArmed s.layer then
      some ({ s with layer := (L.timerFires s.layer).1 }.deliver (L.timerFires s.layer).2)
    else none

/-- The states a client reaches from a fresh one whose layer has no wait registered. -/
inductive Reachable : MasterState σ → Prop
  | init (layer : σ) : L.waitingResponse layer = none → Reachable { layer }
  | step {s s' : MasterState σ} (e : MasterEvent) : Reachable s → s.step L e = some s' → Reachable s'

/-- A run of events; `none` where one of them cannot happen. -/
def run (s : MasterState σ) : List MasterEvent → Option (MasterState σ)
  | [] => some s
  | e :: rest => (s.step L e).bind fun s' => run s' rest

/-! ## Small lemmas -/

variable {L}

@[simp] theorem settledCount_append (s : MasterState σ) (st : Settlement) (k : Nat) :
    ({ s with settlements := s.settlements ++ [st] } : MasterState σ).settledCount k =
      s.settledCount k + if st.request = k then 1 else 0 := by
  simp [settledCount, List.countP_append, List.countP_cons]

theorem deliver_nil {s : MasterState σ} {events : List LayerEvent}
    (h : LayerEvent.callbacks events = []) : s.deliver events = s := by
  simp [deliver, h]

theorem deliver_single {s : MasterState σ} {events : List LayerEvent} {k : Nat}
    {r : Except Error Frame} (h : LayerEvent.callbacks events = [(k, r)]) :
    s.deliver events = s.callback k r := by
  simp [deliver, h]

theorem callback_of_eq {s : MasterState σ} {k : Nat} (h : k = s.current) (r : Except Error Frame) :
    s.callback k r = { s.settle .callback (outcomeOf r) with timer := false } := by
  simp [callback, h]

theorem ne_nil_of_getLast? {l : List (WaitRequest × List Nat)} {a : WaitRequest × List Nat}
    (h : l.getLast? = some a) : l ≠ [] := by
  rintro rfl; cases h

/-- A first request issues its encoding and waits for the write. -/
theorem step_request_init (layer : σ) (r : WaitRequest) :
    ({ layer } : MasterState σ).step L (.request r) =
      (L.encode r.adu layer).map fun (bytes, layer') =>
        { layer := layer', requests := [(r, bytes)], phase := .writing } := by
  simp [step]

/-- The first request's write completes: a unicast request starts its wait. -/
theorem step_writeCompletes_first {layer : σ} {r : WaitRequest} {bytes : List Nat}
    (hbc : r.broadcast = false) :
    ({ layer, requests := [(r, bytes)], phase := .writing } : MasterState σ).step L .writeCompletes =
      some
        { layer := L.startWaitingResponse r.preCheck 0 layer, requests := [(r, bytes)],
          phase := .waiting, timer := true } := by
  simp [step, hbc, current]

/-- A burst that invokes the first request's wait callback settles the request with what the
callback received. -/
theorem step_data_first {layer : σ} (r : WaitRequest) (bytes : List Nat) {reply : List Nat}
    {res : Except Error Frame} (h : LayerEvent.callbacks (L.handleData reply layer).2 = [(0, res)]) :
    ({ layer, requests := [(r, bytes)], phase := .waiting, timer := true } : MasterState σ).step L
      (.data reply) =
      some
        { layer := (L.handleData reply layer).1, requests := [(r, bytes)], phase := .idle,
          settlements := [⟨0, .callback, outcomeOf res⟩] } := by
  simp [step, deliver_single h, callback, settle, current]

theorem settledCount_settle (s : MasterState σ) (cause : Cause) (outcome : Outcome) :
    (s.settle cause outcome).settledCount s.current = s.settledCount s.current + 1 := by
  simp [settle, settledCount, List.countP_append, List.countP_cons]

theorem settledCount_eq_zero {s : MasterState σ} {k : Nat}
    (h : ∀ st ∈ s.settlements, st.request < k) : s.settledCount k = 0 := by
  simp only [settledCount, List.countP_eq_zero, decide_eq_true_eq]
  exact fun st hst heq => absurd (h st hst) (by omega)

/-! ## What each event does -/

theorem step_request_some {s s' : MasterState σ} {r : WaitRequest}
    (h : s.step L (.request r) = some s') :
    s.phase = .idle ∧ ∃ bytes layer, L.encode r.adu s.layer = some (bytes, layer) ∧
      s' = { s with layer, requests := s.requests ++ [(r, bytes)], phase := .writing } := by
  simp only [step] at h
  split at h
  · obtain ⟨⟨bytes, layer⟩, henc, rfl⟩ := Option.map_eq_some'.mp h
    exact ⟨‹_›, bytes, layer, henc, rfl⟩
  · cases h

theorem step_writeCompletes_some {s s' : MasterState σ} (h : s.step L .writeCompletes = some s') :
    s.phase = .writing ∧ ∃ r bytes, s.requests.getLast? = some (r, bytes) ∧
      (r.broadcast = true ∧ s' = s.settle .write (.resolved none) ∨
        r.broadcast = false ∧ s' =
          { s with layer := L.startWaitingResponse r.preCheck s.current s.layer,
                   timer := true, phase := .waiting }) := by
  simp only [step] at h
  split at h
  · rename_i r bytes hphase hlast
    refine ⟨hphase, r, bytes, hlast, ?_⟩
    split at h <;> cases h <;> simp_all
  · cases h

theorem step_writeFails_some {s s' : MasterState σ} {e : Error} (h : s.step L (.writeFails e) = some s') :
    s.phase = .writing ∧ s' = s.settle .write (.rejected e) := by
  simp only [step] at h
  split at h
  · exact ⟨‹_›, (Option.some.inj h).symm⟩
  · cases h

theorem step_timeout_some {s s' : MasterState σ} (h : s.step L .timeout = some s') :
    s.timer = true ∧ s' = { s.settle .timeout (.rejected timeoutError) with
      layer := L.stopWaitingResponse s.layer, timer := false } := by
  simp only [step] at h
  split at h
  · exact ⟨‹_›, (Option.some.inj h).symm⟩
  · cases h

theorem step_data_some {s s' : MasterState σ} {bytes : List Nat} (h : s.step L (.data bytes) = some s') :
    s' = { s with layer := (L.handleData bytes s.layer).1 }.deliver (L.handleData bytes s.layer).2 :=
  (Option.some.inj h).symm

theorem step_layerTimer_some {s s' : MasterState σ} (h : s.step L .layerTimer = some s') :
    L.timerArmed s.layer = true ∧
      s' = { s with layer := (L.timerFires s.layer).1 }.deliver (L.timerFires s.layer).2 := by
  simp only [step] at h
  split at h
  · exact ⟨‹_›, (Option.some.inj h).symm⟩
  · cases h

/-- A burst or the layer's timer that invokes the current request's callback settles it. -/
theorem deliver_current {s : MasterState σ} {layer' : σ} {events : List LayerEvent}
    {res : Except Error Frame} (h : LayerEvent.callbacks events = [(s.current, res)]) :
    { s with layer := layer' }.deliver events =
      { ({ s with layer := layer' } : MasterState σ).settle .callback (outcomeOf res) with
        timer := false } :=
  (deliver_single h).trans (callback_of_eq rfl res)

/-! ## The invariant -/

/-- What holds of the current request in each phase. -/
def PhaseInv (L : AbstractApplicationLayer σ) (s : MasterState σ) : Prop :=
  match s.phase with
  | .idle => (s.requests = [] ∨ s.settledCount s.current = 1) ∧
      L.waitingResponse s.layer = none ∧ s.timer = false
  | .writing => s.requests ≠ [] ∧ s.settledCount s.current = 0 ∧
      L.waitingResponse s.layer = none ∧ s.timer = false
  | .waiting => ∃ r bytes, s.requests.getLast? = some (r, bytes) ∧ r.broadcast = false ∧
      s.settledCount s.current = 0 ∧ L.waitingResponse s.layer = some ⟨r.preCheck, s.current⟩ ∧
      s.timer = true ∧ L.timerArmed s.layer = false

/-- The client invariant: settlements name issued requests, every earlier request has settled
exactly once, and the current one is as its phase says. -/
structure Inv (L : AbstractApplicationLayer σ) (s : MasterState σ) : Prop where
  bounded : ∀ st ∈ s.settlements, st.request < s.requests.length
  earlier : ∀ k, k + 1 < s.requests.length → s.settledCount k = 1
  phase : PhaseInv L s

/-! ## Every event keeps the invariant -/

section Lawful

variable (hL : L.Lawful)
include hL

omit hL in
theorem inv_init (layer : σ) (h : L.waitingResponse layer = none) :
    Inv L ({ layer } : MasterState σ) :=
  ⟨by simp, by simp, ⟨.inl rfl, h, rfl⟩⟩

omit hL in
/-- Settling the current request, which had not settled, with the wait stopped and `tid`
cleared, leads to an idle state that keeps the invariant. -/
theorem inv_settle {s s' : MasterState σ} (hs : Inv L s) (hne : s.requests ≠ [])
    (hzero : s.settledCount s.current = 0) {cause : Cause} {outcome : Outcome}
    (hset : s'.settlements = s.settlements ++ [⟨s.current, cause, outcome⟩])
    (hreq : s'.requests = s.requests) (hphase : s'.phase = .idle) (htimer : s'.timer = false)
    (hslot : L.waitingResponse s'.layer = none) : Inv L s' := by
  have hpos : 0 < s.requests.length := List.length_pos.mpr hne
  have hcount : ∀ k, s'.settledCount k = s.settledCount k + if s.current = k then 1 else 0 := by
    intro k; simp [settledCount, hset, List.countP_append, List.countP_cons]
  refine ⟨fun st hst => ?_, fun k hk => ?_, ?_⟩
  · rw [hset, List.mem_append, List.mem_singleton] at hst
    rcases hst with hst | rfl
    · exact hreq ▸ hs.bounded st hst
    · simp only [hreq, current]; omega
  · rw [hreq] at hk
    rw [hcount, hs.earlier k hk, if_neg (by simp only [current]; omega)]
  · simp only [PhaseInv, hphase]
    refine ⟨.inr ?_, hslot, htimer⟩
    rw [hcount, show s'.current = s.current by simp [current, hreq], hzero, if_pos rfl]

theorem inv_request {s s' : MasterState σ} {r : WaitRequest} (hs : Inv L s)
    (h : s.step L (.request r) = some s') : Inv L s' := by
  obtain ⟨hidle, bytes, layer, henc, rfl⟩ := step_request_some h
  have hp := hs.phase
  simp only [PhaseInv, hidle] at hp
  obtain ⟨hreq, hslot, htimer⟩ := hp
  obtain ⟨hslot', -⟩ := hL.encode_slot _ _ _ _ henc
  refine ⟨fun st hst => ?_, fun k hk => ?_, ?_⟩
  · have := hs.bounded st hst; simp only [List.length_append]; omega
  · simp only [List.length_append, List.length_singleton] at hk
    rcases Nat.lt_or_ge (k + 1) s.requests.length with hk' | hk'
    · exact hs.earlier k hk'
    · rcases hreq with hnil | hone
      · simp [hnil] at hk
      · have hk'' : k = s.current := by simp only [current]; omega
        exact hk'' ▸ hone
  · simp only [PhaseInv]
    refine ⟨by simp, settledCount_eq_zero fun st hst => ?_, hslot'.trans hslot, htimer⟩
    have := hs.bounded st hst
    simp only [current, List.length_append, List.length_singleton]; omega

theorem inv_writeCompletes {s s' : MasterState σ} (hs : Inv L s)
    (h : s.step L .writeCompletes = some s') : Inv L s' := by
  obtain ⟨hphase, r, bytes, hlast, hnext⟩ := step_writeCompletes_some h
  have hp := hs.phase
  simp only [PhaseInv, hphase] at hp
  obtain ⟨hne, hzero, hslot, htimer⟩ := hp
  rcases hnext with ⟨-, rfl⟩ | ⟨hbc, rfl⟩
  · exact inv_settle hs hne hzero rfl rfl rfl htimer hslot
  · refine ⟨hs.bounded, hs.earlier, ?_⟩
    simp only [PhaseInv]
    exact ⟨r, bytes, hlast, hbc, hzero, hL.waitingResponse_start .., trivial, hL.timerArmed_start ..⟩

omit hL in
theorem inv_writeFails {s s' : MasterState σ} {e : Error} (hs : Inv L s)
    (h : s.step L (.writeFails e) = some s') : Inv L s' := by
  obtain ⟨hphase, rfl⟩ := step_writeFails_some h
  have hp := hs.phase
  simp only [PhaseInv, hphase] at hp
  exact inv_settle hs hp.1 hp.2.1 rfl rfl rfl hp.2.2.2 hp.2.2.1

omit hL in
/-- Only a waiting request has its `tid` armed. -/
theorem phase_of_timer {s : MasterState σ} (hs : Inv L s) (h : s.timer = true) :
    s.phase = .waiting := by
  have hp := hs.phase
  unfold PhaseInv at hp
  split at hp
  · simp_all
  · simp_all
  · assumption

omit hL in
/-- A registered wait is the current request's, a unicast one, with its pre-checks. -/
theorem slot_request {s : MasterState σ} (hs : Inv L s) {w : WaitingResponse}
    (h : L.waitingResponse s.layer = some w) :
    ∃ r bytes, s.requests.getLast? = some (r, bytes) ∧ r.broadcast = false ∧
      w = ⟨r.preCheck, s.current⟩ := by
  have hp := hs.phase
  unfold PhaseInv at hp
  split at hp
  · simp_all
  · simp_all
  · obtain ⟨r, bytes, hlast, hbc, -, hslot, -⟩ := hp
    exact ⟨r, bytes, hlast, hbc, Option.some.inj (h.symm.trans hslot)⟩

omit hL in
/-- While the layer's own timer is armed no wait is registered. -/
theorem slot_none_of_armed {s : MasterState σ} (hs : Inv L s) (h : L.timerArmed s.layer = true) :
    L.waitingResponse s.layer = none := by
  have hp := hs.phase
  unfold PhaseInv at hp
  split at hp <;> simp_all

theorem inv_timeout {s s' : MasterState σ} (hs : Inv L s)
    (h : s.step L .timeout = some s') : Inv L s' := by
  obtain ⟨htimer, rfl⟩ := step_timeout_some h
  have hp := hs.phase
  simp only [PhaseInv, phase_of_timer hs htimer] at hp
  obtain ⟨r, bytes, hlast, -, hzero, -, -, -⟩ := hp
  exact inv_settle hs (ne_nil_of_getLast? hlast) hzero rfl rfl rfl rfl (hL.waitingResponse_stop _)

omit hL in
/-- A burst or the layer's timer: the layer moves to `layer'` with `events`, as `Lawful` allows
for its slot. -/
theorem inv_layerStep {s : MasterState σ} {layer' : σ} {events : List LayerEvent} (hs : Inv L s)
    (hidle : L.waitingResponse s.layer = none →
      LayerEvent.callbacks events = [] ∧ L.waitingResponse layer' = none)
    (hwait : ∀ w, L.waitingResponse s.layer = some w →
      (LayerEvent.callbacks events = [] ∧ L.waitingResponse layer' = some w ∧
        L.timerArmed layer' = L.timerArmed s.layer) ∨
      ∃ res, LayerEvent.callbacks events = [(w.callback, res)] ∧ L.waitingResponse layer' = none) :
    Inv L ({ s with layer := layer' }.deliver events) := by
  have hp := hs.phase
  unfold PhaseInv at hp
  split at hp
  · rename_i hphase
    obtain ⟨hcb, hslot'⟩ := hidle hp.2.1
    rw [deliver_nil hcb]
    exact ⟨hs.bounded, hs.earlier, by simp only [PhaseInv, hphase]; exact ⟨hp.1, hslot', hp.2.2⟩⟩
  · rename_i hphase
    obtain ⟨hcb, hslot'⟩ := hidle hp.2.2.1
    rw [deliver_nil hcb]
    exact ⟨hs.bounded, hs.earlier, by
      simp only [PhaseInv, hphase]; exact ⟨hp.1, hp.2.1, hslot', hp.2.2.2⟩⟩
  · rename_i hphase
    obtain ⟨r, bytes, hlast, hbc, hzero, hslot, htimer, harmed⟩ := hp
    rcases hwait _ hslot with ⟨hcb, hslot', harmed'⟩ | ⟨res, hcb, hslot'⟩
    · rw [deliver_nil hcb]
      exact ⟨hs.bounded, hs.earlier, by
        simp only [PhaseInv, hphase]
        exact ⟨r, bytes, hlast, hbc, hzero, hslot', htimer, harmed'.trans harmed⟩⟩
    · rw [deliver_current hcb]
      exact inv_settle hs (ne_nil_of_getLast? hlast) hzero rfl rfl rfl rfl hslot'

theorem inv_data {s s' : MasterState σ} {bytes : List Nat} (hs : Inv L s)
    (h : s.step L (.data bytes) = some s') : Inv L s' := by
  rw [step_data_some h]
  exact inv_layerStep hs (hL.handleData_idle _ _)
    fun w hw => (hL.handleData_waiting _ _ w hw).imp id fun ⟨res, hcb, hslot, _⟩ => ⟨res, hcb, hslot⟩

theorem inv_layerTimer {s s' : MasterState σ} (hs : Inv L s)
    (h : s.step L .layerTimer = some s') : Inv L s' := by
  obtain ⟨harmed, rfl⟩ := step_layerTimer_some h
  exact inv_layerStep hs (hL.timerFires_idle _) fun w hw => by
    simp [slot_none_of_armed hs harmed] at hw

theorem step_inv {s s' : MasterState σ} {e : MasterEvent} (hs : Inv L s)
    (h : s.step L e = some s') : Inv L s' := by
  cases e with
  | request r => exact inv_request hL hs h
  | writeCompletes => exact inv_writeCompletes hL hs h
  | writeFails e => exact inv_writeFails hs h
  | timeout => exact inv_timeout hL hs h
  | data bytes => exact inv_data hL hs h
  | layerTimer => exact inv_layerTimer hL hs h

/-- Every reachable client state satisfies the invariant. -/
theorem reachable_inv {s : MasterState σ} (h : Reachable L s) : Inv L s := by
  induction h with
  | init layer hl => exact inv_init layer hl
  | step e _ hstep ih => exact step_inv hL ih hstep

end Lawful

/-- The states a run reaches from a reachable state are reachable. -/
theorem reachable_run {s s' : MasterState σ} (hs : Reachable L s) {events : List MasterEvent}
    (h : s.run L events = some s') : Reachable L s' := by
  induction events generalizing s with
  | nil => cases h; exact hs
  | cons e rest ih =>
    simp only [run, Option.bind_eq_some] at h
    obtain ⟨s1, h1, h2⟩ := h
    exact ih (.step e hs h1) h2

/-! ## What the invariant gives -/

/-- No request settles twice. -/
theorem settledCount_le_one {s : MasterState σ} (hs : Inv L s) (k : Nat) :
    s.settledCount k ≤ 1 := by
  rcases Nat.lt_or_ge (k + 1) s.requests.length with hk | hk
  · exact (hs.earlier k hk).le
  by_cases hkc : k = s.current ∧ s.requests ≠ []
  · obtain ⟨rfl, hne⟩ := hkc
    have hp := hs.phase
    unfold PhaseInv at hp
    split at hp
    · rcases hp.1 with h | h
      · exact absurd h hne
      · exact h.le
    · rw [hp.2.1]; exact Nat.zero_le 1
    · obtain ⟨_, _, _, _, h, _⟩ := hp
      rw [h]; exact Nat.zero_le 1
  · have hge : s.requests.length ≤ k := by
      by_cases hne : s.requests = []
      · simp [hne]
      · have hkc' : k ≠ s.requests.length - 1 := fun h => hkc ⟨h, hne⟩
        have := List.length_pos.mpr hne
        omega
    rw [settledCount_eq_zero fun st hst => Nat.lt_of_lt_of_le (hs.bounded st hst) hge]
    exact Nat.zero_le 1

/-- An idle client has no wait registered and no `tid` armed. -/
theorem idle_clean {s : MasterState σ} (hs : Inv L s) (h : s.phase = .idle) :
    L.waitingResponse s.layer = none ∧ s.timer = false := by
  have hp := hs.phase
  simp only [PhaseInv, h] at hp
  exact hp.2

/-- Only the current request's callback, of a unicast request, is ever registered. -/
theorem slot_current {s : MasterState σ} (hs : Inv L s) {w : WaitingResponse}
    (h : L.waitingResponse s.layer = some w) :
    w.callback = s.current ∧ ∃ r bytes, s.requests.getLast? = some (r, bytes) ∧ r.broadcast = false := by
  obtain ⟨r, bytes, hlast, hbc, rfl⟩ := slot_request hs h
  exact ⟨rfl, r, bytes, hlast, hbc⟩

/-- A waiting request has its timeout armed, and the timeout settles it. -/
theorem waiting_timeout {s : MasterState σ} (hs : Inv L s) (h : s.phase = .waiting) :
    s.timer = true ∧ ∃ s', s.step L .timeout = some s' ∧ s'.settledCount s.current = 1 ∧
      s'.phase = .idle := by
  have hp := hs.phase
  simp only [PhaseInv, h] at hp
  obtain ⟨r, bytes, hlast, -, hzero, -, htimer, -⟩ := hp
  refine ⟨htimer, { s.settle .timeout (.rejected timeoutError) with
    layer := L.stopWaitingResponse s.layer, timer := false }, by simp [step, htimer], ?_, rfl⟩
  exact (settledCount_settle s _ _).trans (by rw [hzero])

/-- A write in flight settles the request if it fails, and if it completes it either settles
it (a broadcast) or starts the wait. -/
theorem writing_next {s : MasterState σ} (hs : Inv L s) (h : s.phase = .writing) :
    (∀ e, ∃ s', s.step L (.writeFails e) = some s' ∧ s'.settledCount s.current = 1) ∧
    ∃ s', s.step L .writeCompletes = some s' ∧
      (s'.phase = .waiting ∨ s'.settledCount s.current = 1) := by
  have hp := hs.phase
  simp only [PhaseInv, h] at hp
  obtain ⟨hne, hzero, -, -⟩ := hp
  obtain ⟨⟨r, bytes⟩, hlast⟩ : ∃ a, s.requests.getLast? = some a :=
    Option.isSome_iff_exists.mp (List.getLast?_isSome.mpr hne)
  refine ⟨fun e => ⟨s.settle .write (.rejected e), by simp [step, h], ?_⟩, ?_⟩
  · rw [settledCount_settle, hzero]
  · by_cases hb : r.broadcast
    · exact ⟨s.settle .write (.resolved none), by simp [step, h, hlast, hb],
        .inr (by rw [settledCount_settle, hzero])⟩
    · refine ⟨{ s with layer := L.startWaitingResponse r.preCheck s.current s.layer,
                       timer := true, phase := .waiting }, ?_, .inl rfl⟩
      simp [step, h, hlast, hb]

end MasterState

open MasterState in
/-- What a client over `L` guarantees on every run. No request settles twice (so the timeout
and the wait callback are never both taken, and the callback never runs twice); every request
before the current one has settled; a write in flight settles the request when it fails and,
when it completes, settles a broadcast or starts the wait; a waiting request has its timeout
armed, and the timeout settles it; once the current request has settled the wait is stopped
and its `tid` cleared; and only the current request, never a broadcast, fills the slot. -/
def ClientDiscipline {σ : Type} (L : AbstractApplicationLayer σ) : Prop :=
  ∀ s : MasterState σ, Reachable L s →
    (∀ k, s.settledCount k ≤ 1) ∧
    (∀ k, k + 1 < s.requests.length → s.settledCount k = 1) ∧
    (s.phase = .writing →
      (∀ e, ∃ s', s.step L (.writeFails e) = some s' ∧ s'.settledCount s.current = 1) ∧
      ∃ s', s.step L .writeCompletes = some s' ∧
        (s'.phase = .waiting ∨ s'.settledCount s.current = 1)) ∧
    (s.phase = .waiting → s.timer = true ∧
      ∃ s', s.step L .timeout = some s' ∧ s'.settledCount s.current = 1 ∧ s'.phase = .idle) ∧
    (s.phase = .idle → L.waitingResponse s.layer = none ∧ s.timer = false) ∧
    (∀ w, L.waitingResponse s.layer = some w →
      w.callback = s.current ∧ ∃ r bytes, s.requests.getLast? = some (r, bytes) ∧ r.broadcast = false)

/-- A lawful layer gives the client its discipline. -/
theorem clientDiscipline {σ : Type} {L : AbstractApplicationLayer σ} (hL : L.Lawful) :
    ClientDiscipline L := fun _ hr =>
  have hs := MasterState.reachable_inv hL hr
  ⟨MasterState.settledCount_le_one hs, hs.earlier, MasterState.writing_next hs,
    MasterState.waiting_timeout hs, MasterState.idle_clean hs, fun _ => MasterState.slot_current hs⟩

end NjsModbus
