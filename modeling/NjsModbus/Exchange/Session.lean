import NjsModbus.Exchange.Requests
import NjsModbus.Master.Responses

/-!
# A session: request after request over one wire

`exchange` runs one request from a new client to a new server layer. A client and a server that
stay up keep their layers from one request to the next: the client's MBAP counter, the ASCII
scanner's state, the RTU buffer and timer. A `Session` holds the client, the server's layer and
every call the server's models received; `Session.request` runs one request from it the way
`exchange` runs it from new layers (`exchange_eq`).

`Session.Quiet` is what holds between two answered requests: the client idle with its `tid`
cleared, and neither layer holding anything of an earlier frame that a new one could join (RTU
layers as new, ASCII and MBAP layers with no wait registered, the client's MBAP counter within
16 bits). `Replies` bundles what makes the server answer a request with one reply of a given
code and data; `Serves`, the same with the request's own code, adds that the client
accepts it.

* `request_settles`: from a quiet session, a request the server answers with one reply settles
  only itself, by its wait callback, with what the client's pre-checks make of the reply's
  frame, and leaves the session quiet; `request_resolves` is the case of a reply they accept;
* `request_exception_rejected`: an exception response to any request of the client's methods
  is rejected with "Invalid response": the client never resolves on it and never hands its code
  to the caller;
* `requests_resolve`: over any list of served requests, each resolves in turn with its own reply
  and the models receive the calls of each in order: no reply is lost, duplicated or given to
  another request;
* `resolved_ownTransaction`: a request resolves only with a frame that passes its own
  pre-checks, on every run of a client over a lawful layer; over MBAP, in a session, each request
  resolves with a frame that carries the transaction its own bytes carry, since the server
  echoes the request's. The late response of `readHoldingRegisters_stale` shows that the
  pre-checks alone do not ensure it.
-/

namespace NjsModbus

namespace Variant

/-- The server's layer on one burst: its state after it and the frames it emits (an RTU layer
on a serial line frames when its 3.5T timer fires after the burst). -/
def serverReceive : (v : Variant) → List Nat → v.State → v.State × List Frame
  | .rtu t, bytes, s =>
    ((RtuApplicationLayer.receive t bytes s).1,
      LayerEvent.framings (RtuApplicationLayer.receive t bytes s).2)
  | .ascii, bytes, s =>
    ((AsciiApplicationLayer.handleData bytes s).1,
      LayerEvent.framings (AsciiApplicationLayer.handleData bytes s).2)
  | .tcp, bytes, s =>
    ((TcpApplicationLayer.handleData bytes s).1,
      LayerEvent.framings (TcpApplicationLayer.handleData bytes s).2)

theorem serverFrames_eq (v : Variant) (bytes : List Nat) :
    v.serverFrames bytes = (v.serverReceive bytes v.fresh).2 := by
  cases v <;> rfl

/-- The transaction a framer reads off a buffer: the MBAP header's first field; RTU and ASCII
frames carry none. -/
def wireTransaction : Variant → List Nat → Option Nat
  | .tcp, bytes => some (readUInt16BE bytes 0)
  | _, _ => none

/-- A client's layer between requests. -/
def ClientQuiet : (v : Variant) → v.State → Prop
  | .rtu _, c => (c : RtuApplicationLayer) = {}
  | .ascii, c => AsciiApplicationLayer.waitingResponse c = none
  | .tcp, c => TcpApplicationLayer.waitingResponse c = none ∧ TcpApplicationLayer.transactionId c < 65536

/-- A server's layer between requests. -/
def ServerQuiet : (v : Variant) → v.State → Prop
  | .rtu _, s => (s : RtuApplicationLayer) = {}
  | .ascii, s => AsciiApplicationLayer.waitingResponse s = none
  | .tcp, s => TcpApplicationLayer.waitingResponse s = none

theorem clientQuiet_fresh (v : Variant) : v.ClientQuiet v.fresh := by
  cases v
  · rfl
  · rfl
  · exact ⟨rfl, by decide⟩

theorem serverQuiet_fresh (v : Variant) : v.ServerQuiet v.fresh := by
  cases v <;> rfl

/-- A waiting RTU layer that invokes its callback is left as new. -/
theorem rtu_handleData_startWaitingResponse {t : Nat} {checks : List PreCheck} {k : Nat}
    {s : RtuApplicationLayer} {reply : List Nat}
    (h : LayerEvent.callbacks (RtuApplicationLayer.handleData t reply
      (RtuApplicationLayer.startWaitingResponse checks k s)).2 ≠ []) :
    (RtuApplicationLayer.handleData t reply (RtuApplicationLayer.startWaitingResponse checks k s)).1 = {} := by
  rw [RtuApplicationLayer.handleData_of_some rfl] at h ⊢
  split at h
  · exact absurd rfl h
  · rename_i hni
    rw [if_neg hni]
    rfl

/-- A new RTU layer on the server is new again once it has framed a burst. -/
theorem rtu_receive_fresh (t : Nat) (bytes : List Nat) :
    (RtuApplicationLayer.receive t bytes {}).1 = {} := by
  unfold RtuApplicationLayer.receive
  rw [RtuApplicationLayer.handleData_of_none rfl]
  split <;> simp [RtuApplicationLayer.timerFires, RtuApplicationLayer.flush]

/-- From a quiet client layer, a valid ADU encodes; once a wait registered over the layer the
encoding leaves has its callback invoked, the layer is quiet again. -/
theorem encode_quiet (v : Variant) {adu : ApplicationDataUnit} (h : adu.Valid) {c : v.State}
    (hc : v.ClientQuiet c) :
    ∃ bytes c', v.layer.encode adu c = some (bytes, c') ∧
      ∀ (checks : List PreCheck) (k : Nat) (reply : List Nat),
        LayerEvent.callbacks (v.layer.handleData reply (v.layer.startWaitingResponse checks k c')).2 ≠ [] →
        v.ClientQuiet (v.layer.handleData reply (v.layer.startWaitingResponse checks k c')).1 := by
  have hwait : ∀ (checks : List PreCheck) (k : Nat) (c' : v.State) (reply : List Nat),
      LayerEvent.callbacks (v.layer.handleData reply (v.layer.startWaitingResponse checks k c')).2 ≠ [] →
      v.layer.waitingResponse (v.layer.handleData reply (v.layer.startWaitingResponse checks k c')).1 = none := by
    intro checks k c' reply hcb
    rcases v.layer_lawful.handleData_waiting reply _ ⟨checks, k⟩
      (v.layer_lawful.waitingResponse_start checks k c') with ⟨hnil, -⟩ | ⟨-, -, hnone, -⟩
    · exact absurd hnil hcb
    · exact hnone
  cases v with
  | rtu t =>
    obtain ⟨bytes, hb⟩ := RtuApplicationLayer.encode_isSome h
    exact ⟨bytes, c, by simp [layer, RtuApplicationLayer.layer, hb],
      fun checks k reply hcb => @rtu_handleData_startWaitingResponse t checks k c reply hcb⟩
  | ascii =>
    obtain ⟨bytes, hb⟩ : ∃ bytes, AsciiApplicationLayer.encode adu = some bytes :=
      ⟨_, AsciiApplicationLayer.encode_of_allBytes h.bytes⟩
    exact ⟨bytes, c, by simp [layer, AsciiApplicationLayer.layer, hb],
      fun checks k reply hcb => hwait checks k c reply hcb⟩
  | tcp =>
    obtain ⟨bytes, c', hb⟩ := TcpApplicationLayer.encode_isSome h hc.2
    refine ⟨bytes, c', hb, fun checks k reply hcb => ⟨hwait checks k c' reply hcb, ?_⟩⟩
    have hid : TcpApplicationLayer.transactionId
        (TcpApplicationLayer.handleData reply (TcpApplicationLayer.startWaitingResponse checks k c')).1 =
        TcpApplicationLayer.nextTransactionId (TcpApplicationLayer.transactionId c) := by
      rw [← TcpApplicationLayer.encode_transactionId hb]
      unfold TcpApplicationLayer.handleData; split <;> rfl
    show TcpApplicationLayer.transactionId
      (TcpApplicationLayer.handleData reply (TcpApplicationLayer.startWaitingResponse checks k c')).1 < 65536
    rw [hid]
    exact (TcpApplicationLayer.nextTransactionId_pos_lt _).2.trans (by decide)

/-- From a quiet server layer, the client's encoding of a valid ADU arrives as the one frame of
that ADU, with the transaction the bytes carry, and leaves the server's layer quiet. -/
theorem serverReceive_encode (v : Variant) {adu : ApplicationDataUnit} (h : adu.Valid)
    {c c' : v.State} {bytes : List Nat} (henc : v.layer.encode adu c = some (bytes, c'))
    {srv : v.State} (hs : v.ServerQuiet srv) :
    ∃ f, (v.serverReceive bytes srv).2 = [f] ∧ v.ServerQuiet (v.serverReceive bytes srv).1 ∧
      f.Carries adu ∧ f.transaction = v.wireTransaction bytes ∧ ∀ t ∈ f.transaction, t < 65536 := by
  cases v with
  | rtu t =>
    obtain ⟨bytes', hb, rfl⟩ : ∃ bytes', RtuApplicationLayer.encode adu = some bytes' ∧ bytes' = bytes := by
      simp only [layer, RtuApplicationLayer.layer, Option.map_eq_some', Prod.mk.injEq] at henc
      obtain ⟨b, hb, rfl, -⟩ := henc
      exact ⟨b, hb, rfl⟩
    have hsrv : srv = {} := hs
    subst hsrv
    refine ⟨RtuApplicationLayer.decode bytes', ?_, rtu_receive_fresh t bytes', ?_, rfl, nofun⟩
    · simp [serverReceive, RtuApplicationLayer.receive_fresh hb, LayerEvent.framings]
    · rw [RtuApplicationLayer.decode_of_encode hb]; exact ⟨rfl, rfl, rfl⟩
  | ascii =>
    have hb := h.bytes
    have hbytes : bytes = AsciiApplicationLayer.COLON :: AsciiApplicationLayer.hexBody adu ++
        [AsciiApplicationLayer.CR, AsciiApplicationLayer.LF] := by
      simp only [layer, AsciiApplicationLayer.layer, Option.map_eq_some', Prod.mk.injEq] at henc
      obtain ⟨b, hb', rfl, -⟩ := henc
      exact (AsciiApplicationLayer.encode_eq_some hb').2
    subst hbytes
    have hrecv := AsciiApplicationLayer.handleData_encoded_of_none hb (s := srv) hs
    refine ⟨AsciiApplicationLayer.decode (AsciiApplicationLayer.hexBody adu), ?_, ?_, ?_, rfl, nofun⟩
    · simp only [serverReceive, hrecv]; rfl
    · simp only [serverReceive, hrecv]; exact hs
    · rw [AsciiApplicationLayer.decode_hexBody hb]; exact ⟨rfl, rfl, rfl⟩
  | tcp =>
    refine ⟨TcpApplicationLayer.decode bytes, ?_, ?_, ?_, rfl, ?_⟩
    · simp [serverReceive, TcpApplicationLayer.handleData_of_encode henc hs, LayerEvent.framings]
    · simp only [serverReceive, TcpApplicationLayer.handleData_of_none hs]; exact hs
    · rw [TcpApplicationLayer.decode_of_encode henc]; exact ⟨rfl, rfl, rfl⟩
    · rw [TcpApplicationLayer.decode_of_encode henc]
      rintro t ⟨⟩
      exact (TcpApplicationLayer.encode_eq_some henc).1

/-- The server's encoding of a valid ADU, delivered to a waiting client, invokes the wait
callback with what the client's pre-checks make of its frame: the frame, or the error of the
first check that fails, unless that error is "Insufficient data length", on which an RTU layer
keeps waiting. The frame carries the ADU's transaction when that is one the wire carries. -/
theorem reply_settles (v : Variant) {adu : ApplicationDataUnit} (h : adu.Valid) :
    ∃ bytes f, v.serverEncode adu = some bytes ∧ f.Carries adu ∧
      (∀ b, adu.transaction = v.wireTransaction b → f.transaction = adu.transaction) ∧
      ∀ (checks : List PreCheck) (k : Nat) (s : v.State),
        v.layer.preCheck checks f ≠ some insufficientDataLength →
        LayerEvent.callbacks (v.layer.handleData bytes (v.layer.startWaitingResponse checks k s)).2 =
          [(k, match v.layer.preCheck checks f with
            | some e => .error e
            | none => .ok f)] := by
  cases v with
  | rtu t =>
    obtain ⟨bytes, hb⟩ := RtuApplicationLayer.encode_isSome h
    refine ⟨bytes, RtuApplicationLayer.decode bytes, hb, ?_, fun _ ht => ht.symm, fun checks k s hne => ?_⟩
    · rw [RtuApplicationLayer.decode_of_encode hb]; exact ⟨rfl, rfl, rfl⟩
    · simp only [layer, RtuApplicationLayer.layer] at hne ⊢
      rw [RtuApplicationLayer.handleData_of_some rfl]
      cases hpre : RtuApplicationLayer.preCheck checks (RtuApplicationLayer.decode bytes) with
      | none =>
        simp [RtuApplicationLayer.startWaitingResponse, RtuApplicationLayer.framing_of_encode hb, hpre,
          RtuApplicationLayer.isInsufficientDataLength]
      | some e =>
        have hmsg : e.message ≠ "Insufficient data length" := by
          rintro hm; apply hne; rw [hpre]; cases e; cases hm; rfl
        simp [RtuApplicationLayer.startWaitingResponse, RtuApplicationLayer.framing_of_encode hb, hpre,
          RtuApplicationLayer.isInsufficientDataLength, hmsg]
  | ascii =>
    have hb := h.bytes
    refine ⟨_, AsciiApplicationLayer.decode (AsciiApplicationLayer.hexBody adu),
      AsciiApplicationLayer.encode_of_allBytes hb, ?_, fun _ ht => ht.symm, fun checks k s _ => ?_⟩
    · rw [AsciiApplicationLayer.decode_hexBody hb]; exact ⟨rfl, rfl, rfl⟩
    · simp only [layer, AsciiApplicationLayer.layer]
      rw [AsciiApplicationLayer.handleData_encoded_of_some rfl, AsciiApplicationLayer.framing_hexBody hb]
      simp only [AsciiApplicationLayer.startWaitingResponse, Option.some_bind]
      cases AsciiApplicationLayer.preCheck checks (AsciiApplicationLayer.decode (AsciiApplicationLayer.hexBody adu)) <;>
        rfl
  | tcp =>
    obtain ⟨bytes, layer', hb⟩ := TcpApplicationLayer.encode_isSome h (s := {}) (by decide)
    refine ⟨bytes, TcpApplicationLayer.decode bytes, by simp [serverEncode, hb], ?_,
      fun b ht => by rw [TcpApplicationLayer.decode_of_encode hb, ht]; rfl, fun checks k s _ => ?_⟩
    · rw [TcpApplicationLayer.decode_of_encode hb]; exact ⟨rfl, rfl, rfl⟩
    · simp only [layer, TcpApplicationLayer.layer, TcpApplicationLayer.handleData,
        TcpApplicationLayer.startWaitingResponse, TcpApplicationLayer.framing_of_encode hb, Option.some_bind]
      cases TcpApplicationLayer.preCheck checks (TcpApplicationLayer.decode bytes) <;> rfl

/-- A first check that fails fails the frame with "Invalid response", in every variant. -/
theorem preCheck_of_false (v : Variant) {first : PreCheck} {frame : Frame} (h : first frame = .bool false)
    (rest : List PreCheck) : v.layer.preCheck (first :: rest) frame = some invalidResponse := by
  cases v <;>
  simp [layer, RtuApplicationLayer.layer, AsciiApplicationLayer.layer, TcpApplicationLayer.layer,
    RtuApplicationLayer.preCheck, TcpApplicationLayer.preCheck, preCheckLoop, AsciiApplicationLayer.preCheck, h]

end Variant

/-! ## The client's side of one answered request -/

namespace MasterState

variable {σ : Type} {L : AbstractApplicationLayer σ}

/-- An idle client issues a request's encoding and waits for the write. -/
theorem step_request_idle {s : MasterState σ} (hp : s.phase = .idle) (r : WaitRequest) :
    s.step L (.request r) = (L.encode r.adu s.layer).map fun (bytes, layer) =>
      { s with layer, requests := s.requests ++ [(r, bytes)], phase := .writing } := by
  simp [step, hp]

/-- A unicast request being written, whose write completes and whose one reply invokes its wait
callback, settles with what the callback received. -/
theorem run_answered {s : MasterState σ} {r : WaitRequest} {bytes reply : List Nat}
    {res : Except Error Frame} (hbc : r.broadcast = false) (hp : s.phase = .writing)
    (hlast : s.requests.getLast? = some (r, bytes))
    (hcb : LayerEvent.callbacks (L.handleData reply (L.startWaitingResponse r.preCheck s.current s.layer)).2 =
      [(s.current, res)]) :
    s.run L [.writeCompletes, .data reply] = some
      { s with layer := (L.handleData reply (L.startWaitingResponse r.preCheck s.current s.layer)).1,
               phase := .idle, timer := false,
               settlements := s.settlements ++ [⟨s.current, .callback, outcomeOf res⟩] } := by
  have hwrite : s.step L .writeCompletes = some
      { s with layer := L.startWaitingResponse r.preCheck s.current s.layer, timer := true,
               phase := .waiting } := by
    simp [step, hp, hlast, hbc]
  simp only [run, hwrite, Option.some_bind]
  simp only [step, Option.some_bind, deliver_single hcb]
  simp [callback, settle, current]

end MasterState

/-! ## Sessions -/

/-- A client and a server's layer over one wire, and every call the server's models received. -/
structure Session (v : Variant) where
  client : MasterState v.State
  server : v.State
  calls : List Call := []

namespace Session

variable {v : Variant}

/-- A new client and a new server layer. -/
def new (v : Variant) : Session v := { client := { layer := v.fresh }, server := v.fresh }

/-- One request from the session: the client issues it and its write completes; the server's
layer receives its bytes as one burst and its models answer every frame; every buffer they send
back reaches the client as one burst. -/
def request (slave : ModbusSlave) (r : WaitRequest) (s : Session v) : Option (Session v) := do
  let issued ← s.client.step v.layer (.request r)
  let received := v.serverReceive ((issued.requests.getLast?.map (·.2)).getD []) s.server
  let runs := received.2.flatMap fun f => slave.dispatch v.serverEncode f.toApplicationDataUnit
  let replies := received.2.flatMap fun f => slave.transportReplies v.serverEncode f.toApplicationDataUnit
  let client ← issued.run v.layer (.writeCompletes :: replies.map .data)
  pure { client, server := received.1, calls := s.calls ++ runs.flatMap (·.2.calls) }

/-- `exchange` is the first request of a new session. -/
theorem exchange_eq (v : Variant) (slave : ModbusSlave) (r : WaitRequest) :
    exchange v slave r = ((new v).request slave r).map fun s => (s.calls, s.client) := by
  simp only [exchange, request, new, Variant.serverFrames_eq]
  cases (({ layer := v.fresh } : MasterState v.State).step v.layer (.request r)) <;> simp

/-- Requests one after the other. -/
def requests (slave : ModbusSlave) : List WaitRequest → Session v → Option (Session v)
  | [], s => some s
  | r :: rest, s => (s.request slave r).bind (requests slave rest)

/-- Between two answered requests. -/
structure Quiet (s : Session v) : Prop where
  phase : s.client.phase = .idle
  timer : s.client.timer = false
  client : v.ClientQuiet s.client.layer
  server : v.ServerQuiet s.server

theorem quiet_new (v : Variant) : (new v).Quiet :=
  ⟨rfl, rfl, v.clientQuiet_fresh, v.serverQuiet_fresh⟩

/-- The server answers `r` with one reply of code `fc` and data `d`: `r` is a valid unicast
request, and its unit's model has no interceptor and, on every frame carrying `r`, calls `calls`
and sends back that frame with code `fc` and data `d`, a reply every framing carries. -/
structure Replies (v : Variant) (slave : ModbusSlave) (r : WaitRequest) (calls : List Call)
    (fc : Nat) (d : List Nat) : Prop where
  unicast : r.broadcast = false
  valid : r.adu.Valid
  unit : r.adu.unit ≠ 0
  handler : ∃ model, slave.models.lookup r.adu.unit = some model ∧ model.interceptor = none ∧
    ∀ (f : ApplicationDataUnit) (bytes : List Nat), f.unit = r.adu.unit → f.fc = r.adu.fc →
      f.data = r.adu.data → v.serverEncode { f with fc, data := d } = some bytes →
      ModbusSlave.handleFC v.serverEncode model f = { calls, replies := [bytes] }
  fc : fc < 256
  data : AllBytes d
  length : d.length ≤ 65533

/-- The server answers `r` with one reply of data `d` that the client accepts: `r` is a valid
unicast request, its unit's model has no interceptor and, on every frame carrying `r`, calls
`calls` and sends back that frame with data `d`, and the client's pre-checks pass on every frame
of the request's unit and code with data `d`. -/
structure Serves (v : Variant) (slave : ModbusSlave) (r : WaitRequest) (calls : List Call)
    (d : List Nat) : Prop where
  unicast : r.broadcast = false
  valid : r.adu.Valid
  unit : r.adu.unit ≠ 0
  handler : ∃ model, slave.models.lookup r.adu.unit = some model ∧ model.interceptor = none ∧
    ∀ (f : ApplicationDataUnit) (bytes : List Nat), f.unit = r.adu.unit → f.fc = r.adu.fc →
      f.data = r.adu.data → v.serverEncode { f with data := d } = some bytes →
      ModbusSlave.handleFC v.serverEncode model f = { calls, replies := [bytes] }
  data : AllBytes d
  length : d.length ≤ 65533
  accepted : ∀ f : Frame, f.unit = r.adu.unit → f.fc = r.adu.fc → f.data = d →
    v.layer.preCheck r.preCheck f = none

theorem Serves.replies {slave : ModbusSlave} {r : WaitRequest} {calls : List Call} {d : List Nat}
    (h : Serves v slave r calls d) : Replies v slave r calls r.adu.fc d := by
  obtain ⟨model, hm, hi, hserve⟩ := h.handler
  refine ⟨h.unicast, h.valid, h.unit, ⟨model, hm, hi, fun f bytes hu hf hd he => ?_⟩, h.valid.fc, h.data,
    h.length⟩
  rw [← hf] at he
  exact hserve f bytes hu hf hd he

/-- From a quiet session, a request the server answers with one reply settles by its wait
callback with what the client's pre-checks make of a frame of that reply, unless they find it
short; it settles only itself, and leaves the session quiet. The frame carries the transaction
the request's own bytes carry. -/
theorem request_settles {slave : ModbusSlave} {r : WaitRequest} {calls : List Call} {fc : Nat}
    {d : List Nat} (h : Replies v slave r calls fc d) {s : Session v} (hs : s.Quiet)
    (hlong : ∀ f : Frame, f.unit = r.adu.unit → f.fc = fc → f.data = d →
      v.layer.preCheck r.preCheck f ≠ some insufficientDataLength) :
    ∃ f s', f.unit = r.adu.unit ∧ f.fc = fc ∧ f.data = d ∧
      s.request slave r = some s' ∧ s'.Quiet ∧ s'.calls = s.calls ++ calls ∧
      (∃ bytes, s'.client.requests = s.client.requests ++ [(r, bytes)] ∧
        f.transaction = v.wireTransaction bytes) ∧
      s'.client.settlements = s.client.settlements ++
        [⟨s.client.requests.length, .callback, match v.layer.preCheck r.preCheck f with
          | some e => .rejected e
          | none => .resolved (some f)⟩] := by
  obtain ⟨model, hm, hi, hserve⟩ := h.handler
  obtain ⟨bytes, c', henc, hquiet⟩ := v.encode_quiet h.valid hs.client
  obtain ⟨f, hframes, hsrv, hcarry, hwire, htr⟩ := v.serverReceive_encode h.valid henc hs.server
  have hreply : ({ f.toApplicationDataUnit with fc, data := d } : ApplicationDataUnit).Valid :=
    ⟨hcarry.unit ▸ h.valid.unit, h.fc, h.data, h.length, htr⟩
  obtain ⟨reply, f', hsend, hcarry', htrans, hcb⟩ := v.reply_settles hreply
  have hrun := hserve f.toApplicationDataUnit reply hcarry.unit hcarry.fc hcarry.data hsend
  have hfu : f.unit ≠ 0 := hcarry.unit ▸ h.unit
  have hfm : slave.models.lookup f.unit = some model := hcarry.unit ▸ hm
  have hdispatch : slave.dispatch v.serverEncode f.toApplicationDataUnit =
      [(f.unit, { calls, replies := [reply] })] := by
    rw [ModbusSlave.dispatch_unicast hfu hfm, ModbusSlave.dispatchModel_of_interceptor hi, hrun]
  have hreplies : slave.transportReplies v.serverEncode f.toApplicationDataUnit = [reply] := by
    rw [ModbusSlave.transportReplies_unicast hfu hfm, ModbusSlave.dispatchModel_of_interceptor hi, hrun]
  have hfu' : f'.unit = r.adu.unit := hcarry'.unit.trans hcarry.unit
  let issued : MasterState v.State :=
    { s.client with layer := c', requests := s.client.requests ++ [(r, bytes)], phase := .writing }
  have hcur : issued.current = s.client.requests.length := by simp [issued, MasterState.current]
  have hcb' := hcb r.preCheck issued.current c' (hlong f' hfu' hcarry'.fc hcarry'.data)
  have hlast : issued.requests.getLast? = some (r, bytes) := by simp [issued]
  have hanswered := MasterState.run_answered (L := v.layer) h.unicast rfl hlast hcb'
  let answered : MasterState v.State :=
    { issued with layer := (v.layer.handleData reply (v.layer.startWaitingResponse r.preCheck issued.current c')).1,
                  phase := .idle, timer := false,
                  settlements := issued.settlements ++ [⟨issued.current, .callback,
                    match v.layer.preCheck r.preCheck f' with
                    | some e => .rejected e
                    | none => .resolved (some f')⟩] }
  have houtcome : MasterState.outcomeOf (match v.layer.preCheck r.preCheck f' with
      | some e => .error e
      | none => .ok f') = match v.layer.preCheck r.preCheck f' with
      | some e => .rejected e
      | none => .resolved (some f') := by
    cases v.layer.preCheck r.preCheck f' <;> rfl
  refine ⟨f', { client := answered, server := (v.serverReceive bytes s.server).1, calls := s.calls ++ calls },
    hfu', hcarry'.fc, hcarry'.data, ?_, ⟨rfl, rfl, hquiet _ _ _ (by rw [hcb']; simp), hsrv⟩, rfl,
    ⟨bytes, rfl, (htrans bytes hwire).trans hwire⟩, by simp [answered, hcur]⟩
  simp only [request, MasterState.step_request_idle hs.phase, henc, Option.map_some', Option.bind_eq_bind,
    Option.some_bind]
  simp only [issued, houtcome] at hanswered
  simp [hframes, hdispatch, hreplies, hanswered, answered, issued]

/-- From a quiet session, a request the server serves resolves with a frame of its own reply,
carrying the transaction its own bytes carry; it settles only itself, and leaves the session
quiet. -/
theorem request_resolves {slave : ModbusSlave} {r : WaitRequest} {calls : List Call} {d : List Nat}
    (h : Serves v slave r calls d) {s : Session v} (hs : s.Quiet) :
    ∃ f s', f.unit = r.adu.unit ∧ f.fc = r.adu.fc ∧ f.data = d ∧
      s.request slave r = some s' ∧ s'.Quiet ∧ s'.calls = s.calls ++ calls ∧
      (∃ bytes, s'.client.requests = s.client.requests ++ [(r, bytes)] ∧
        f.transaction = v.wireTransaction bytes) ∧
      s'.client.settlements =
        s.client.settlements ++ [⟨s.client.requests.length, .callback, .resolved (some f)⟩] := by
  obtain ⟨f, s', hfu, hff, hfd, hreq, hq, hcalls, hsent, hset⟩ :=
    request_settles h.replies hs fun f hu hf hd => by rw [h.accepted f hu hf hd]; nofun
  refine ⟨f, s', hfu, hff, hfd, hreq, hq, hcalls, hsent, ?_⟩
  rw [hset, h.accepted f hfu hff hfd]

/-- The exception response a model's failure makes, once encoded, is the one reply of the run. -/
theorem exception_of_encode {encode : ApplicationDataUnit → Option (List Nat)} {frame : ApplicationDataUnit}
    {c : ErrorCode} {bytes : List Nat}
    (he : encode { frame with fc := frame.fc ||| 0x80, data := [c.value] } = some bytes) :
    exception encode frame c = { replies := [bytes] } := by
  have hc : c.value ≤ 255 := by cases c <;> decide
  simp [exception, getErrorByCode, responseError_prefix, hc, encodeWith, he, Run.respond]

/-- An exception response never resolves a request and never hands its code to the caller: from
a quiet session, a request whose first pre-check is the client methods' `matchesUnitFc`, which
the server answers with the request's code with the high bit set and one byte of data, is
rejected with "Invalid response" by its wait callback, and the session is quiet again. -/
theorem request_exception_rejected {slave : ModbusSlave} {r : WaitRequest} {calls : List Call} {code : Nat}
    (h : Replies v slave r calls (r.adu.fc ||| 0x80) [code]) (hfc : r.adu.fc < 0x80) {rest : List PreCheck}
    (hfirst : r.preCheck = matchesUnitFc r.adu.unit r.adu.fc :: rest) {s : Session v} (hs : s.Quiet) :
    ∃ s', s.request slave r = some s' ∧ s'.Quiet ∧ s'.calls = s.calls ++ calls ∧
      s'.client.settlements =
        s.client.settlements ++ [⟨s.client.requests.length, .callback, .rejected invalidResponse⟩] := by
  have hne : r.adu.fc ||| 0x80 ≠ r.adu.fc := fun heq => by
    have h7 := congrArg (Nat.testBit · 7) heq
    simp [Nat.testBit_eq_false_of_lt (show r.adu.fc < 2 ^ 7 from hfc)] at h7
    exact absurd h7 (by decide)
  have hrefused : ∀ f : Frame, f.fc = r.adu.fc ||| 0x80 → v.layer.preCheck r.preCheck f = some invalidResponse :=
    fun f hf => hfirst ▸ v.preCheck_of_false (by simp [matchesUnitFc, hf, hne]) rest
  obtain ⟨f, s', -, hff, -, hreq, hq, hcalls, -, hset⟩ :=
    request_settles h hs fun f _ hf _ => by rw [hrefused f hf]; decide
  exact ⟨s', hreq, hq, hcalls, by rw [hset, hrefused f hff]⟩

theorem request_exception_rejected_noCallback :
    Replies .tcp ⟨[(1, {})], by decide⟩ ((ModbusMaster.readHoldingRegisters 1 0 1).get rfl).toWaitRequest []
        (((ModbusMaster.readHoldingRegisters 1 0 1).get rfl).adu.fc ||| 0x80) [1] ∧
      ((ModbusMaster.readHoldingRegisters 1 0 1).get rfl).adu.fc < 0x80 ∧
      ((ModbusMaster.readHoldingRegisters 1 0 1).get rfl).preCheck =
        matchesUnitFc 1 3 :: ((ModbusMaster.readHoldingRegisters 1 0 1).get rfl).preCheck.tail ∧
      (new .tcp).Quiet ∧
      ∃ s', (new .tcp).request ⟨[(1, {})], by decide⟩
          ((ModbusMaster.readHoldingRegisters 1 0 1).get rfl).toWaitRequest = some s' ∧ s'.Quiet ∧
        s'.calls = (new .tcp).calls ++ [] ∧
        s'.client.settlements = (new .tcp).client.settlements ++
          [⟨(new .tcp).client.requests.length, .callback, .rejected invalidResponse⟩] := by
  have h : Replies .tcp ⟨[(1, {})], by decide⟩ ((ModbusMaster.readHoldingRegisters 1 0 1).get rfl).toWaitRequest
      [] (((ModbusMaster.readHoldingRegisters 1 0 1).get rfl).adu.fc ||| 0x80) [1] :=
    { unicast := rfl
      valid := ⟨by decide, by decide, show AllBytes [0, 0, 0, 1] by simp [AllBytes], by decide, nofun⟩
      unit := by decide
      handler := ⟨{}, rfl, rfl, fun f bytes _ hff hfd he => by
        rw [← hff] at he
        simp only [ModbusSlave.handleFC, show f.fc = 3 from hff, ModbusSlave.handleFC3, ModbusSlave.handleRead,
          hfd, ModbusSlaveModel.readHoldingRegisters]
        exact exception_of_encode (c := .ILLEGAL_FUNCTION) he⟩
      fc := by decide
      data := by simp [AllBytes]
      length := by decide }
  exact ⟨h, by decide, rfl, quiet_new _, request_exception_rejected h (by decide) rfl (quiet_new _)⟩

/-- Spec side: requests `n`, `n + 1`, … resolving in turn with the frames `fs`. -/
def resolvedFrom (n : Nat) : List Frame → List Settlement
  | [] => []
  | f :: fs => ⟨n, .callback, .resolved (some f)⟩ :: resolvedFrom (n + 1) fs

/-- Over any list of requests the server serves, sent one after the other from a quiet session:
the requests the client sends, the frame each resolves with in turn, and the calls the models
receive. -/
theorem requests_served {slave : ModbusSlave} :
    ∀ (rs : List (WaitRequest × List Call × List Nat)) {s : Session v},
      (∀ x ∈ rs, Serves v slave x.1 x.2.1 x.2.2) → s.Quiet →
      ∃ s' fs sent, s.requests slave (rs.map (·.1)) = some s' ∧ s'.Quiet ∧
        s'.calls = s.calls ++ (rs.map (·.2.1)).flatten ∧
        s'.client.requests = s.client.requests ++ sent ∧ sent.map (·.1) = rs.map (·.1) ∧
        List.Forall₂ (fun (f : Frame) x => f.unit = x.1.adu.unit ∧ f.fc = x.1.adu.fc ∧ f.data = x.2.2) fs rs ∧
        List.Forall₂ (fun (f : Frame) (y : WaitRequest × List Nat) => f.transaction = v.wireTransaction y.2)
          fs sent ∧
        s'.client.settlements = s.client.settlements ++ resolvedFrom s.client.requests.length fs
  | [], s, _, hs => ⟨s, [], [], rfl, hs, by simp, by simp, rfl, .nil, .nil, by simp [resolvedFrom]⟩
  | x :: rest, s, hserves, hs => by
    obtain ⟨f, s₁, hfu, hff, hfd, hreq, hq₁, hcalls₁, ⟨bytes, hsent₁, htr⟩, hset₁⟩ :=
      request_resolves (hserves x (List.mem_cons_self _ _)) hs
    obtain ⟨s', fs, sent, hreqs, hq', hcalls', hsent', hmap, hframes, htrs, hset'⟩ :=
      requests_served rest (fun y hy => hserves y (List.mem_cons_of_mem _ hy)) hq₁
    refine ⟨s', f :: fs, (x.1, bytes) :: sent, by simp [requests, hreq, hreqs], hq',
      by simp [hcalls', hcalls₁], by simp [hsent', hsent₁], by simp [hmap], .cons ⟨hfu, hff, hfd⟩ hframes,
      .cons htr htrs, ?_⟩
    rw [hset', hset₁, hsent₁]
    simp [resolvedFrom]

/-- Over any list of requests the server serves, sent one after the other from a quiet session,
each resolves in turn with a frame of its own reply, the session stays quiet, and the models
receive the calls of each request in order. -/
theorem requests_resolve {slave : ModbusSlave} :
    ∀ (rs : List (WaitRequest × List Call × List Nat)) {s : Session v},
      (∀ x ∈ rs, Serves v slave x.1 x.2.1 x.2.2) → s.Quiet →
      ∃ s' fs, s.requests slave (rs.map (·.1)) = some s' ∧ s'.Quiet ∧
        s'.calls = s.calls ++ (rs.map (·.2.1)).flatten ∧
        List.Forall₂ (fun (f : Frame) x => f.unit = x.1.adu.unit ∧ f.fc = x.1.adu.fc ∧ f.data = x.2.2) fs rs ∧
        s'.client.settlements = s.client.settlements ++ resolvedFrom s.client.requests.length fs := by
  intro rs s hserves hs
  obtain ⟨s', fs, -, hreqs, hq', hcalls', -, -, hframes, -, hset'⟩ := requests_served rs hserves hs
  exact ⟨s', fs, hreqs, hq', hcalls', hframes, hset'⟩

/-- A server whose unit 1 reports its id with the defaults. -/
def reportingSlave : ModbusSlave := ⟨[(1, { reportServerId := some (.value {}) })], by decide⟩

/-- Two reports of unit 1's server id, with the calls and the response data the server gives each. -/
def reportTwice : List (WaitRequest × List Call × List Nat) :=
  [((ModbusMaster.reportServerId 1).toWaitRequest, [.reportServerId], [2, 1, 0xff]),
   ((ModbusMaster.reportServerId 1).toWaitRequest, [.reportServerId], [2, 1, 0xff])]

/-- `reportingSlave` serves both reports, over every framing. -/
theorem serves_reportTwice (v : Variant) : ∀ x ∈ reportTwice, Serves v reportingSlave x.1 x.2.1 x.2.2 := by
  have hserve : Serves v reportingSlave (ModbusMaster.reportServerId 1).toWaitRequest [.reportServerId]
      [2, 1, 0xff] :=
    { unicast := rfl
      valid := ⟨by decide, by decide, show AllBytes [] by simp, Nat.zero_le _,
        by simp [ModbusMaster.reportServerId]⟩
      unit := by decide
      handler := ⟨_, rfl, rfl, fun f bytes _ hff hfd he => by
        simp only [ModbusSlave.handleFC, show f.fc = 0x11 from hff]
        exact @ModbusSlave.handleFC17_of_value _ _ _ {} (by simp [hfd, ModbusMaster.reportServerId]) rfl _ he⟩
      data := by simp [AllBytes]
      length := by decide
      accepted := fun f hfu hff hfd => Variant.preCheck_eq_none _ (by
        simp only [ModbusMaster.reportServerId] at hfu hff
        simp [ModbusMaster.reportServerId, matchesUnitFc_of_eq hfu hff, hfd]) }
  simp [reportTwice, hserve]

theorem requests_resolve_reportTwice :
    (∀ x ∈ reportTwice, Serves .tcp reportingSlave x.1 x.2.1 x.2.2) ∧ (new .tcp).Quiet ∧
      ∃ s' fs, (new .tcp).requests reportingSlave (reportTwice.map (·.1)) = some s' ∧ s'.Quiet ∧
        s'.calls = (new .tcp).calls ++ (reportTwice.map (·.2.1)).flatten ∧
        List.Forall₂ (fun (f : Frame) x => f.unit = x.1.adu.unit ∧ f.fc = x.1.adu.fc ∧ f.data = x.2.2)
          fs reportTwice ∧
        s'.client.settlements =
          (new .tcp).client.settlements ++ resolvedFrom (new .tcp).client.requests.length fs :=
  ⟨serves_reportTwice _, quiet_new _, requests_resolve reportTwice (serves_reportTwice _) (quiet_new _)⟩

/-- The frame a request resolves with. On every run of a client over a lawful layer, the MBAP
layer included, a request resolves only with a frame that passes its own pre-checks. Over MBAP,
while the server answers each request before the next is sent, every request resolves in turn
with a frame that carries the transaction its own bytes carry. -/
theorem resolved_ownTransaction :
    (∀ {σ : Type} (L : AbstractApplicationLayer σ) (s : MasterState σ), L.Lawful →
      MasterState.Reachable L s → MasterState.ResolvedPass L s) ∧
    (∀ (slave : ModbusSlave) (rs : List (WaitRequest × List Call × List Nat)) (s : Session .tcp),
      (∀ x ∈ rs, Serves .tcp slave x.1 x.2.1 x.2.2) → s.Quiet →
      ∃ s' fs sent, s.requests slave (rs.map (·.1)) = some s' ∧
        s'.client.requests = s.client.requests ++ sent ∧ sent.map (·.1) = rs.map (·.1) ∧
        s'.client.settlements = s.client.settlements ++ resolvedFrom s.client.requests.length fs ∧
        List.Forall₂ (fun (f : Frame) (y : WaitRequest × List Nat) =>
          f.transaction = some (readUInt16BE y.2 0)) fs sent) := by
  refine ⟨fun _ _ hL hs => MasterState.reachable_resolvedPass hL hs, fun slave rs s hserves hs => ?_⟩
  obtain ⟨s', fs, sent, hreqs, -, -, hsent, hmap, -, htrs, hset⟩ := requests_served rs hserves hs
  exact ⟨s', fs, sent, hreqs, hsent, hmap, hset, htrs⟩

theorem resolved_ownTransaction_reportTwice :
    (∀ x ∈ reportTwice, Serves .tcp reportingSlave x.1 x.2.1 x.2.2) ∧ (new .tcp).Quiet ∧
      ∃ s' fs sent, (new .tcp).requests reportingSlave (reportTwice.map (·.1)) = some s' ∧
        s'.client.requests = (new .tcp).client.requests ++ sent ∧ sent.map (·.1) = reportTwice.map (·.1) ∧
        s'.client.settlements =
          (new .tcp).client.settlements ++ resolvedFrom (new .tcp).client.requests.length fs ∧
        List.Forall₂ (fun (f : Frame) (y : WaitRequest × List Nat) =>
          f.transaction = some (readUInt16BE y.2 0)) fs sent :=
  ⟨serves_reportTwice _, quiet_new _,
    resolved_ownTransaction.2 reportingSlave reportTwice (new .tcp) (serves_reportTwice _) (quiet_new _)⟩

/-- The two reports carry transactions `1` and `2`. -/
example :
    ((new .tcp).requests reportingSlave (reportTwice.map (·.1))).map
      (fun s => s.client.settlements.map fun st => match st.outcome with
        | .resolved (some f) => f.transaction
        | _ => none) = some [some 1, some 2] := by
  decide

end Session

end NjsModbus
