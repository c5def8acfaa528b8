import NjsModbus.Exchange.Session
import NjsModbus.Layers.BurstBoundaries

/-!
# A server on a transport that several peers share

A TCP server's connections and a UDP socket's senders all feed one application layer: every
`'data'` event carries the burst and the `response` closure that writes back to its peer, and
the layer emits each frame with the closure of the burst it was emitted on. `ModbusSlave.serve`
runs a server over the bursts in the order they arrive (the list is the interleaving: each burst
is handled whole before the next) and tags every buffer the models send back with the peer it
goes to.

The framers differ in what they keep from one burst to the next:

* the MBAP layer, and the RTU layer off a serial line, frame every burst alone, so over any
  interleaving each peer is answered exactly what its own bursts ask, and nothing built from
  another peer's bytes (`serve_perBurst`);
* the ASCII layer keeps one scanner for all peers: a request one peer starts and another ends is
  answered to the second (`serve_ascii_joined`), and a request cut by another peer's request is
  never answered (`serve_ascii_interrupted`).
-/

namespace NjsModbus

namespace ModbusSlave

/-- The server over bursts from several peers, in arrival order: the layer at the end, and every
buffer the models send back, with the peer whose `response` closure it goes through. -/
def serve (v : Variant) (slave : ModbusSlave) : v.State → List (Nat × List Nat) → v.State × List (Nat × List Nat)
  | s, [] => (s, [])
  | s, (peer, bytes) :: rest =>
    ((serve v slave (v.serverReceive bytes s).1 rest).1,
      ((v.serverReceive bytes s).2.flatMap fun f => slave.transportReplies v.serverEncode f.toApplicationDataUnit).map
          (peer, ·) ++ (serve v slave (v.serverReceive bytes s).1 rest).2)

/-- What a server answers a burst with, given the frames its layer emits for it. -/
theorem serve_cons (v : Variant) (slave : ModbusSlave) (s : v.State) (peer : Nat) (bytes : List Nat)
    (rest : List (Nat × List Nat)) :
    (serve v slave s ((peer, bytes) :: rest)).2 =
      ((v.serverReceive bytes s).2.flatMap fun f => slave.transportReplies v.serverEncode f.toApplicationDataUnit).map
          (peer, ·) ++ (serve v slave (v.serverReceive bytes s).1 rest).2 := rfl

/-! ## Framers without memory between bursts -/

/-- The MBAP layer, and the RTU layer off a serial line, emit for a burst what a new layer would,
and stay quiet. -/
theorem serverReceive_perBurst {v : Variant} (hv : v = .tcp ∨ v = .rtu 0) {s : v.State}
    (hs : v.ServerQuiet s) (bytes : List Nat) :
    v.ServerQuiet (v.serverReceive bytes s).1 ∧ (v.serverReceive bytes s).2 = v.serverFrames bytes := by
  rcases hv with rfl | rfl
  · exact ⟨by simpa [Variant.serverReceive, TcpApplicationLayer.handleData_of_none hs] using hs,
      by simp [Variant.serverReceive, Variant.serverFrames, TcpApplicationLayer.handleData_of_none hs,
        TcpApplicationLayer.handleData_of_none (show ({} : TcpApplicationLayer).waitingResponse = none from rfl)]⟩
  · have hsrv : s = ({} : RtuApplicationLayer) := hs
    subst hsrv
    exact ⟨Variant.rtu_receive_fresh 0 bytes, rfl⟩

/-- Over any interleaving of the peers' bursts, a server whose layer is the MBAP one, or the RTU
one off a serial line, answers each burst alone and through its own peer's closure: every peer is
sent exactly what its own bursts ask for, in order, and nothing made of another peer's bytes. -/
theorem serve_perBurst {v : Variant} (hv : v = .tcp ∨ v = .rtu 0) (slave : ModbusSlave) :
    ∀ (bursts : List (Nat × List Nat)) (s : v.State), v.ServerQuiet s →
      (serve v slave s bursts).2 = bursts.flatMap fun b =>
        ((v.serverFrames b.2).flatMap fun f => slave.transportReplies v.serverEncode f.toApplicationDataUnit).map
          (b.1, ·)
  | [], _, _ => rfl
  | (peer, bytes) :: rest, s, hs => by
    obtain ⟨hq, hframes⟩ := serverReceive_perBurst hv hs bytes
    rw [serve_cons, hframes, serve_perBurst hv slave rest _ hq, List.flatMap_cons]

theorem serve_perBurst_twoPeers :
    (Variant.tcp = .tcp ∨ Variant.tcp = .rtu 0) ∧ Variant.tcp.ServerQuiet ({} : TcpApplicationLayer) ∧
      (serve .tcp Session.reportingSlave {}
          [(1, [0, 1, 0, 0, 0, 2, 1, 0x11]), (2, [0, 1, 0, 0, 0, 2, 1, 0x11])]).2 =
        [(1, [0, 1, 0, 0, 0, 2, 1, 0x11]), (2, [0, 1, 0, 0, 0, 2, 1, 0x11])].flatMap fun b =>
          ((Variant.tcp.serverFrames b.2).flatMap fun f =>
            Session.reportingSlave.transportReplies Variant.tcp.serverEncode f.toApplicationDataUnit).map (b.1, ·) :=
  ⟨.inl rfl, rfl, serve_perBurst (.inl rfl) Session.reportingSlave _ {} rfl⟩

/-! ## The ASCII layer: one scanner for every peer -/

open AsciiApplicationLayer

/-- An idle scanner stays idle, and hands nothing on, over bytes without a `':'`. -/
theorem scanRun_idle {t : List Nat} (ht : ∀ c ∈ t, c ≠ COLON) (acc : List Nat) :
    scanRun (.idle, acc) t = (.idle, acc) ∧ scanBodies (.idle, acc) t = [] := by
  induction t with
  | nil => simp
  | cons c rest ih =>
    have hc : c ≠ COLON := ht c (List.mem_cons_self c rest)
    have hstep : scanStep (.idle, acc) c = (.idle, acc) := by simp [scanStep, scan, hc]
    obtain ⟨h1, h2⟩ := ih fun c' hc' => ht c' (List.mem_cons_of_mem c hc')
    simp [hstep, h1, h2, scan, hc]

/-- What follows the first byte of an encoded ADU holds no `':'`. -/
theorem ne_COLON_of_suffix {adu : ApplicationDataUnit} {pre post : List Nat}
    (hsplit : pre ++ post = COLON :: hexBody adu ++ [CR, LF]) (hpre : pre ≠ []) : ∀ c ∈ post, c ≠ COLON := by
  obtain ⟨b, pre', rfl⟩ := List.exists_cons_of_ne_nil hpre
  simp only [List.cons_append, List.cons.injEq] at hsplit
  intro c hc
  have hmem : c ∈ hexBody adu ++ [CR, LF] := hsplit.2 ▸ List.mem_append_right pre' hc
  simp only [List.mem_append, List.mem_cons, List.not_mem_nil, or_false] at hmem
  rcases hmem with hbody | rfl | rfl
  · exact (hexBody_free adu c hbody).1
  · decide
  · decide

/-- A layer with no wait registered, given a proper prefix of an encoded ADU, emits nothing and
keeps no wait. -/
theorem handleData_prefix_quiet {adu : ApplicationDataUnit} {pre post : List Nat}
    (hsplit : pre ++ post = COLON :: hexBody adu ++ [CR, LF]) (hpost : post ≠ []) {s : AsciiApplicationLayer}
    (hs : s.waitingResponse = none) :
    (handleData pre s).2 = [] ∧ (handleData pre s).1.waitingResponse = none := by
  rw [handleData_quiet (scanBodies_of_ne_LF _ (ne_LF_before_last hsplit hpost))]
  exact ⟨rfl, hs⟩

/-- A request one peer starts and another peer ends is answered to the second: the scanner joins
the two peers' bytes into one frame, and the frame goes out with the closure of the burst that
held its LF. -/
theorem serve_ascii_joined {adu : ApplicationDataUnit} (hb : AllBytes adu.bytes) {pre post : List Nat}
    (hsplit : pre ++ post = COLON :: hexBody adu ++ [CR, LF]) (hpost : post ≠ []) {s : AsciiApplicationLayer}
    (hs : s.waitingResponse = none) (slave : ModbusSlave) (p q : Nat) :
    (serve .ascii slave s [(p, pre), (q, post)]).2 =
      (slave.transportReplies Variant.ascii.serverEncode (decode (hexBody adu)).toApplicationDataUnit).map (q, ·) := by
  obtain ⟨hquiet, -⟩ := handleData_prefix_quiet hsplit hpost hs
  have hwhole := handleData_encoded_of_none hb hs
  rw [← hsplit, handleData_append, hquiet, List.nil_append] at hwhole
  have hframes : (handleData post (handleData pre s).1).2 = [.framing (decode (hexBody adu))] :=
    congrArg Prod.snd hwhole
  simp only [serve_cons, Variant.serverReceive, hquiet, hframes, serve]
  simp [LayerEvent.framings]

theorem serve_ascii_joined_reportServerId :
    AllBytes ({ unit := 1, fc := 0x11, data := [] } : ApplicationDataUnit).bytes ∧
      [COLON] ++ (hexBody { unit := 1, fc := 0x11, data := [] } ++ [CR, LF]) =
        COLON :: hexBody { unit := 1, fc := 0x11, data := [] } ++ [CR, LF] ∧
      hexBody { unit := 1, fc := 0x11, data := [] } ++ [CR, LF] ≠ [] ∧
      ({} : AsciiApplicationLayer).waitingResponse = none ∧
      (serve .ascii Session.reportingSlave {}
          [(1, [COLON]), (2, hexBody { unit := 1, fc := 0x11, data := [] } ++ [CR, LF])]).2 =
        (Session.reportingSlave.transportReplies Variant.ascii.serverEncode
          (decode (hexBody { unit := 1, fc := 0x11, data := [] })).toApplicationDataUnit).map (2, ·) := by
  have hb : AllBytes ({ unit := 1, fc := 0x11, data := [] } : ApplicationDataUnit).bytes := by
    simp [AllBytes, ApplicationDataUnit.bytes]
  have hsplit : [COLON] ++ (hexBody { unit := 1, fc := 0x11, data := [] } ++ [CR, LF]) =
      COLON :: hexBody { unit := 1, fc := 0x11, data := [] } ++ [CR, LF] := by
    rw [List.singleton_append, List.cons_append]
  have hpost : hexBody { unit := 1, fc := 0x11, data := [] } ++ [CR, LF] ≠ [] := by simp
  exact ⟨hb, hsplit, hpost, rfl,
    @serve_ascii_joined _ hb _ _ hsplit hpost {} rfl Session.reportingSlave 1 2⟩

/-- A request cut by another peer's whole request is lost: the scanner drops the first request's
bytes at the second's `':'`, answers the second, and sits idle through the rest of the first. -/
theorem serve_ascii_interrupted {adu adu' : ApplicationDataUnit} (hb' : AllBytes adu'.bytes) {pre post : List Nat}
    (hsplit : pre ++ post = COLON :: hexBody adu ++ [CR, LF]) (hpre : pre ≠ []) (hpost : post ≠ [])
    {s : AsciiApplicationLayer} (hs : s.waitingResponse = none) (slave : ModbusSlave) (p q : Nat) :
    (serve .ascii slave s [(p, pre), (q, COLON :: hexBody adu' ++ [CR, LF]), (p, post)]).2 =
      (slave.transportReplies Variant.ascii.serverEncode (decode (hexBody adu')).toApplicationDataUnit).map (q, ·) := by
  obtain ⟨hquiet, hwait⟩ := handleData_prefix_quiet hsplit hpost hs
  have hother := handleData_encoded_of_none hb' hwait
  obtain ⟨-, hbodies⟩ := scanRun_idle (ne_COLON_of_suffix hsplit hpre) (hexBody adu')
  have hrest : (handleData post { (handleData pre s).1 with status := .idle, frame := hexBody adu' }).2 = [] := by
    rw [handleData_quiet hbodies]
  simp only [serve_cons, Variant.serverReceive, hquiet, congrArg Prod.fst hother, congrArg Prod.snd hother,
    hrest, serve]
  simp [LayerEvent.framings]

theorem serve_ascii_interrupted_reportServerId :
    AllBytes ({ unit := 2, fc := 0x11, data := [] } : ApplicationDataUnit).bytes ∧
      [COLON] ++ (hexBody { unit := 1, fc := 0x11, data := [] } ++ [CR, LF]) =
        COLON :: hexBody { unit := 1, fc := 0x11, data := [] } ++ [CR, LF] ∧
      [COLON] ≠ [] ∧ hexBody { unit := 1, fc := 0x11, data := [] } ++ [CR, LF] ≠ [] ∧
      ({} : AsciiApplicationLayer).waitingResponse = none ∧
      (serve .ascii Session.reportingSlave {}
          [(1, [COLON]), (2, COLON :: hexBody { unit := 2, fc := 0x11, data := [] } ++ [CR, LF]),
            (1, hexBody { unit := 1, fc := 0x11, data := [] } ++ [CR, LF])]).2 =
        (Session.reportingSlave.transportReplies Variant.ascii.serverEncode
          (decode (hexBody { unit := 2, fc := 0x11, data := [] })).toApplicationDataUnit).map (2, ·) := by
  have hb' : AllBytes ({ unit := 2, fc := 0x11, data := [] } : ApplicationDataUnit).bytes := by
    simp [AllBytes, ApplicationDataUnit.bytes]
  have hsplit : [COLON] ++ (hexBody { unit := 1, fc := 0x11, data := [] } ++ [CR, LF]) =
      COLON :: hexBody { unit := 1, fc := 0x11, data := [] } ++ [CR, LF] := by
    rw [List.singleton_append, List.cons_append]
  have hpost : hexBody { unit := 1, fc := 0x11, data := [] } ++ [CR, LF] ≠ [] := by simp
  exact ⟨hb', hsplit, List.cons_ne_nil _ _, hpost, rfl,
    @serve_ascii_interrupted _ _ hb' _ _ hsplit (List.cons_ne_nil _ _) hpost {} rfl Session.reportingSlave 1 2⟩

end ModbusSlave

end NjsModbus
