import NjsModbus.Layers.Rtu
import NjsModbus.Layers.Tcp
import NjsModbus.Layers.AsciiScanner
import NjsModbus.Master.WaitResponse
import NjsModbus.Slave.Dispatch

/-!
# A client and a server on one wire

A `Variant` is one of the three framings both ends share. `exchange` runs one request from a new
client to a server: the client issues it and its write completes; the server's layer, new,
receives the request's bytes as one burst (an RTU layer on a serial line frames them when its
3.5T timer fires) and its models answer; every buffer they send back reaches the client as one
burst. The result is what the models were called with and the client's state at the end.

Two facts per framing carry the whole exchange:

* `Variant.request_delivered`: the client's encoding of a valid ADU reaches the server as the
  one frame of that ADU;
* `Variant.reply_delivered`: the server's encoding of a valid ADU, delivered to a client that
  waits with pre-checks the frame passes, invokes the wait callback with that frame.

`exchange_resolves` composes them with the client's state machine: a server whose models answer
a request with one reply the pre-checks accept makes the client resolve with it.

`encode_framing_inverse` states the RTU and MBAP round trips both ways: an ADU frames back to
itself, and every buffer the framer accepts is the encoding of the frame it reads.
-/

namespace NjsModbus

/-- The framing both ends of the wire use. -/
inductive Variant where
  | rtu (threePointFiveT : Nat)
  | ascii
  | tcp

namespace Variant

/-- The state of an application layer of a variant. -/
def State : Variant → Type
  | .rtu _ => RtuApplicationLayer
  | .ascii => AsciiApplicationLayer
  | .tcp => TcpApplicationLayer

/-- The application layer of a variant, as the client sees it. -/
def layer : (v : Variant) → AbstractApplicationLayer v.State
  | .rtu t => RtuApplicationLayer.layer t
  | .ascii => AsciiApplicationLayer.layer
  | .tcp => TcpApplicationLayer.layer

/-- A new application layer. -/
def fresh : (v : Variant) → v.State
  | .rtu _ => ({} : RtuApplicationLayer)
  | .ascii => ({} : AsciiApplicationLayer)
  | .tcp => ({} : TcpApplicationLayer)

/-- The frames a new layer of the server emits for one burst. -/
def serverFrames : Variant → List Nat → List Frame
  | .rtu t, bytes => LayerEvent.framings (RtuApplicationLayer.receive t bytes {}).2
  | .ascii, bytes => LayerEvent.framings (AsciiApplicationLayer.handleData bytes {}).2
  | .tcp, bytes => LayerEvent.framings (TcpApplicationLayer.handleData bytes {}).2

/-- The server layer's `encode`. The MBAP layer's counter is never read for the server's
responses: they carry the transaction of the request they answer. -/
def serverEncode : Variant → ApplicationDataUnit → Option (List Nat)
  | .rtu _ => RtuApplicationLayer.encode
  | .ascii => AsciiApplicationLayer.encode
  | .tcp => fun adu => (TcpApplicationLayer.encode adu {}).map (·.1)

/-- A new layer has no wait registered. -/
theorem waitingResponse_fresh (v : Variant) : v.layer.waitingResponse v.fresh = none := by
  cases v <;> rfl

/-- Every variant's layer keeps the five slot facts the client relies on. -/
theorem layer_lawful : (v : Variant) → v.layer.Lawful
  | .rtu t => RtuApplicationLayer.layer_lawful t
  | .ascii => AsciiApplicationLayer.layer_lawful
  | .tcp => TcpApplicationLayer.layer_lawful

/-- A client over any of the three framings keeps its discipline on every run: no request
settles twice, a pending request settles on its write's failure or its timeout, a settled one
leaves the slot empty and its `tid` cleared, and a broadcast never fills the slot. -/
theorem clientDiscipline_of_variant (v : Variant) : ClientDiscipline v.layer :=
  clientDiscipline v.layer_lawful

/-- The client's encoding of a valid ADU reaches a new server layer as the one frame of that
ADU, with a 16-bit transaction if any. -/
theorem request_delivered (v : Variant) {adu : ApplicationDataUnit} (h : adu.Valid) :
    ∃ bytes layer f, v.layer.encode adu v.fresh = some (bytes, layer) ∧ v.serverFrames bytes = [f] ∧
      f.Carries adu ∧ ∀ t ∈ f.transaction, t < 65536 := by
  cases v with
  | rtu t =>
    obtain ⟨bytes, hb⟩ := RtuApplicationLayer.encode_isSome h
    refine ⟨bytes, {}, RtuApplicationLayer.decode bytes,
      by simp [layer, RtuApplicationLayer.layer, fresh, hb], ?_, ?_, ?_⟩
    · simp [serverFrames, RtuApplicationLayer.receive_fresh hb, LayerEvent.framings]
    · rw [RtuApplicationLayer.decode_of_encode hb]; exact ⟨rfl, rfl, rfl⟩
    · rw [RtuApplicationLayer.decode_of_encode hb]; nofun
  | ascii =>
    have hb := h.bytes
    refine ⟨AsciiApplicationLayer.COLON :: AsciiApplicationLayer.hexBody adu ++
      [AsciiApplicationLayer.CR, AsciiApplicationLayer.LF], {},
      AsciiApplicationLayer.decode (AsciiApplicationLayer.hexBody adu),
      by simp [layer, AsciiApplicationLayer.layer, fresh, AsciiApplicationLayer.encode_of_allBytes hb],
      ?_, ?_, ?_⟩
    · rw [serverFrames, AsciiApplicationLayer.handleData_encoded_of_none hb (s := {}) rfl]; rfl
    · rw [AsciiApplicationLayer.decode_hexBody hb]; exact ⟨rfl, rfl, rfl⟩
    · rw [AsciiApplicationLayer.decode_hexBody hb]; nofun
  | tcp =>
    obtain ⟨bytes, layer', hb⟩ := TcpApplicationLayer.encode_isSome h (s := {}) (by decide)
    refine ⟨bytes, layer', TcpApplicationLayer.decode bytes, hb, ?_, ?_, ?_⟩
    · simp [serverFrames, TcpApplicationLayer.handleData_of_encode hb (c := {}) rfl, LayerEvent.framings]
    · rw [TcpApplicationLayer.decode_of_encode hb]; exact ⟨rfl, rfl, rfl⟩
    · rw [TcpApplicationLayer.decode_of_encode hb]
      rintro t ⟨⟩
      exact (TcpApplicationLayer.encode_eq_some hb).1

/-- The server's encoding of a valid ADU, delivered to a client that waits with pre-checks its
frame passes, invokes the wait callback with that frame. -/
theorem reply_delivered (v : Variant) {adu : ApplicationDataUnit} (h : adu.Valid) :
    ∃ bytes f, v.serverEncode adu = some bytes ∧ f.Carries adu ∧
      ∀ (checks : List PreCheck) (k : Nat) (s : v.State), v.layer.preCheck checks f = none →
        LayerEvent.callbacks (v.layer.handleData bytes (v.layer.startWaitingResponse checks k s)).2 =
          [(k, .ok f)] := by
  cases v with
  | rtu t =>
    obtain ⟨bytes, hb⟩ := RtuApplicationLayer.encode_isSome h
    refine ⟨bytes, RtuApplicationLayer.decode bytes, hb, ?_, fun checks k s hpre => ?_⟩
    · rw [RtuApplicationLayer.decode_of_encode hb]; exact ⟨rfl, rfl, rfl⟩
    · simp [layer, RtuApplicationLayer.layer,
        RtuApplicationLayer.handleData_startWaitingResponse hb hpre]
  | ascii =>
    have hb := h.bytes
    refine ⟨_, AsciiApplicationLayer.decode (AsciiApplicationLayer.hexBody adu),
      AsciiApplicationLayer.encode_of_allBytes hb, ?_, fun checks k s hpre => ?_⟩
    · rw [AsciiApplicationLayer.decode_hexBody hb]; exact ⟨rfl, rfl, rfl⟩
    · simp only [layer, AsciiApplicationLayer.layer] at hpre ⊢
      rw [AsciiApplicationLayer.handleData_encoded_of_some rfl, AsciiApplicationLayer.framing_hexBody hb]
      simp [hpre]
  | tcp =>
    obtain ⟨bytes, layer', hb⟩ := TcpApplicationLayer.encode_isSome h (s := {}) (by decide)
    refine ⟨bytes, TcpApplicationLayer.decode bytes, by simp [serverEncode, hb], ?_,
      fun checks k s hpre => ?_⟩
    · rw [TcpApplicationLayer.decode_of_encode hb]; exact ⟨rfl, rfl, rfl⟩
    · simp [layer, TcpApplicationLayer.layer, TcpApplicationLayer.handleData_startWaitingResponse hb hpre]

/-- Checks that each return `true` or the exact, non-zero data length pass, in every variant. -/
theorem preCheck_eq_none (v : Variant) {checks : List PreCheck} {frame : Frame}
    (h : ∀ c ∈ checks, c frame = .bool true ∨
      (c frame = .number frame.data.length ∧ 0 < frame.data.length)) :
    v.layer.preCheck checks frame = none := by
  cases v with
  | rtu t => exact preCheckLoop_eq_none h
  | ascii => exact AsciiApplicationLayer.preCheck_eq_none h
  | tcp => exact preCheckLoop_eq_none h

end Variant

/-! ## Encoding and framing invert each other -/

/-- With no wait registered, RTU and MBAP framing invert their layer's `encode`: an ADU of bytes
(for MBAP a valid one, sent with its own transaction or the layer's counter) frames back to its
unit, fc and data, and every byte buffer the framer accepts is what `encode` writes for the frame
it reads. -/
theorem encode_framing_inverse :
    (∀ adu : ApplicationDataUnit, AllBytes adu.bytes →
      ∃ bytes, RtuApplicationLayer.encode adu = some bytes ∧
        RtuApplicationLayer.framing none bytes =
          .ok { unit := adu.unit, fc := adu.fc, data := adu.data, buffer := bytes }) ∧
    (∀ (buffer : List Nat) (f : Frame), AllBytes buffer →
      RtuApplicationLayer.framing none buffer = .ok f →
      RtuApplicationLayer.encode f.toApplicationDataUnit = some buffer) ∧
    (∀ (adu : ApplicationDataUnit) (s : TcpApplicationLayer), adu.Valid → s.transactionId < 65536 →
      ∃ bytes s', TcpApplicationLayer.encode adu s = some (bytes, s') ∧
        TcpApplicationLayer.framing none bytes =
          .ok { transaction := some (adu.transaction.getD s.transactionId), unit := adu.unit,
                fc := adu.fc, data := adu.data, buffer := bytes }) ∧
    (∀ (buffer : List Nat) (f : Frame) (s : TcpApplicationLayer), AllBytes buffer →
      TcpApplicationLayer.framing none buffer = .ok f →
      ∃ s', TcpApplicationLayer.encode f.toApplicationDataUnit s = some (buffer, s')) :=
  ⟨fun _ h => RtuApplicationLayer.framing_encode h,
    fun _ _ hb h => RtuApplicationLayer.encode_of_framing hb h,
    fun _ _ h hs => TcpApplicationLayer.framing_encode h hs,
    fun _ _ s hb h => ⟨_, TcpApplicationLayer.encode_of_framing hb h s⟩⟩

/-! ## One request over the wire -/

/-- One request from a new client over `v` to `slave`: the calls the server's models received
and the client's state once every reply has arrived. -/
def exchange (v : Variant) (slave : ModbusSlave) (r : WaitRequest) :
    Option (List Call × MasterState v.State) := do
  let issued ← ({ layer := v.fresh } : MasterState v.State).step v.layer (.request r)
  let frames := v.serverFrames ((issued.requests.getLast?.map (·.2)).getD [])
  let runs := frames.flatMap fun f => slave.dispatch v.serverEncode f.toApplicationDataUnit
  let replies := frames.flatMap fun f => slave.transportReplies v.serverEncode f.toApplicationDataUnit
  let answered ← issued.run v.layer (.writeCompletes :: replies.map .data)
  pure (runs.flatMap (·.2.calls), answered)

/-- A unicast request to a unit whose model, with no interceptor, answers any frame carrying
it with the data `d` and the calls `calls`, where the client's pre-checks accept any frame
carrying the answer, is resolved by the client with the frame of that answer. -/
theorem exchange_resolves {v : Variant} {slave : ModbusSlave} {r : WaitRequest}
    {model : ModbusSlaveModel} (hbc : r.broadcast = false) (hr : r.adu.Valid) (hu : r.adu.unit ≠ 0)
    (hm : slave.models.lookup r.adu.unit = some model) (hi : model.interceptor = none)
    {calls : List Call} {d : List Nat} (hd : AllBytes d) (hdl : d.length ≤ 65533)
    (hserve : ∀ (f : ApplicationDataUnit) (bytes : List Nat), f.unit = r.adu.unit → f.fc = r.adu.fc →
      f.data = r.adu.data → v.serverEncode { f with data := d } = some bytes →
      ModbusSlave.handleFC v.serverEncode model f = { calls, replies := [bytes] })
    (hpre : ∀ f : Frame, f.unit = r.adu.unit → f.fc = r.adu.fc → f.data = d →
      v.layer.preCheck r.preCheck f = none) :
    ∃ f s, f.unit = r.adu.unit ∧ f.fc = r.adu.fc ∧ f.data = d ∧
      exchange v slave r = some (calls, s) ∧ s.settlements = [⟨0, .callback, .resolved (some f)⟩] := by
  obtain ⟨bytes, layer, f, henc, hframes, hcarry, htr⟩ := v.request_delivered hr
  have hreply : ({ f.toApplicationDataUnit with data := d } : ApplicationDataUnit).Valid :=
    ⟨hcarry.unit ▸ hr.unit, hcarry.fc ▸ hr.fc, hd, hdl, htr⟩
  obtain ⟨reply, f', hsend, hcarry', hcb⟩ := v.reply_delivered hreply
  have hrun := hserve f.toApplicationDataUnit reply hcarry.unit hcarry.fc hcarry.data hsend
  have hfu : f.unit ≠ 0 := hcarry.unit ▸ hu
  have hfm : slave.models.lookup f.unit = some model := hcarry.unit ▸ hm
  have hdispatch : slave.dispatch v.serverEncode f.toApplicationDataUnit =
      [(f.unit, { calls, replies := [reply] })] := by
    rw [ModbusSlave.dispatch_unicast hfu hfm, ModbusSlave.dispatchModel_of_interceptor hi, hrun]
  have hreplies : slave.transportReplies v.serverEncode f.toApplicationDataUnit = [reply] := by
    rw [ModbusSlave.transportReplies_unicast hfu hfm, ModbusSlave.dispatchModel_of_interceptor hi, hrun]
  have hstep := MasterState.step_data_first (L := v.layer) r bytes
    (hcb r.preCheck 0 layer (hpre f' (hcarry'.unit.trans hcarry.unit) (hcarry'.fc.trans hcarry.fc)
      hcarry'.data))
  exact ⟨f', _, hcarry'.unit.trans hcarry.unit, hcarry'.fc.trans hcarry.fc, hcarry'.data,
    by simp [exchange, MasterState.step_request_init, henc, hframes, hdispatch, hreplies,
      MasterState.run, MasterState.step_writeCompletes_first hbc, hstep]; rfl, by rfl⟩

end NjsModbus
