import NjsModbus.Types

/-!
# `AbstractApplicationLayer`: what the client needs of a framer

`src/layers/application/abstract-application-layer.ts` declares `encode`,
`startWaitingResponse` and `stopWaitingResponse`; the client (`ModbusMaster.waitResponse`)
additionally relies on how each framer's `'data'` listener treats the response-wait slot. This
file states both: the operations over a layer state `σ`, and `Lawful`, the five facts about the
slot that every one of the RTU, ASCII and MBAP layers satisfies (proved in their own files) and
from which the client's run invariants (`Master/WaitResponse.lean`) are derived once.

The wait callback that `waitResponse` registers stops the wait before it settles the request;
the layers' `handleData` perform that `stopWaitingResponse` as part of invoking the callback.
-/

namespace NjsModbus

/-- The operations of an application layer, over its state `σ`. -/
structure AbstractApplicationLayer (σ : Type) where
  /-- `_waitingResponse`. -/
  waitingResponse : σ → Option WaitingResponse
  /-- Whether the layer's own timer (the RTU 3.5T timer) is armed. -/
  timerArmed : σ → Bool
  startWaitingResponse : List PreCheck → Nat → σ → σ
  stopWaitingResponse : σ → σ
  /-- `encode`: the bytes, and the state after it (the MBAP transaction counter), or `none`
  where it throws. -/
  encode : ApplicationDataUnit → σ → Option (List Nat × σ)
  /-- The transport's `'data'` listener on one burst. -/
  handleData : List Nat → σ → σ × List LayerEvent
  /-- The layer's own timer firing. -/
  timerFires : σ → σ × List LayerEvent
  /-- The pre-check loop of the layer's `framing`. -/
  preCheck : List PreCheck → Frame → Option Error

namespace AbstractApplicationLayer

variable {σ : Type}

/-- What every framer guarantees about its response-wait slot. -/
structure Lawful (L : AbstractApplicationLayer σ) : Prop where
  waitingResponse_start : ∀ p k s,
    L.waitingResponse (L.startWaitingResponse p k s) = some ⟨p, k⟩
  timerArmed_start : ∀ p k s, L.timerArmed (L.startWaitingResponse p k s) = false
  waitingResponse_stop : ∀ s, L.waitingResponse (L.stopWaitingResponse s) = none
  /-- Encoding leaves the slot and the timer alone. -/
  encode_slot : ∀ a s b s', L.encode a s = some (b, s') →
    L.waitingResponse s' = L.waitingResponse s ∧ L.timerArmed s' = L.timerArmed s
  /-- With no wait registered, a burst invokes no callback and registers none. -/
  handleData_idle : ∀ d s, L.waitingResponse s = none →
    LayerEvent.callbacks (L.handleData d s).2 = [] ∧ L.waitingResponse (L.handleData d s).1 = none
  /-- With a wait registered, a burst either leaves it registered (and the timer as it was)
  or invokes its callback exactly once, with a frame that passed its pre-checks, and stops it. -/
  handleData_waiting : ∀ d s w, L.waitingResponse s = some w →
    (LayerEvent.callbacks (L.handleData d s).2 = [] ∧
      L.waitingResponse (L.handleData d s).1 = some w ∧
      L.timerArmed (L.handleData d s).1 = L.timerArmed s) ∨
    (∃ res, LayerEvent.callbacks (L.handleData d s).2 = [(w.callback, res)] ∧
      L.waitingResponse (L.handleData d s).1 = none ∧
      ∀ f, res = .ok f → L.preCheck w.preCheck f = none)
  /-- The layer's timer invokes no callback and registers no wait. -/
  timerFires_idle : ∀ s, L.waitingResponse s = none →
    LayerEvent.callbacks (L.timerFires s).2 = [] ∧ L.waitingResponse (L.timerFires s).1 = none

end AbstractApplicationLayer

end NjsModbus
