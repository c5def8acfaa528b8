import NjsModbus.Layers.Rtu

/-!
# The RTU layer's reception over a run

`rtu-application-layer.ts` works out the layer's 3.5T interval once, in its constructor, and
then frames what arrives in one of two ways, chosen by that interval alone:

* on a serial transport (`threePointFiveT ≠ 0`) each burst is appended to `_bufferRx` and
  (re)arms the 3.5T timer, and only the timer's firing frames the buffer;
* on any other transport (`threePointFiveT = 0`) every burst is framed at once and the buffer
  reset.

This file runs a layer that no one waits on (a server's, or a client's between requests) over
a list of `Input`s (bursts, firings of the timer, and the transport's `'close'`, which clears the
timer and the buffer) and states what it emits against a description that has no timer in it:

* `inputs_quietPeriods`: on a serial transport the layer emits, in order, the frames of the
  quiet periods of the run (`quietPeriods`: the bytes between two firings, a close dropping the
  bytes before it), one frame for each period whose bytes frame and nothing else;
* `inputs_bursts`: on any other transport it emits the frames of the bursts taken one at a
  time, so a frame that reaches it split over two bursts is never emitted.
-/

namespace NjsModbus

namespace RtuApplicationLayer

/-! ## The constructor's 3.5T interval -/

/-- The constructor's `intervalBetweenFrames` option, `` `${number}bit` `` or
`` `${number}ms` ``. -/
inductive IntervalBetweenFrames where
  | bit (n : Nat)
  | ms (n : Nat)
  deriving DecidableEq, Repr

/-- `getThreePointFiveT(baudRate, approximation)`: `(approximation * 1000) / baudRate` ms. -/
def getThreePointFiveT (baudRate approximation : Nat) : ℚ :=
  approximation * 1000 / baudRate

/-- `intervalBetweenFrames ? Number(intervalBetweenFrames.slice(0, -3)) : 48`: the bits of a
`bit` override, 48 without one (an `ms` override never gets here). -/
def approximationOf : Option IntervalBetweenFrames → Nat
  | some (.bit n) => n
  | _ => 48

/-- The constructor's `threePointFiveT`, for a transport that is serial with baud rate
`baudRate` (`some baudRate`) or is not (`none`): `0` off a serial line, an `ms` override as
it is, and otherwise `Math.ceil` of `1.8` above 19200 baud and of `getThreePointFiveT` at or
below it. -/
def threePointFiveTOf (serial : Option Nat) (intervalBetweenFrames : Option IntervalBetweenFrames) :
    Nat :=
  match serial, intervalBetweenFrames with
  | none, _ => 0
  | some _, some (.ms n) => n
  | some baudRate, i =>
    (Int.ceil (if baudRate > 19200 then (9 / 5 : ℚ)
      else getThreePointFiveT baudRate (approximationOf i))).toNat

/-- A serial line with a positive baud rate and no `ms` override gets a positive interval, so
its layer frames on the timer, unless told to count `0bit`. -/
theorem threePointFiveTOf_ne_zero {baudRate : Nat} (hb : 0 < baudRate)
    {i : Option IntervalBetweenFrames} (hms : ∀ n, i ≠ some (.ms n)) (hbits : 0 < approximationOf i) :
    threePointFiveTOf (some baudRate) i ≠ 0 := by
  have hceil : threePointFiveTOf (some baudRate) i = (Int.ceil (if baudRate > 19200 then (9 / 5 : ℚ)
      else getThreePointFiveT baudRate (approximationOf i))).toNat := by
    rcases i with _ | _ | n
    · rfl
    · rfl
    · exact absurd rfl (hms n)
  rw [hceil, ne_eq, Int.toNat_eq_zero, not_le, Int.ceil_pos]
  split_ifs
  · norm_num
  · have : (0 : ℚ) < approximationOf i := by exact_mod_cast hbits
    have : (0 : ℚ) < baudRate := by exact_mod_cast hb
    unfold getThreePointFiveT
    positivity

/-! ## Runs of inputs -/

/-- What reaches an RTU layer from outside: a burst from the transport, its 3.5T timer firing,
or the transport's `'close'`. -/
inductive Input where
  | data (bytes : List Nat)
  | timer
  | close
  deriving DecidableEq, Repr

/-- The bytes of a burst. -/
def Input.burst : Input → Option (List Nat)
  | .data bytes => some bytes
  | _ => none

/-- One input. A timer that `clearTimeout` cleared, or that was never armed, does not fire. -/
def input (threePointFiveT : Nat) (s : RtuApplicationLayer) : Input → RtuApplicationLayer × List LayerEvent
  | .data bytes => handleData threePointFiveT bytes s
  | .timer => if s.timerThreePointFive then timerFires s else (s, [])
  | .close => (handleClose s, [])

/-- A run of inputs: the layer at the end, and every event of the run in order. -/
def inputs (threePointFiveT : Nat) : RtuApplicationLayer → List Input → RtuApplicationLayer × List LayerEvent
  | s, [] => (s, [])
  | s, i :: rest =>
    ((inputs threePointFiveT (input threePointFiveT s i).1 rest).1,
      (input threePointFiveT s i).2 ++ (inputs threePointFiveT (input threePointFiveT s i).1 rest).2)

theorem inputs_append (threePointFiveT : Nat) (a b : List Input) (s : RtuApplicationLayer) :
    inputs threePointFiveT s (a ++ b) =
      ((inputs threePointFiveT (inputs threePointFiveT s a).1 b).1,
        (inputs threePointFiveT s a).2 ++ (inputs threePointFiveT (inputs threePointFiveT s a).1 b).2) := by
  induction a generalizing s with
  | nil => rfl
  | cons i rest ih => simp [inputs, ih]

/-- `receive`, the burst-then-silence the exchanges of `Exchange/` assume, is the run of that
burst and one firing of the timer. -/
theorem receive_eq_inputs (threePointFiveT : Nat) (bytes : List Nat) (s : RtuApplicationLayer) :
    receive threePointFiveT bytes s = inputs threePointFiveT s [.data bytes, .timer] := by
  simp only [receive, inputs, input, List.append_nil]
  split <;> simp

/-! ## The frames of a buffer -/

/-- Spec side: the frame a layer with no wait registered makes of a buffer, if it makes one. -/
def frameOf (buffer : List Nat) : Option Frame := (framing none buffer).toOption

@[simp] theorem frameOf_nil : frameOf [] = none := rfl

/-- With no wait registered, `flush` emits the buffer's frame, if any, and empties the buffer. -/
theorem flush_of_none {s : RtuApplicationLayer} (h : s.waitingResponse = none) :
    flush s = ({ s with bufferRx := [] }, (frameOf s.bufferRx).toList.map .framing) := by
  simp only [flush, h, frameOf]
  cases framing none s.bufferRx <;> rfl

/-! ## Serial transports: quiet periods -/

/-- Spec side: one input's effect on the quiet periods ended so far and the bytes of the one
still open. A burst joins the open period, a firing of the timer ends it, a close drops it. -/
def periodStep : List (List Nat) × List Nat → Input → List (List Nat) × List Nat
  | (ended, pending), .data bytes => (ended, pending ++ bytes)
  | (ended, pending), .timer => (ended ++ [pending], [])
  | (ended, _), .close => (ended, [])

/-- Spec side: the quiet periods of a run; `.1` lists the bytes each ended period received, in
order, and `.2` is the bytes of the period still open. -/
def quietPeriods (is : List Input) : List (List Nat) × List Nat := is.foldl periodStep ([], [])

/-- The periods ended before a run stay ahead of those the run ends. -/
theorem foldl_periodStep (is : List Input) (ended : List (List Nat)) (pending : List Nat) :
    is.foldl periodStep (ended, pending) =
      (ended ++ (is.foldl periodStep ([], pending)).1, (is.foldl periodStep ([], pending)).2) := by
  induction is generalizing ended pending with
  | nil => simp
  | cons i rest ih =>
    cases i with
    | data bytes => exact ih ended _
    | timer =>
      simp only [List.foldl_cons, periodStep, List.nil_append]
      rw [ih _ [], ih [pending] []]
      simp
    | close => exact ih ended []

/-- The run of a serial layer with no wait registered, from any state in which an unarmed
timer goes with an empty buffer: what the layer already holds opens the first quiet period. -/
theorem inputs_periodStep {t : Nat} (ht : t ≠ 0) :
    ∀ (is : List Input) (s : RtuApplicationLayer), s.waitingResponse = none →
      (s.timerThreePointFive = false → s.bufferRx = []) →
      (inputs t s is).2 = ((is.foldl periodStep ([], s.bufferRx)).1.filterMap frameOf).map .framing ∧
        (inputs t s is).1.bufferRx = (is.foldl periodStep ([], s.bufferRx)).2
  | [], s, _, _ => by simp [inputs]
  | .data bytes :: rest, s, hw, _ => by
    have ih := inputs_periodStep ht rest
      { s with bufferRx := s.bufferRx ++ bytes, timerThreePointFive := true } hw nofun
    simpa [inputs, input, handleData_of_none hw, ht, periodStep] using ih
  | .timer :: rest, s, hw, hb => by
    cases harmed : s.timerThreePointFive with
    | false =>
      -- a cleared timer: the buffer is empty and the period it would end frames nothing
      have ih := inputs_periodStep ht rest s hw hb
      rw [hb harmed] at ih ⊢
      simpa [inputs, input, harmed, periodStep, foldl_periodStep _ [[]]] using ih
    | true =>
      have ih := inputs_periodStep ht rest
        { s with timerThreePointFive := false, bufferRx := [] } hw fun _ => rfl
      simp only [inputs, input, harmed, if_true, timerFires,
        flush_of_none (s := { s with timerThreePointFive := false }) hw, List.foldl_cons, periodStep,
        List.nil_append, foldl_periodStep _ [s.bufferRx], ih]
      rcases hf : frameOf s.bufferRx with _ | f <;> simp [hf]
  | .close :: rest, s, hw, _ => by
    have ih := inputs_periodStep ht rest (handleClose s) hw fun _ => rfl
    simpa [inputs, input, periodStep] using ih

/-- On a serial transport, a layer with no wait registered and an empty buffer emits, over any
run, exactly the frames of the run's quiet periods, in order: one for each period whose bytes,
joined, frame, and nothing else; the bytes of the period still open wait in the buffer. -/
theorem inputs_quietPeriods {t : Nat} (ht : t ≠ 0) {s : RtuApplicationLayer}
    (hw : s.waitingResponse = none) (hb : s.bufferRx = []) (is : List Input) :
    (inputs t s is).2 = ((quietPeriods is).1.filterMap frameOf).map .framing ∧
      (inputs t s is).1.bufferRx = (quietPeriods is).2 := by
  simpa [hb] using inputs_periodStep ht is s hw fun _ => hb

theorem inputs_quietPeriods_splitRequest :
    (1 ≠ 0 ∧ ({} : RtuApplicationLayer).waitingResponse = none ∧ ({} : RtuApplicationLayer).bufferRx = []) ∧
      (inputs 1 {} [.data [1, 3], .data [0, 0, 0, 1, 0x84, 0x0a], .timer]).2 =
        ((quietPeriods [.data [1, 3], .data [0, 0, 0, 1, 0x84, 0x0a], .timer]).1.filterMap frameOf).map .framing ∧
      (inputs 1 {} [.data [1, 3], .data [0, 0, 0, 1, 0x84, 0x0a], .timer]).1.bufferRx =
        (quietPeriods [.data [1, 3], .data [0, 0, 0, 1, 0x84, 0x0a], .timer]).2 :=
  ⟨⟨by decide, rfl, rfl⟩, inputs_quietPeriods (by decide) rfl rfl _⟩

/-! ## Other transports: one burst at a time -/

/-- Off a serial line, a layer with no wait registered and an empty buffer emits, over any run,
exactly the frames of its bursts taken one at a time, and its buffer stays empty: bytes of one
frame that arrive in two bursts are never put back together. -/
theorem inputs_bursts :
    ∀ (is : List Input) {s : RtuApplicationLayer}, s.waitingResponse = none → s.bufferRx = [] →
      (inputs 0 s is).2 = ((is.filterMap Input.burst).filterMap frameOf).map .framing ∧
        (inputs 0 s is).1.bufferRx = []
  | [], _, _, hb => ⟨rfl, hb⟩
  | .data bytes :: rest, s, hw, hb => by
    have ih := inputs_bursts rest (s := { s with bufferRx := [], timerThreePointFive := false }) hw rfl
    have hflush := flush_of_none (s := { s with bufferRx := bytes, timerThreePointFive := false }) hw
    simp only [inputs, input, handleData_of_none hw, hb, List.nil_append, ne_eq, not_true_eq_false,
      if_false, hflush]
    refine ⟨?_, ih.2⟩
    rw [ih.1]
    rcases hf : frameOf bytes with _ | f <;> simp [Input.burst, hf]
  | .timer :: rest, s, hw, hb => by
    cases harmed : s.timerThreePointFive with
    | false => simpa [inputs, input, harmed, Input.burst] using inputs_bursts rest hw hb
    | true =>
      have ih := inputs_bursts rest (s := { s with timerThreePointFive := false, bufferRx := [] }) hw rfl
      simpa [inputs, input, harmed, timerFires,
        flush_of_none (s := { s with timerThreePointFive := false }) hw, hb, Input.burst] using ih
  | .close :: rest, s, hw, _ => by
    simpa [inputs, input, Input.burst] using inputs_bursts rest (s := handleClose s) hw rfl

theorem inputs_bursts_splitRequest :
    (({} : RtuApplicationLayer).waitingResponse = none ∧ ({} : RtuApplicationLayer).bufferRx = []) ∧
      (inputs 0 {} [.data [1, 3], .data [0, 0, 0, 1, 0x84, 0x0a]]).2 =
        (([Input.data [1, 3], .data [0, 0, 0, 1, 0x84, 0x0a]].filterMap Input.burst).filterMap frameOf).map .framing ∧
      (inputs 0 {} [.data [1, 3], .data [0, 0, 0, 1, 0x84, 0x0a]]).1.bufferRx = [] :=
  ⟨⟨rfl, rfl⟩, inputs_bursts _ rfl rfl⟩

end RtuApplicationLayer

end NjsModbus
