import NjsModbus.Utils

/-!
# Frames, errors and the pre-check pipeline

`ApplicationDataUnit` and the frames the application layers decode, the `Error`s they report,
and the pre-check pipeline of the response-wait mode (spec §4.2).

A pre-check returns `boolean | number | undefined` (`CheckResult`). The RTU and MBAP framers run
the list with the same loop, `preCheckLoop`; the ASCII framer compares lengths the other way
round and keeps its own loop (`AsciiApplicationLayer.preCheck`).
-/

namespace NjsModbus

/-- `ApplicationDataUnit`: the transaction is present only on MBAP frames. -/
structure ApplicationDataUnit where
  transaction : Option Nat := none
  unit : Nat
  fc : Nat
  data : List Nat
  deriving DecidableEq, Repr

/-- Unit, function code and data in a row: what the RTU and ASCII framings checksum. -/
def ApplicationDataUnit.bytes (adu : ApplicationDataUnit) : List Nat := adu.unit :: adu.fc :: adu.data

@[simp] theorem ApplicationDataUnit.length_bytes (adu : ApplicationDataUnit) :
    adu.bytes.length = adu.data.length + 2 := by
  simp [bytes]

/-- An ADU every framing carries: byte fields, a data length the MBAP length field can count,
and a 16-bit transaction. -/
structure ApplicationDataUnit.Valid (adu : ApplicationDataUnit) : Prop where
  unit : adu.unit < 256
  fc : adu.fc < 256
  data : AllBytes adu.data
  length : adu.data.length ≤ 65533
  transaction : ∀ t ∈ adu.transaction, t < 65536

theorem ApplicationDataUnit.Valid.bytes {adu : ApplicationDataUnit} (h : adu.Valid) :
    AllBytes adu.bytes := by
  simp [ApplicationDataUnit.bytes, h.unit, h.fc, h.data]

/-- `ApplicationDataUnit & { buffer: Buffer }`: a decoded frame with the bytes it came from. -/
structure Frame extends ApplicationDataUnit where
  buffer : List Nat
  deriving DecidableEq, Repr

/-- A frame carries an ADU's unit, function code and data. -/
structure Frame.Carries (f : Frame) (adu : ApplicationDataUnit) : Prop where
  unit : f.unit = adu.unit
  fc : f.fc = adu.fc
  data : f.data = adu.data

/-- A JavaScript `Error`, known by its message. -/
structure Error where
  message : String
  deriving DecidableEq, Repr

def insufficientDataLength : Error := ⟨"Insufficient data length"⟩
def invalidResponse : Error := ⟨"Invalid response"⟩
def invalidData : Error := ⟨"Invalid data"⟩
def crcCheckFailed : Error := ⟨"CRC check failed"⟩
def lrcCheckFailed : Error := ⟨"LRC check failed"⟩
def timeoutError : Error := ⟨"Timeout"⟩

/-- `ServerId`: what `reportServerId` reports, each field optional. -/
structure ServerId where
  serverId : Option Nat := none
  runIndicatorStatus : Option Bool := none
  additionalData : Option (List Nat) := none
  deriving DecidableEq, Repr

/-! ## Pre-checks -/

/-- What a pre-check returns: `boolean | number | undefined`. -/
inductive CheckResult where
  | bool (b : Bool)
  | number (n : Nat)
  | undefined
  deriving DecidableEq, Repr

/-- A pre-check of the response-wait mode. -/
abbrev PreCheck := Frame → CheckResult

/-- The pre-check loop of the RTU and MBAP framers: the first failing check's error, or `none`
when every check passes. A number `res` is "Insufficient data length" when `res` is *below*
the data length and "Invalid response" when it differs otherwise; `0` then fails `!res`. -/
def preCheckLoop (checks : List PreCheck) (frame : Frame) : Option Error :=
  match checks with
  | [] => none
  | check :: rest =>
    match check frame with
    | .undefined => some insufficientDataLength
    | .number res =>
      if res < frame.data.length then some insufficientDataLength
      else if res ≠ frame.data.length then some invalidResponse
      else if res = 0 then some invalidResponse
      else preCheckLoop rest frame
    | .bool b => if b then preCheckLoop rest frame else some invalidResponse

@[simp] theorem preCheckLoop_nil (frame : Frame) : preCheckLoop [] frame = none := rfl

theorem preCheckLoop_cons_bool {check : PreCheck} {frame : Frame} {b : Bool}
    (h : check frame = .bool b) (rest : List PreCheck) :
    preCheckLoop (check :: rest) frame = if b then preCheckLoop rest frame else some invalidResponse := by
  simp [preCheckLoop, h]

theorem preCheckLoop_cons_number {check : PreCheck} {frame : Frame} {res : Nat}
    (h : check frame = .number res) (rest : List PreCheck) :
    preCheckLoop (check :: rest) frame =
      if res < frame.data.length then some insufficientDataLength
      else if res ≠ frame.data.length then some invalidResponse
      else if res = 0 then some invalidResponse
      else preCheckLoop rest frame := by
  simp only [preCheckLoop, h]

/-- A list of checks that each return `true` or the exact, non-zero data length passes. -/
theorem preCheckLoop_eq_none {checks : List PreCheck} {frame : Frame}
    (h : ∀ c ∈ checks, c frame = .bool true ∨
      (c frame = .number frame.data.length ∧ 0 < frame.data.length)) :
    preCheckLoop checks frame = none := by
  induction checks with
  | nil => rfl
  | cons c rest ih =>
    have hrest := ih fun c' hc' => h c' (List.mem_cons_of_mem c hc')
    rcases h c (List.mem_cons_self c rest) with hc | ⟨hc, hpos⟩
    · rw [preCheckLoop_cons_bool hc, if_pos rfl, hrest]
    · rw [preCheckLoop_cons_number hc]; simp [hrest, Nat.pos_iff_ne_zero.mp hpos]

/-! ## The response-wait slot and what a layer reports -/

instance instDecidableEqExcept {ε α : Type} [DecidableEq ε] [DecidableEq α] : DecidableEq (Except ε α)
  | .error a, .error b => if h : a = b then isTrue (h ▸ rfl) else isFalse fun h' => h (by cases h'; rfl)
  | .ok a, .ok b => if h : a = b then isTrue (h ▸ rfl) else isFalse fun h' => h (by cases h'; rfl)
  | .error _, .ok _ => isFalse nofun
  | .ok _, .error _ => isFalse nofun

/-- `_waitingResponse`: the registered pre-checks and the wait callback, which is the closure
of the `waitResponse` call that registered it and is named here by that request's number. -/
structure WaitingResponse where
  preCheck : List PreCheck
  callback : Nat

/-- What an application layer does with a decoded (or failed) frame: invoke the wait callback
or emit a `'framing'` event. -/
inductive LayerEvent where
  | callback (request : Nat) (result : Except Error Frame)
  | framing (frame : Frame)
  deriving DecidableEq

/-- The wait-callback invocations among a layer's events. -/
def LayerEvent.callbacks : List LayerEvent → List (Nat × Except Error Frame)
  | [] => []
  | .callback k r :: rest => (k, r) :: callbacks rest
  | .framing _ :: rest => callbacks rest

@[simp] theorem LayerEvent.callbacks_nil : callbacks [] = [] := rfl

@[simp] theorem LayerEvent.callbacks_callback (k : Nat) (r : Except Error Frame)
    (rest : List LayerEvent) : callbacks (.callback k r :: rest) = (k, r) :: callbacks rest := rfl

@[simp] theorem LayerEvent.callbacks_framing (f : Frame) (rest : List LayerEvent) :
    callbacks (.framing f :: rest) = callbacks rest := rfl

/-- The frames among a layer's events. -/
def LayerEvent.framings : List LayerEvent → List Frame
  | [] => []
  | .callback _ _ :: rest => framings rest
  | .framing f :: rest => f :: framings rest

@[simp] theorem LayerEvent.callbacks_append (l l' : List LayerEvent) :
    callbacks (l ++ l') = callbacks l ++ callbacks l' := by
  induction l with
  | nil => rfl
  | cons e rest ih => cases e <;> simp [ih]

end NjsModbus
