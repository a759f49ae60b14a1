/-
The circuit breaker of one dependency. Closed, it lets calls through and opens after a streak of failures; open, it
rejects them until a quiet time has passed since the last failure; half open, it lets trial calls through and closes
after enough successes or opens again at the first failure. Every change of state is announced by samples.
-/
import MailReconciler.Failure.Setup
import MailReconciler.Metrics.Sample

namespace MailReconciler

/-- The state of a breaker. -/
inductive BreakerMode where
  | closed
  | opened
  | halfOpen
deriving Repr, DecidableEq

namespace BreakerMode

/-- The state as messages show it. -/
def message : BreakerMode → String
  | .closed => "CLOSED"
  | .opened => "OPEN"
  | .halfOpen => "HALF_OPEN"

/-- The state as a label of samples. -/
def label : BreakerMode → String
  | .closed => "closed"
  | .opened => "open"
  | .halfOpen => "half_open"

/-- The state as the value of a gauge. -/
def code : BreakerMode → Float
  | .closed => 0.0
  | .opened => 1.0
  | .halfOpen => 2.0

end BreakerMode

/-- The settings of a breaker. -/
structure BreakerSettings where
  /-- Failures in a row that open a closed breaker. -/
  failureThreshold : UInt32 := 5
  /-- The quiet time since the last failure, after which trial calls are let through. -/
  resetTimeout : Duration := .ofSeconds 60
  /-- Successes that close a half-open breaker. -/
  successThreshold : UInt32 := 3
deriving DecidableEq

/-- The settings themselves, when both thresholds are positive. -/
def BreakerSettings.check (s : BreakerSettings) : Except SetupError BreakerSettings :=
  if s.failureThreshold = 0 then
    .error (.setting "circuit_breaker.failure_threshold" "must be greater than 0")
  else if s.successThreshold = 0 then
    .error (.setting "circuit_breaker.half_open_success_threshold" "must be greater than 0")
  else
    .ok s

/-- A breaker. -/
structure Breaker where
  name : String
  settings : BreakerSettings
  mode : BreakerMode
  /-- The state that readers see who do not wait for their turn. -/
  published : BreakerMode
  /-- Failures in a row, at most the largest number of thirty-two bits. -/
  failures : Nat
  /-- Successes since the breaker became half open. -/
  trials : Nat
  lastFailure : Option Instant
deriving DecidableEq

namespace Breaker

/-! ## Changes of state -/

/-- Makes a state visible to readers and announces it. -/
def publish (b : Breaker) (mode : BreakerMode) : Breaker × List Sample :=
  ({ b with published := mode }, [.gauge Family.breakerState mode.code [("breaker", b.name)]])

/-- Enters a state. A breaker that closes forgets its failures and successes, one that becomes half open its
successes. -/
def enter (b : Breaker) (mode : BreakerMode) : Breaker × List Sample :=
  let entered :=
    match mode with
    | .closed => { b with mode := .closed, failures := 0, trials := 0 }
    | .opened => { b with mode := .opened }
    | .halfOpen => { b with mode := .halfOpen, trials := 0 }
  let (published, samples) := entered.publish mode
  (published, .count Family.transitions
    [("breaker", b.name), ("from", b.mode.label), ("to", mode.label)] :: samples)

/-- A new closed breaker with valid settings. -/
def create (name : String) (settings : BreakerSettings) : Except SetupError (Breaker × List Sample) := do
  let settings ← settings.check
  return publish ⟨name, settings, .closed, .closed, 0, 0, none⟩ .closed

/-! ## Calls -/

/-- Whether the quiet time has passed at an instant; an instant before the last failure counts as that failure's own. -/
def cooled (b : Breaker) (now : Instant) : Bool :=
  b.lastFailure.all fun last => b.settings.resetTimeout.nanos < now - last

/-- Decides whether a call may proceed. An open breaker that has cooled down becomes half open. -/
def allow (b : Breaker) (now : Instant) : Bool × Breaker × List Sample :=
  if b.mode = .opened then
    if b.cooled now then (true, b.enter .halfOpen)
    else (false, b, [.count Family.rejections [("breaker", b.name)]])
  else
    (true, b, [])

/-- Records that a call succeeded. -/
def recordSuccess (b : Breaker) : Breaker × List Sample :=
  match b.mode with
  | .closed => ({ b with failures := 0 }, [])
  | .halfOpen =>
    let b := { b with trials := b.trials + 1 }
    if b.settings.successThreshold.toNat ≤ b.trials then b.enter .closed else (b, [])
  | .opened => (b, [])

/-- Records that a call failed at an instant. -/
def recordFailure (b : Breaker) (now : Instant) : Breaker × List Sample :=
  let b := { b with failures := min (b.failures + 1) (UInt32.size - 1), lastFailure := some now }
  match b.mode with
  | .closed => if b.settings.failureThreshold.toNat ≤ b.failures then b.enter .opened else (b, [])
  | .halfOpen => b.enter .opened
  | .opened => (b, [])

/-- Records the outcome of a call that ended at an instant. -/
def record (b : Breaker) (now : Instant) (succeeded : Bool) : Breaker × List Sample :=
  if succeeded then b.recordSuccess else b.recordFailure now

/-- Closes the breaker by hand and forgets all that it has seen. -/
def reset (b : Breaker) : Breaker × List Sample :=
  let b := { b with failures := 0, trials := 0, lastFailure := none }
  if b.mode = .closed then (b, []) else b.enter .closed

end Breaker
end MailReconciler
