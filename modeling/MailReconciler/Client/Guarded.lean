/-
Guarded calls: every attempt passes the breaker, and the retries stand around it.
-/
import MailReconciler.Breaker.Basic
import MailReconciler.Client.Call
import MailReconciler.Failure.Call
import MailReconciler.Retry.Run

namespace MailReconciler

/-- What a breaker reads the time from: the time of the run, or a clock that is moved by hand. -/
inductive BreakerClock where
  | ofRun
  | byHand (nanos : Nat)
deriving Repr, DecidableEq

/-- The instant that a clock shows at an instant of the run. -/
def BreakerClock.read : BreakerClock → Instant → Instant
  | .ofRun, now => now
  | .byHand nanos, _ => nanos

/-- Moves a clock by hand; the time of the run is not moved. -/
def BreakerClock.advance (nanos : Nat) : BreakerClock → BreakerClock
  | .ofRun => .ofRun
  | .byHand elapsed => .byHand (elapsed + nanos)

/-- A remote state behind a breaker. -/
structure Guarded (ρ : Type) where
  breaker : Breaker
  clock : BreakerClock
  remote : ρ

/-- What a client works on: the samples, the random words, the breaker and the remote state. -/
abbrev World (ρ : Type) := Recorded (Guarded ρ)

namespace World

variable {ρ ε α : Type}

/-- The same world with another remote state. -/
def setRemote (remote : ρ) (w : World ρ) : World ρ := { w with state := { w.state with remote } }

/-- Lets a step of the breaker happen and emits its samples. -/
def onBreaker (f : Breaker → Instant → α × Breaker × List Sample) (now : Instant) (w : World ρ) : α × World ρ :=
  let (a, breaker, samples) := f w.state.breaker (w.state.clock.read now)
  (a, Recorded.emit samples { w with state := { w.state with breaker } })

/-- Asks the breaker whether a call may proceed. -/
def allow : Instant → World ρ → Bool × World ρ := onBreaker Breaker.allow

/-- Records the outcome of a call. -/
def record (succeeded : Bool) (now : Instant) (w : World ρ) : World ρ :=
  (onBreaker (fun b at' => ((), b.record at' succeeded)) now w).2

/-- Closes the breaker by hand. -/
def reset (w : World ρ) : World ρ := (onBreaker (fun b _ => ((), b.reset)) 0 w).2

end World

variable {ρ ε α : Type}

/-- Runs an operation on the remote state if the breaker admits it, under a scope, and records its outcome. What the
scope ends leaves no outcome. -/
def throughBreaker (scope : Scope) (op : Work ρ (Except ε α)) : Work (World ρ) (Except (BreakerFailure ε) α) := do
  let name ← Work.look fun _ w => w.state.breaker.name
  if ← Work.step World.allow then
    match ← (op.onPart (fun w : World ρ => w.state.remote) World.setRemote).within scope with
    | .error reason => return .error (.interrupted name reason)
    | .ok (.ok value) =>
      Work.change (World.record true)
      return .ok value
    | .ok (.error e) =>
      Work.change (World.record false)
      return .error (.operation e)
  else
    return .error (.rejected name)

/-- The end of a guarded call: how many attempts it made, and its result. -/
structure CallRun (α : Type) where
  attempts : Nat
  result : Except CallFailure α

/-- Makes a guarded call: up to the allowed attempts of an operation, counted from one, each through the breaker. -/
def guarded (policy : Policy) (scope : Scope) (operation : String) (op : Nat → Work ρ (Except ApiFailure α)) :
    Work (World ρ) (CallRun α) := do
  let run ← Retry.run policy scope operation fun attempt => throughBreaker scope (op attempt)
  return ⟨run.attempts, run.result.mapError CallFailure.ofRetry⟩

/-- A client of a service: the retry policy of its calls. -/
structure Client (ρ : Type) where
  service : Service ρ
  policy : Policy

/-- Makes one call of the remote API. -/
def Client.call (client : Client ρ) (scope : Scope) (call : Call α) : Work (World ρ) (Except CallFailure α) := do
  return (← guarded client.policy scope call.name fun _ => client.service.perform call).result

end MailReconciler
