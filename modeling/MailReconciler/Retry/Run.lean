/-
Runs of a retried operation. An attempt that fails is, in this order, the last one allowed, not worth another, or
followed by a wait that ends with the scope at the latest. Every attempt, wait and run leaves a sample.
-/
import MailReconciler.Retry.Classification
import MailReconciler.Retry.Failure
import MailReconciler.Metrics.Sample
import MailReconciler.Work.Scoped

namespace MailReconciler

/-- A state with the samples emitted so far and the random words left. -/
structure Recorded (σ : Type) where
  samples : List Sample
  random : RandomWords
  state : σ

namespace Recorded

variable {σ : Type}

/-- Emits samples. -/
def emit (samples : List Sample) (r : Recorded σ) : Recorded σ := { r with samples := r.samples ++ samples }

end Recorded

namespace Retry

/-- A finished run: how many attempts it made, and its result. -/
structure Run (ε α : Type) where
  attempts : Nat
  result : Except (RetryFailure ε) α

/-- The outcomes that samples tell. -/
inductive Outcome where
  | success
  | failure
  | exhausted
  | permanent
  | cancelled
deriving Repr, DecidableEq

/-- The label of an outcome. -/
def Outcome.label : Outcome → String
  | .success => "success"
  | .failure => "failure"
  | .exhausted => "exhausted"
  | .permanent => "non_retryable"
  | .cancelled => "cancelled"

/-- The sample of an attempt. -/
def attemptSample (operation : String) (outcome : Outcome) : Sample :=
  .count Family.attempts [("operation", operation), ("outcome", outcome.label)]

/-- The sample of a run. -/
def runSample (operation : String) (outcome : Outcome) : Sample :=
  .count Family.runs [("operation", operation), ("outcome", outcome.label)]

variable {σ ε α : Type} [Report ε]

/-- Draws the wait behind an attempt, counted from one, and emits its sample. -/
def beginWait (policy : Policy) (operation : String) (attempt : Nat) : Work (Recorded σ) Duration :=
  .step fun _ r =>
    let (wait, random) := policy.wait (attempt - 1) r.random
    (wait, ({ r with random }).emit [.time Family.backoff wait [("operation", operation)]])

/-- Emits the sample of a run and ends it. -/
def finish (operation : String) (outcome : Outcome) (run : Run ε α) : Work (Recorded σ) (Run ε α) := do
  Work.change fun _ => Recorded.emit [runSample operation outcome]
  return run

/-- Makes attempt number `attempt`, counted from one, and up to `spare` further ones. -/
def attemptFrom (policy : Policy) (scope : Scope) (operation : String)
    (op : Nat → Work (Recorded σ) (Except ε α)) : (spare attempt : Nat) → Work (Recorded σ) (Run ε α)
  | spare, attempt => do
    match ← op attempt with
    | .ok value =>
      Work.change fun _ => Recorded.emit [attemptSample operation .success]
      finish operation .success ⟨attempt, .ok value⟩
    | .error e =>
      Work.change fun _ => Recorded.emit [attemptSample operation .failure]
      match spare with
      | 0 => finish operation .exhausted ⟨attempt, .error (.exhausted operation attempt e)⟩
      | spare + 1 =>
        if policy.retries e then
          let wait ← beginWait policy operation attempt
          match ← Work.pause scope wait.nanos with
          | some reason => finish operation .cancelled ⟨attempt, .error (.cancelled operation attempt reason e)⟩
          | none => attemptFrom policy scope operation op spare (attempt + 1)
        else
          finish operation .permanent ⟨attempt, .error (.permanent operation attempt e)⟩

/-- How many attempts may follow the first. -/
def spare (policy : Policy) : Nat := policy.maxAttempts.toNat - 1

/-- Runs an operation under a policy. Attempts are counted from one, and there is always a first. -/
def run (policy : Policy) (scope : Scope) (operation : String) (op : Nat → Work (Recorded σ) (Except ε α)) :
    Work (Recorded σ) (Run ε α) :=
  attemptFrom policy scope operation op (spare policy) 1

end Retry
end MailReconciler
