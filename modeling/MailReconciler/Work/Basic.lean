/-
Work over a shared state: it changes the state at the present instant, waits for later instants, and ends with a value
or never. Work is run alone, or polled: advanced as far as the present instant allows.
-/
import MailReconciler.Duration

namespace MailReconciler

/-- Work over a state `σ` that ends with an `α`. -/
inductive Work (σ α : Type) where
  /-- It has ended. -/
  | done (value : α)
  /-- It changes the state and goes on as the instant and the state before the change demand. -/
  | act (change : Instant → σ → σ) (next : Instant → σ → Work σ α)
  /-- It goes on at an instant, or at once when that has passed. -/
  | wait (wake : Instant) (next : Work σ α)
  /-- It never goes on. -/
  | never

namespace Work

variable {σ τ α β : Type}

/-! ## Sequences -/

/-- Goes on with further work when the work has ended. -/
protected def bind : Work σ α → (α → Work σ β) → Work σ β
  | .done a, k => k a
  | .act change next, k => .act change fun now s => (next now s).bind k
  | .wait wake next, k => .wait wake (next.bind k)
  | .never, _ => .never

instance : Monad (Work σ) where
  pure := .done
  bind := Work.bind

/-- Changes the state and ends with a value. -/
def step (f : Instant → σ → α × σ) : Work σ α := .act (fun now s => (f now s).2) fun now s => .done (f now s).1

/-- Changes the state. -/
def change (f : Instant → σ → σ) : Work σ Unit := .act f fun _ _ => .done ()

/-- Ends with what it sees at the present instant. -/
def look (f : Instant → σ → α) : Work σ α := .act (fun _ s => s) fun now s => .done (f now s)

/-- Waits for a length of time. -/
def sleep (nanos : Nat) : Work σ Unit := .act (fun _ s => s) fun now _ => .wait (now + nanos) (.done ())

/-- The same work on a part of a larger state. -/
def onPart (get : τ → σ) (set : σ → τ → τ) : Work σ α → Work τ α
  | .done a => .done a
  | .act change next =>
    .act (fun now t => set (change now (get t)) t) fun now t => (next now (get t)).onPart get set
  | .wait wake next => .wait wake (next.onPart get set)
  | .never => .never

/-! ## Running -/

/-- Runs work alone from an instant on: its value, the instant of its end and the state then; none if it never ends. -/
def run : Work σ α → Instant → σ → Option (α × Instant × σ)
  | .done a, now, s => some (a, now, s)
  | .act change next, now, s => (next now s).run now (change now s)
  | .wait wake next, now, s => next.run (max now wake) s
  | .never, _, _ => none

/-- Advances work as far as the present instant allows. -/
def poll : Work σ α → Instant → σ → Work σ α × σ
  | .done a, _, s => (.done a, s)
  | .act change next, now, s => (next now s).poll now (change now s)
  | .wait wake next, now, s => if wake ≤ now then next.poll now s else (.wait wake next, s)
  | .never, _, s => (.never, s)

/-- The instant at which polled work goes on. -/
def wakesAt : Work σ α → Option Instant
  | .wait wake _ => some wake
  | _ => none

end Work
end MailReconciler
