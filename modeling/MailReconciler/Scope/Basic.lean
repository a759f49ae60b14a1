/-
The scope of a call: when it ends, and why. A cancellation counts before a deadline when both have passed.
-/
import MailReconciler.Duration

namespace MailReconciler

/-- Why a scope ended. -/
inductive EndReason where
  | cancelled
  | deadlinePassed
deriving Repr, DecidableEq

/-- The text of a reason. -/
def EndReason.message : EndReason → String
  | .cancelled => "context canceled"
  | .deadlinePassed => "context deadline exceeded"

/-- A scope by the instants at which it is cancelled and at which its time is up; absent ones never come. -/
structure Scope where
  cancelAt : Option Instant
  deadline : Option Instant
deriving Repr, DecidableEq

namespace Scope

/-- A scope that never ends. -/
def endless : Scope := ⟨none, none⟩

/-- The earlier of two instants that may never come. -/
def earlier : Option Instant → Option Instant → Option Instant
  | none, b => b
  | a, none => a
  | some a, some b => some (min a b)

/-- The instant at which a scope ends. -/
def endsAt (s : Scope) : Option Instant := earlier s.cancelAt s.deadline

/-- Why a scope has ended at an instant, if it has. -/
def reason? (s : Scope) (now : Instant) : Option EndReason :=
  if s.cancelAt.any (· ≤ now) then some .cancelled
  else if s.deadline.any (· ≤ now) then some .deadlinePassed
  else none

end Scope
end MailReconciler
