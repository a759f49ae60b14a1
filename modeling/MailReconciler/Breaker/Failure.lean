/-
How a call through a breaker fails.
-/
import MailReconciler.Failure.Report
import MailReconciler.Scope.Basic

namespace MailReconciler

/-- How a call through a breaker fails. -/
inductive BreakerFailure (ε : Type) where
  /-- The breaker was open, and the operation was not begun. -/
  | rejected (breaker : String)
  /-- The scope ended before the operation did. -/
  | interrupted (breaker : String) (reason : EndReason)
  /-- The operation failed by itself. -/
  | operation (error : ε)
deriving Repr, DecidableEq

namespace BreakerFailure

variable {ε : Type}

/-- The text of a failure; an operation's own error keeps its text. -/
def message [Report ε] : BreakerFailure ε → String
  | .rejected breaker => "circuit breaker '" ++ breaker ++ "' is open"
  | .interrupted breaker reason => "circuit breaker '" ++ breaker ++ "': " ++ reason.message
  | .operation e => Report.message e

/-- Only an operation's own error knows about the network; the others are no timeouts of it. -/
def signs [Report ε] : BreakerFailure ε → NetworkSigns
  | .operation e => Report.signs e
  | _ => ⟨some false, none⟩

instance [Report ε] : Report (BreakerFailure ε) := ⟨message, signs⟩

/-- Whether the breaker rejected the call. -/
def isRejection : BreakerFailure ε → Bool
  | .rejected _ => true
  | _ => false

/-- The operation's own error. -/
def operation? : BreakerFailure ε → Option ε
  | .operation e => some e
  | _ => none

end BreakerFailure
end MailReconciler
