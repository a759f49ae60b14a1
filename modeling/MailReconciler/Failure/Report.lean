/-
What every error of the library can be asked: its text, what it says about the network, and how bad it is.
-/

namespace MailReconciler

/-- What an error says about the network; an absent answer means that it knows nothing about it. -/
structure NetworkSigns where
  timedOut : Option Bool
  temporary : Option Bool
deriving Repr, DecidableEq

/-- No information about the network. -/
def NetworkSigns.none : NetworkSigns := ⟨.none, .none⟩

/-- Errors that can be shown and classified. -/
class Report (ε : Type) where
  message : ε → String
  signs : ε → NetworkSigns

/-- How bad an error is. -/
inductive Severity where
  | info
  | warning
  | error
  | critical
deriving Repr, DecidableEq

/-- The label of a severity. -/
def Severity.label : Severity → String
  | .info => "INFO"
  | .warning => "WARNING"
  | .error => "ERROR"
  | .critical => "CRITICAL"

/-- What a caller should make of an error. No error names a delay of its own before the next try. -/
structure Assessment where
  /-- Repeating the operation may succeed. -/
  retryable : Bool
  severity : Severity
deriving Repr, DecidableEq

/-- Whether the error is a broken invariant. -/
def Assessment.critical (a : Assessment) : Bool := a.severity == .critical

end MailReconciler
