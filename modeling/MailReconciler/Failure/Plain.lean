/-
Errors that are no more than their text and what they say about the network, and errors of input and output.
-/
import MailReconciler.Failure.Report

namespace MailReconciler

/-- An error given by its text and its network signs. -/
structure PlainError where
  text : String
  network : NetworkSigns
deriving Repr, DecidableEq

namespace PlainError

instance : Report PlainError := ⟨text, network⟩

/-- An error that every preset policy retries. -/
def passing : PlainError := ⟨"503 service unavailable", .none⟩

/-- An error that no preset policy retries. -/
def lasting : PlainError := ⟨"400 bad request: invalid domain name", .none⟩

/-- A network timeout whose text no phrase matches. -/
def networkTimeout : PlainError := ⟨"dial failed", ⟨some true, some true⟩⟩

end PlainError

/-- The kinds of input and output errors that matter to retries. -/
inductive IoKind where
  | timedOut
  | interrupted
  | wouldBlock
  | other
deriving Repr, DecidableEq

/-- An error of input or output. -/
structure IoError where
  kind : IoKind
  text : String
deriving Repr, DecidableEq

instance : Report IoError where
  message := IoError.text
  signs e := ⟨some (e.kind == .timedOut), some (e.kind != .other)⟩

end MailReconciler
