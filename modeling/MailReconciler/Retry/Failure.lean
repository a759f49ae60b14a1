/-
How a retried operation fails in the end.
-/
import MailReconciler.Failure.Report
import MailReconciler.Scope.Basic

namespace MailReconciler

/-- How a retried operation fails: after its last attempt, at an error not worth another, or in a wait. -/
inductive RetryFailure (ε : Type) where
  | exhausted (operation : String) (attempts : Nat) (last : ε)
  | permanent (operation : String) (attempts : Nat) (last : ε)
  | cancelled (operation : String) (attempts : Nat) (reason : EndReason) (last : ε)
deriving Repr, DecidableEq

namespace RetryFailure

variable {ε : Type}

/-- The name of the operation. -/
def operation : RetryFailure ε → String
  | .exhausted op _ _ | .permanent op _ _ | .cancelled op _ _ _ => op

/-- How many attempts were made. -/
def attempts : RetryFailure ε → Nat
  | .exhausted _ n _ | .permanent _ n _ | .cancelled _ n _ _ => n

/-- The error of the last attempt. -/
def last : RetryFailure ε → ε
  | .exhausted _ _ e | .permanent _ _ e | .cancelled _ _ _ e => e

/-- Whether the scope ended the run. -/
def isCancelled : RetryFailure ε → Bool
  | .cancelled .. => true
  | _ => false

/-- The text of a failure. -/
def message [Report ε] : RetryFailure ε → String
  | .exhausted op n e => op ++ ": failed after " ++ toString n ++ " attempts: " ++ Report.message e
  | .permanent op n e => op ++ ": non-retryable error on attempt " ++ toString n ++ ": " ++ Report.message e
  | .cancelled op n reason e => op ++ ": cancelled during retry backoff after " ++ toString n ++ " attempts: " ++
    reason.message ++ " (last error: " ++ Report.message e ++ ")"

/-- What the last error says about the network; a run that the scope ended did not time out. -/
def signs [Report ε] : RetryFailure ε → NetworkSigns
  | .cancelled _ _ _ e => ⟨some false, (Report.signs e).temporary⟩
  | f => Report.signs f.last

instance [Report ε] : Report (RetryFailure ε) := ⟨message, signs⟩

end RetryFailure
end MailReconciler
