/-
Failures of one guarded call to the remote API: what is left of the failures of its attempts, of the breaker and of
the retries.
-/
import MailReconciler.Breaker.Failure
import MailReconciler.Failure.Api
import MailReconciler.Retry.Failure

namespace MailReconciler

/-- How a guarded call fails. -/
inductive CallFailure where
  /-- The API refused it for good. -/
  | refused (operation : String) (source : ApiFailure)
  /-- Every attempt failed, and no further one is allowed. -/
  | exhausted (operation : String) (attempts : Nat) (source : ApiFailure)
  /-- The breaker rejected it. -/
  | rejected (operation : String) (breaker : String)
  /-- The scope ended first: in the wait behind some attempts, or in the breaker when their number is absent. -/
  | cancelled (operation : String) (attempts : Option Nat) (reason : EndReason) (last : Option ApiFailure)
deriving Repr, DecidableEq

namespace CallFailure

/-- The failure of a call that ended in the breaker. -/
def ofBreaker (operation : String) : BreakerFailure ApiFailure → CallFailure
  | .rejected breaker => .rejected operation breaker
  | .interrupted _ reason => .cancelled operation none reason none
  | .operation e => .refused operation e

/-- The failure of a call that a run of attempts ended. -/
def ofRetry : RetryFailure (BreakerFailure ApiFailure) → CallFailure
  | .exhausted operation attempts (.operation e) => .exhausted operation attempts e
  | .exhausted operation _ e => ofBreaker operation e
  | .permanent operation _ e => ofBreaker operation e
  | .cancelled operation attempts reason last => .cancelled operation (some attempts) reason last.operation?

/-- The name of the operation. -/
def operation : CallFailure → String
  | .refused op _ | .exhausted op _ _ | .rejected op _ | .cancelled op _ _ _ => op

/-- The text of a failure. -/
def message : CallFailure → String
  | .refused op e => op ++ ": " ++ e.message
  | .exhausted op n e => op ++ ": failed after " ++ toString n ++ " attempts: " ++ e.message
  | .rejected op breaker => op ++ ": circuit breaker '" ++ breaker ++ "' is open"
  | .cancelled op (some n) reason _ =>
    op ++ ": cancelled during retry backoff after " ++ toString n ++ " attempts: " ++ reason.message
  | .cancelled op none reason _ => op ++ ": cancelled in circuit breaker: " ++ reason.message

/-- The text of what is behind a failure. -/
def cause? : CallFailure → Option String
  | .refused _ e | .exhausted _ _ e => some e.message
  | .rejected _ _ => none
  | .cancelled _ _ reason _ => some reason.message

/-- The last failure of the API, when the call reached it. -/
def apiFailure? : CallFailure → Option ApiFailure
  | .refused _ e | .exhausted _ _ e => some e
  | .rejected _ _ => none
  | .cancelled _ _ _ last => last

/-- Whether the failure means that the resource does not exist. -/
def isNotFound : CallFailure → Bool
  | .refused _ e | .exhausted _ _ e => e.isNotFound
  | .rejected _ _ | .cancelled .. => false

/-- Whether the breaker rejected the call. -/
def isRejection : CallFailure → Bool
  | .rejected _ _ => true
  | _ => false

/-- Whether the scope ended the call. -/
def isCancelled : CallFailure → Bool
  | .cancelled .. => true
  | _ => false

/-- What to make of a failure. -/
def assess : CallFailure → Assessment
  | .refused _ e => e.assess
  | .exhausted .. | .rejected .. => ⟨true, .warning⟩
  | .cancelled .. => ⟨false, .info⟩

end CallFailure
end MailReconciler
