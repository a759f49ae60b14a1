/-
Work under a scope. An operation in flight is looked at before the scope, so one that ends at the instant at which
the scope ends has ended; a pause between operations is looked at after it.
-/
import MailReconciler.Work.Basic
import MailReconciler.Scope.Basic

namespace MailReconciler.Work

variable {σ α : Type}

/-- Ends work with the reason when its scope ends before it. -/
def within (scope : Scope) : Work σ α → Work σ (Except EndReason α)
  | .done a => .done (.ok a)
  | .act change next => .act change fun now s => (next now s).within scope
  | .wait wake next => .act (fun _ s => s) fun now _ =>
    if wake ≤ now then next.within scope
    else match scope.reason? now with
      | some reason => .done (.error reason)
      | none =>
        match scope.endsAt with
        | none => .wait wake (next.within scope)
        | some stop =>
          if wake ≤ stop then .wait wake (next.within scope)
          else .wait stop (look fun now _ => .error ((scope.reason? now).getD .deadlinePassed))
  | .never => .act (fun _ s => s) fun now _ =>
    match scope.reason? now with
    | some reason => .done (.error reason)
    | none =>
      match scope.endsAt with
      | none => .never
      | some stop => .wait stop (look fun now _ => .error ((scope.reason? now).getD .deadlinePassed))

/-- Pauses for a length of time, or up to the end of the scope when that comes no later; then the reason is the
answer. -/
def pause (scope : Scope) (nanos : Nat) : Work σ (Option EndReason) :=
  .act (fun _ s => s) fun now _ =>
    match scope.reason? now with
    | some reason => .done (some reason)
    | none => .wait (scope.endsAt.elim (now + nanos) (min (now + nanos))) (look fun now _ => scope.reason? now)

end MailReconciler.Work
