/-
One call through a breaker, phase by phase: it reads the breaker's name, asks for admission, works on the remote state
under its scope, and tells the breaker its outcome. A call that is not let through ends at once and never begins its
operation; between admission and outcome a call does not touch the breaker.
-/
import MailReconciler.Proofs.Breaker.Run
import MailReconciler.Proofs.Work.Running
import MailReconciler.Client.Guarded

namespace MailReconciler

/-! ## Steps of the breaker in a world -/

namespace World

variable {ρ : Type} {w : World ρ} {now : Instant} {succeeded : Bool}

/-- The instant that the breaker of a world reads. -/
def read (w : World ρ) (now : Instant) : Instant := w.state.clock.read now

theorem allow_fst (now : Instant) (w : World ρ) : (allow now w).1 = (w.state.breaker.allow (w.read now)).1 := rfl

theorem allow_breaker (now : Instant) (w : World ρ) :
    (allow now w).2.state.breaker = (w.state.breaker.allow (w.read now)).2.1 := rfl

theorem record_breaker (succeeded : Bool) (now : Instant) (w : World ρ) :
    (record succeeded now w).state.breaker = (w.state.breaker.record (w.read now) succeeded).1 := rfl

theorem reset_breaker (w : World ρ) : w.reset.state.breaker = w.state.breaker.reset.1 := rfl

theorem setRemote_remote (r : ρ) (w : World ρ) : (setRemote r w).state.remote = r := rfl

theorem setRemote_setRemote (r r' : ρ) (w : World ρ) : setRemote r' (setRemote r w) = setRemote r' w := rfl

theorem setRemote_self (w : World ρ) : setRemote w.state.remote w = w := rfl

end World

/-! ## Phases of a call -/

variable {ρ ε α : Type}

/-- The operation of a call that was let through. -/
def insideBreaker (scope : Scope) (op : Work ρ (Except ε α)) : Work (World ρ) (Except EndReason (Except ε α)) :=
  (op.onPart (fun w : World ρ => w.state.remote) World.setRemote).within scope

/-- The end of a call that was let through: the outcome of a finished operation is recorded, an abandoned one leaves
none. -/
def concludeCall (name : String) : Except EndReason (Except ε α) → Work (World ρ) (Except (BreakerFailure ε) α)
  | .error reason => .done (.error (.interrupted name reason))
  | .ok (.ok value) => .act (World.record true) fun _ _ => .done (.ok value)
  | .ok (.error e) => .act (World.record false) fun _ _ => .done (.error (.operation e))

/-- A call that asks for admission. -/
def askBreaker (name : String) (scope : Scope) (op : Work ρ (Except ε α)) :
    Work (World ρ) (Except (BreakerFailure ε) α) :=
  .act (fun now w => (World.allow now w).2) fun now w =>
    if (World.allow now w).1 = true then (insideBreaker scope op).bind (concludeCall name)
    else .done (.error (.rejected name))

theorem throughBreaker_eq (scope : Scope) (op : Work ρ (Except ε α)) :
    throughBreaker scope op = .act (fun _ w => w) fun _ w => askBreaker w.state.breaker.name scope op :=
  rfl

/-! ## Admission -/

theorem World.allow_of_not_opened {w : World ρ} {now : Instant} (h : w.state.breaker.mode ≠ .opened) :
    World.allow now w = (true, w.emit []) := by
  unfold World.allow World.onBreaker
  rw [Breaker.allow_of_not_opened h]

section Finished

variable {scope : Scope} {now t : Instant} {outcome : Except ε α} {r' : ρ} {op : Work ρ (Except ε α)} {w : World ρ}

/-- A call that a breaker lets through ends with its operation, if the scope does not end before, and the breaker counts
it. -/
theorem run_throughBreaker_of_run (h : op.run now w.state.remote = some (outcome, t, r'))
    (hscope : ∀ stop, scope.endsAt = some stop → t ≤ max now stop) (hb : w.state.breaker.mode ≠ .opened) :
    ∃ w', (throughBreaker scope op).run now w = some (outcome.mapError .operation, t, w') ∧
      w'.state.breaker = (w.state.breaker.record (w.read t) outcome.isOk).1 ∧ w'.state.clock = w.state.clock ∧
      w'.state.remote = r' := by
  rw [throughBreaker_eq]
  simp only [Work.run, askBreaker, World.allow_of_not_opened hb, if_true]
  have hinside : (insideBreaker scope op).run now (w.emit []) =
      some (.ok outcome, t, World.setRemote r' (w.emit [])) :=
    Work.run_within
      (Work.run_onPart World.setRemote_remote World.setRemote_setRemote World.setRemote_self (x := w.emit []) h) hscope
  rw [Work.run_bind_of_some _ hinside]
  cases outcome with
  | ok value => exact ⟨_, rfl, rfl, rfl, rfl⟩
  | error e => exact ⟨_, rfl, rfl, rfl, rfl⟩

/-- No scope can come between an operation and its end, if that is at the instant of its beginning. -/
theorem run_throughBreaker_of_immediate (h : op.run now w.state.remote = some (outcome, now, r'))
    (hb : w.state.breaker.mode ≠ .opened) :
    ∃ w', (throughBreaker scope op).run now w = some (outcome.mapError .operation, now, w') ∧
      w'.state.breaker = (w.state.breaker.record (w.read now) outcome.isOk).1 ∧ w'.state.clock = w.state.clock ∧
      w'.state.remote = r' :=
  run_throughBreaker_of_run h (fun stop _ => Nat.le_max_left now stop) hb

end Finished

/-! ## Rejection -/

/-- The world after a rejection: a sample more, and all else as it was. -/
def World.rejected (w : World ρ) : World ρ := w.emit [.count Family.rejections [("breaker", w.state.breaker.name)]]

theorem World.rejected_state (w : World ρ) : w.rejected.state = w.state := rfl

theorem World.allow_of_not_cooled {w : World ρ} {now : Instant} (h : w.state.breaker.mode = .opened)
    (hc : w.state.breaker.cooled (w.read now) = false) : World.allow now w = (false, w.rejected) := by
  have ha := Breaker.allow_of_not_cooled h hc
  unfold World.allow World.onBreaker
  rw [show w.state.breaker.allow (w.state.clock.read now) = _ from ha]
  rfl

/-- A call that an open breaker rejects ends at once, whatever its operation and its scope. -/
theorem run_throughBreaker_of_rejected {w : World ρ} {now : Instant} (scope : Scope) (op : Work ρ (Except ε α))
    (h : w.state.breaker.mode = .opened) (hc : w.state.breaker.cooled (w.read now) = false) :
    (throughBreaker scope op).run now w = some (.error (.rejected w.state.breaker.name), now, w.rejected) := by
  rw [throughBreaker_eq]
  simp only [Work.run, askBreaker, World.allow_of_not_cooled h hc]
  rfl

end MailReconciler
