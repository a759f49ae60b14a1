/-
Images of work under a map of states. The image does what the work does, step for step: it changes the mapped states as
the work changes the states, waits for the same instants and ends with the same values. So what the map does not show of
a state has no influence on values, instants and what the map does show (`Images.run`).
-/
import MailReconciler.Proofs.Work.Running

namespace MailReconciler.Work

variable {σ τ α β : Type} {m : σ → τ} {scope : Scope}

/-- The second work is the image of the first under a map of states. -/
inductive Images {α : Type} (m : σ → τ) : Work σ α → Work τ α → Prop
  | done (a : α) : Images m (.done a) (.done a)
  | act {change : Instant → σ → σ} {change' : Instant → τ → τ} {next : Instant → σ → Work σ α}
      {next' : Instant → τ → Work τ α} : (∀ now s, m (change now s) = change' now (m s)) →
      (∀ now s, Images m (next now s) (next' now (m s))) → Images m (.act change next) (.act change' next')
  | wait (wake : Instant) {next : Work σ α} {next' : Work τ α} : Images m next next' →
      Images m (.wait wake next) (.wait wake next')
  | never : Images m .never .never

theorem Images.run {w : Work σ α} {w' : Work τ α} (h : Images m w w') (now : Instant) (s : σ) :
    w'.run now (m s) = (w.run now s).map fun r => (r.1, r.2.1, m r.2.2) := by
  induction h generalizing now s with
  | done a => rfl
  | @act change change' next next' hchange _ ih =>
    show (next' now (m s)).run now (change' now (m s)) = _
    rw [← hchange]
    exact ih now s now (change now s)
  | wait wake _ ih => exact ih (max now wake) s
  | never => rfl

/-! ## Laws -/

theorem bind_done : ∀ w : Work σ α, w.bind .done = w
  | .done _ => rfl
  | .act change next => congrArg (Work.act change) (funext fun now => funext fun s => bind_done (next now s))
  | .wait wake next => congrArg (Work.wait wake) (bind_done next)
  | .never => rfl

theorem Images.bind {w : Work σ α} {w' : Work τ α} (h : Images m w w') {k : α → Work σ β} {k' : α → Work τ β}
    (hk : ∀ a, Images m (k a) (k' a)) : Images m (w.bind k) (w'.bind k') := by
  induction h with
  | done a => exact hk a
  | act hchange _ ih => exact .act hchange ih
  | wait wake _ ih => exact .wait wake ih
  | never => exact .never

theorem images_look {f : Instant → σ → α} {f' : Instant → τ → α} (h : ∀ now s, f now s = f' now (m s)) :
    Images m (look f) (look f') := by
  refine .act (fun _ _ => rfl) fun now s => ?_
  rw [h]
  exact .done _

/-- Work on a part has the image of the work as its image, if the map takes parts to parts. -/
theorem Images.onPart {σ' τ' : Type} {M : σ' → τ'} {get : σ' → σ} {set : σ → σ' → σ'} {get' : τ' → τ}
    {set' : τ → τ' → τ'} (hget : ∀ t, get' (M t) = m (get t)) (hset : ∀ s t, M (set s t) = set' (m s) (M t))
    {w : Work σ α} {w' : Work τ α} (h : Images m w w') : Images M (w.onPart get set) (w'.onPart get' set') := by
  induction h with
  | done a => exact .done a
  | act hchange _ ih =>
    refine .act (fun now t => ?_) fun now t => ?_
    · rw [hset, hchange, hget]
    · rw [hget]
      exact ih now (get t)
  | wait wake _ ih => exact .wait wake ih
  | never => exact .never

/-- What is cut short by the end of a scope. -/
theorem images_stop (stop : Instant) (f : Instant → α) :
    Images m (.wait stop (look fun now _ => f now)) (.wait stop (look fun now _ => f now)) :=
  .wait stop (images_look fun _ _ => rfl)

/-- A scope cuts the image short where it cuts the work short. -/
theorem Images.within (scope : Scope) {w : Work σ α} {w' : Work τ α} (h : Images m w w') :
    Images m (w.within scope) (w'.within scope) := by
  induction h with
  | done a => exact .done (Except.ok a)
  | act hchange _ ih => exact .act hchange ih
  | wait wake _ ih =>
    refine .act (fun _ _ => rfl) fun now _ => ?_
    by_cases hw : wake ≤ now
    · simp only [hw, if_true]
      exact ih
    · simp only [hw, if_false]
      cases scope.reason? now with
      | some reason => exact .done _
      | none =>
        -- the wait goes on, or it is cut short where the scope ends
        cases scope.endsAt with
        | none => exact .wait wake ih
        | some stop =>
          by_cases hs : wake ≤ stop
          · simp only [hs, if_true]
            exact .wait wake ih
          · simp only [hs, if_false]
            exact images_stop stop _
  | never =>
    refine .act (fun _ _ => rfl) fun now _ => ?_
    cases scope.reason? now with
    | some reason => exact .done _
    | none =>
      cases scope.endsAt with
      | none => exact .never
      | some stop => exact images_stop stop _

theorem images_pause (scope : Scope) (nanos : Nat) : Images m (pause scope nanos) (pause scope nanos) := by
  refine .act (fun _ _ => rfl) fun now _ => ?_
  cases scope.reason? now with
  | some reason => exact .done _
  | none => exact images_stop _ _

end MailReconciler.Work
