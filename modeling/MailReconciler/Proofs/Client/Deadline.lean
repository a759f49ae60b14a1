/-
Guarded calls and the scope of their caller. An attempt races the scope in the breaker, a wait races it in the retries,
and nothing else takes time: so a call is over when its scope ends at the latest, whatever its operation does, whatever
the policy retries, and whatever others do to the breaker meanwhile. A call under a scope that has ended already makes
one attempt at once and no wait.
-/
import MailReconciler.Proofs.Client.Attempts

namespace MailReconciler

/-! ## Runs of attempts -/

namespace Retry

variable {σ ε α : Type} [Report ε] {policy : Policy} {scope : Scope} {operation : String}
  {op : Nat → Work (Recorded σ) (Except ε α)} {spare attempt : Nat} {now stop limit : Instant}

/-- An attempt ends its run at once, or leads to a wait. -/
theorem ends_afterAttempt {post : Run ε α → Instant → Prop} (hend : ∀ result, post ⟨attempt, result⟩ now)
    (hwait : ∀ rest e nanos, spare = rest + 1 →
      ((Work.pause scope nanos).bind (afterWait policy scope operation op rest attempt e)).Ends post now)
    (outcome : Except ε α) : (afterAttempt policy scope operation op spare attempt outcome).Ends post now := by
  cases outcome with
  | ok value => exact fun _ _ => hend _
  | error e =>
    intro _
    cases spare with
    | zero => exact fun _ => hend _
    | succ rest =>
      cases hp : policy.retries e with
      | false => rw [afterFailure_of_permanent hp]; exact fun _ => hend _
      | true => rw [afterFailure_of_retries hp]; exact fun _ => hwait rest e _ rfl

/-- A run is over by an instant if its scope is and so is every attempt that begins before. -/
theorem ends_attemptFrom (hscope : scope.endsAt = some stop) (hs : stop ≤ limit)
    (hop : ∀ k t, t ≤ limit → (op k).Ends (fun _ t => t ≤ limit) t) (spare : Nat) (hn : now ≤ limit) :
    (attemptFrom policy scope operation op spare attempt).Ends (fun _ t => t ≤ limit) now := by
  induction spare generalizing attempt now with
  | zero =>
    rw [attemptFrom_eq, Work.ends_bind]
    exact (hop attempt now hn).mono fun outcome t ht => ends_afterAttempt (fun _ => ht) nofun outcome
  | succ spare ih =>
    rw [attemptFrom_eq, Work.ends_bind]
    refine (hop attempt now hn).mono fun outcome t ht => ends_afterAttempt (fun _ => ht) ?_ outcome
    intro rest e nanos hrest
    cases hrest
    refine Work.ends_bind.2 ((Work.ends_pause hscope hs ht nanos).mono fun reason u hu => ?_)
    cases reason with
    | some reason => exact fun _ => hu.1
    | none => exact ih hu.1

/-- A run under a scope that has ended makes one attempt and waits for nothing. -/
theorem ends_attemptFrom_of_ended (hscope : scope.endsAt = some stop) (hs : stop ≤ now)
    (hop : (op attempt).Ends (fun _ t => t ≤ now) now) (spare : Nat) :
    (attemptFrom policy scope operation op spare attempt).Ends (fun run t => t = now ∧ run.attempts = attempt) now := by
  rw [attemptFrom_eq, Work.ends_bind]
  refine hop.le.mono fun outcome t ⟨h1, h2⟩ => ?_
  obtain rfl : t = now := Nat.le_antisymm h2 h1
  refine ends_afterAttempt (fun _ => ⟨rfl, rfl⟩) (fun rest e nanos _ => ?_) outcome
  refine Work.ends_bind.2 ((Work.ends_pause hscope hs (Nat.le_refl _) nanos).le.mono fun reason u ⟨h1, hu, hnone⟩ => ?_)
  cases reason with
  | some reason => exact fun _ => ⟨Nat.le_antisymm hu h1, rfl⟩
  | none => exact absurd (Nat.lt_of_lt_of_le (hnone rfl) hs) (Nat.not_lt.2 h1)

end Retry

/-! ## Attempts through the breaker -/

section Attempts

variable {ρ ε α : Type} {scope : Scope} {now stop limit : Instant}

/-- What follows an operation in the breaker takes no time. -/
theorem ends_concludeCall (h : now ≤ limit) (name : String) (end' : Except EndReason (Except ε α)) :
    (concludeCall (ρ := ρ) name end').Ends (fun _ t => t ≤ limit) now := by
  rcases end' with reason | e | value
  · exact h
  · exact fun _ => h
  · exact fun _ => h

/-- An attempt is over by an instant if its scope is. -/
theorem ends_throughBreaker (hscope : scope.endsAt = some stop) (hs : stop ≤ limit) (op : Work ρ (Except ε α))
    (hn : now ≤ limit) : (throughBreaker scope op).Ends (fun _ t => t ≤ limit) now := by
  rw [throughBreaker_eq]
  intro w v
  cases ha : (World.allow now v).1 with
  | false => simp only [ha, Bool.false_eq_true, if_false]; exact hn
  | true =>
    simp only [ha, if_true]
    exact Work.ends_bind.2 ((Work.ends_within hscope hs _ now hn).mono fun end' t ht => ends_concludeCall ht _ end')

/-! ## Operations that are counted -/

/-- The same operation, over a remote state that counts how often it is begun. -/
def counted (op : Work ρ (Except ε α)) : Work (ρ × Nat) (Except ε α) :=
  .act (fun _ r => (r.1, r.2 + 1)) fun _ _ => op.onPart (·.1) fun remote r => (remote, r.2)

/-- How often operations were begun. -/
def begun (w : World (ρ × Nat)) : Nat := w.state.remote.2

theorem keeps_begun_insideBreaker (scope : Scope) (op : Work ρ (Except ε α)) :
    (insideBreaker scope (op.onPart (·.1) fun remote (r : ρ × Nat) => (remote, r.2))).Keeps begun := by
  have h : (op.onPart (·.1) fun remote (r : ρ × Nat) => (remote, r.2)).Keeps fun r : ρ × Nat => r.2 := by
    refine Work.keeps_onPart ?_ op
    intro remote r; rfl
  exact Work.keeps_within scope _ (h.onPart fun _ _ => rfl)

/-- An attempt begins its operation at most once. -/
theorem begun_throughBreaker_le {op : Work ρ (Except ε α)} {w w' : World (ρ × Nat)} {t : Instant}
    {result : Except (BreakerFailure ε) α}
    (h : (throughBreaker scope (counted op)).run now w = some (result, t, w')) : begun w' ≤ begun w + 1 := by
  rw [throughBreaker_eq] at h
  cases ha : (World.allow now w).1 with
  | false =>
    simp only [Work.run, askBreaker, ha, Bool.false_eq_true, if_false] at h
    cases h
    exact Nat.le_succ _
  | true =>
    simp only [Work.run, askBreaker, ha, if_true] at h
    -- the operation has begun, and what is left does not begin it again
    have hconclude : ∀ ending : Except EndReason (Except ε α),
        (concludeCall (ρ := ρ × Nat) w.state.breaker.name ending).Keeps begun := keeps_concludeCall _
    exact Nat.le_of_eq ((Work.keeps_bind hconclude (keeps_begun_insideBreaker scope op)).run h)

/-- A run begins the operation at most once for each attempt that it makes. -/
theorem Retry.Makes.begun_le [Report ε] {policy : Policy} {operation : String} {op : Nat → Work ρ (Except ε α)}
    {spare attempt : Nat} {t : Instant} {w w' : World (ρ × Nat)} {run : Retry.Run (BreakerFailure ε) α}
    (h : Retry.Makes policy scope operation (fun k => throughBreaker scope (counted (op k))) spare attempt now w run t
      w') : begun w' + attempt ≤ begun w + run.attempts + 1 := by
  induction h with
  | succeeds hop | exhausts hop | gives hop _ | cancels hop _ _ _ _ =>
    exact (Nat.add_le_add_right (begun_throughBreaker_le hop) _).trans_eq (Nat.add_right_comm ..)
  | waits hop _ _ _ ih =>
    have hone := begun_throughBreaker_le hop
    simp only [begun, Retry.waiting_state] at ih hone ⊢
    omega

end Attempts

/-! ## Guarded calls -/

section Guarded

variable {ρ α : Type} {scope : Scope} {stop : Instant}

/-- A call is over when the scope of its caller ends, or at once if that has ended already, whatever states it meets;
so are its attempts and its waits. Run alone, it has a result by then. Begun under a scope that has ended, it makes
one attempt at once and begins its operation at most once. -/
theorem call_within_scope (hscope : scope.endsAt = some stop) (policy : Policy) (operation : String)
    (op : Nat → Work ρ (Except ApiFailure α)) (start : Instant) :
    (guarded policy scope operation op).Ends (fun _ t => t ≤ max start stop) start ∧
    (∀ w, ∃ run t w', (guarded policy scope operation op).run start w = some (run, t, w') ∧ t ≤ max start stop) ∧
    (∀ attempt now, (throughBreaker scope (op attempt)).Ends (fun _ t => t ≤ max now stop) now) ∧
    (∀ nanos now, (Work.pause scope nanos : Work (World ρ) (Option EndReason)).Ends (fun _ t => t ≤ max now stop) now) ∧
    (stop ≤ start →
      (guarded policy scope operation op).Ends (fun run t => t = start ∧ run.attempts = 1) start ∧
      ∀ w, ∃ run w', (guarded policy scope operation fun attempt => counted (op attempt)).run start w =
        some (run, start, w') ∧ begun w' ≤ begun w + 1) := by
  have hcall : (guarded policy scope operation op).Ends (fun _ t => t ≤ max start stop) start := by
    rw [guarded_eq_callFrom, ends_callFrom]
    exact Retry.ends_attemptFrom hscope (Nat.le_max_right ..)
      (fun k t ht => ends_throughBreaker hscope (Nat.le_max_right ..) (op k) ht) _ (Nat.le_max_left ..)
  refine ⟨hcall, hcall.run, fun attempt now => ends_throughBreaker hscope (Nat.le_max_right ..) _ (Nat.le_max_left ..),
    fun nanos now => (Work.ends_pause hscope (Nat.le_max_right ..) (Nat.le_max_left ..) nanos).mono fun _ _ h => h.1,
    fun hs => ⟨?_, fun w => ?_⟩⟩
  · have hop := ends_throughBreaker (ε := ApiFailure) hscope hs (op 1) (Nat.le_refl start)
    rw [guarded_eq_callFrom, ends_callFrom]
    exact Retry.ends_attemptFrom_of_ended hscope hs hop _
  · have hop := ends_throughBreaker (ε := ApiFailure) hscope hs (counted (op 1)) (Nat.le_refl start)
    have hend : (Retry.run policy scope operation fun attempt => throughBreaker scope (counted (op attempt))).Ends
        (fun run t => t = start ∧ run.attempts = 1) start := Retry.ends_attemptFrom_of_ended hscope hs hop _
    obtain ⟨run, t, w', hrun, ht, hone⟩ := hend.run w
    subst ht
    have hmakes := Retry.makes_of_run hrun
    have hle := hmakes.begun_le
    refine ⟨_, w', run_callFrom hmakes, ?_⟩
    omega

/-- A world with a closed breaker. -/
def calmWorld : World Unit := ⟨[], .cycle [], ⟨"mailgun", {}, .closed, .closed, 0, 0, none⟩, .ofRun, ()⟩

/-- A call whose operation never ends is over at its deadline. -/
theorem hanging_call_ends : (⟨none, some 10⟩ : Scope).endsAt = some 10 ∧ ∃ run t w',
    (guarded .api ⟨none, some 10⟩ "get_route" fun _ => (.never : Work Unit (Except ApiFailure Unit))).run 3 calmWorld =
      some (run, t, w') ∧ t ≤ 10 := by
  have hscope : (⟨none, some 10⟩ : Scope).endsAt = some 10 := rfl
  exact ⟨hscope, (call_within_scope hscope .api "get_route" (fun _ => .never) 3).2.1 calmWorld⟩

end Guarded
end MailReconciler
