/-
A retried run, attempt by attempt. `attemptFrom_eq` splits what is left of a run into its next attempt and what follows
the outcome. `Makes` says how a run that ends goes on from there: by a success, a last attempt, an error not worth
another, a wait that the scope cuts short, or a wait that leads to the next attempt. It holds of exactly the runs that
end (`makes_iff`), so that facts about them are inductions with these five cases.
-/
import MailReconciler.Proofs.Work.Running
import MailReconciler.Retry.Run

namespace MailReconciler.Retry

variable {σ ε α : Type} [Report ε]

/-! ## Programs -/

section Programs

variable (policy : Policy) (scope : Scope) (operation : String) (op : Nat → Work (Recorded σ) (Except ε α))
  (spare attempt : Nat)

/-- What follows a wait: the next attempt, or the end of the run when the scope has ended. -/
def afterWait (e : ε) : Option EndReason → Work (Recorded σ) (Run ε α)
  | some reason => finish operation .cancelled ⟨attempt, .error (.cancelled operation attempt reason e)⟩
  | none => attemptFrom policy scope operation op spare (attempt + 1)

/-- What follows a failed attempt that has emitted its sample. -/
def afterFailure (e : ε) : Work (Recorded σ) (Run ε α) :=
  match spare with
  | 0 => finish operation .exhausted ⟨attempt, .error (.exhausted operation attempt e)⟩
  | spare + 1 =>
    if policy.retries e then
      (beginWait policy operation attempt).bind fun wait =>
        (Work.pause scope wait.nanos).bind (afterWait policy scope operation op spare attempt e)
    else finish operation .permanent ⟨attempt, .error (.permanent operation attempt e)⟩

/-- What follows the outcome of an attempt. -/
def afterAttempt : Except ε α → Work (Recorded σ) (Run ε α)
  | .ok value => .act (fun _ r => r.emit [attemptSample operation .success]) fun _ _ =>
    finish operation .success ⟨attempt, .ok value⟩
  | .error e => .act (fun _ r => r.emit [attemptSample operation .failure]) fun _ _ =>
    afterFailure policy scope operation op spare attempt e

theorem attemptFrom_eq : attemptFrom policy scope operation op spare attempt =
    (op attempt).bind (afterAttempt policy scope operation op spare attempt) := by
  rw [attemptFrom]
  refine congrArg (Work.bind (op attempt)) (funext fun outcome => ?_)
  cases outcome with
  | ok value => rfl
  | error e => cases spare <;> rfl

end Programs

/-! ## Samples and waits -/

/-- The state after the samples of a last attempt and of the end of its run. -/
def concluded (operation : String) (attempt run : Outcome) (r : Recorded σ) : Recorded σ :=
  (r.emit [attemptSample operation attempt]).emit [runSample operation run]

/-- The wait behind an attempt, counted from one. -/
def waitBehind (policy : Policy) (attempt : Nat) (r : Recorded σ) : Duration := (policy.wait (attempt - 1) r.random).1

/-- The state after a failed attempt whose wait has begun. -/
def waiting (policy : Policy) (operation : String) (attempt : Nat) (r : Recorded σ) : Recorded σ :=
  { r with random := (policy.wait (attempt - 1) r.random).2, samples := r.samples ++
      [attemptSample operation .failure] ++
      [.time Family.backoff (waitBehind policy attempt r) [("operation", operation)]] }

@[simp] theorem waiting_state (policy : Policy) (operation : String) (attempt : Nat) (r : Recorded σ) :
    (waiting policy operation attempt r).state = r.state := rfl

/-! ## Runs -/

variable {policy : Policy} {scope : Scope} {operation : String} {op : Nat → Work (Recorded σ) (Except ε α)}
  {spare attempt : Nat} {now t stop : Instant} {r r' : Recorded σ} {value : α} {e : ε}

/-- A failed attempt that is not the last is followed by its wait if its error is retried. -/
theorem afterFailure_of_retries (hp : policy.retries e = true) :
    afterFailure policy scope operation op (spare + 1) attempt e =
      (beginWait policy operation attempt).bind fun wait =>
        (Work.pause scope wait.nanos).bind (afterWait policy scope operation op spare attempt e) :=
  if_pos hp

/-- An error that is not retried ends the run. -/
theorem afterFailure_of_permanent (hp : policy.retries e = false) :
    afterFailure policy scope operation op (spare + 1) attempt e =
      finish operation .permanent ⟨attempt, .error (.permanent operation attempt e)⟩ :=
  if_neg (Bool.eq_false_iff.1 hp)

/-- A failed attempt that is neither the last nor permanent is followed by its wait. -/
theorem run_attemptFrom_of_retried (h : (op attempt).run now r = some (.error e, t, r'))
    (hp : policy.retries e = true) :
    (attemptFrom policy scope operation op (spare + 1) attempt).run now r =
      ((Work.pause scope (waitBehind policy attempt r').nanos).bind
        (afterWait policy scope operation op spare attempt e)).run t (waiting policy operation attempt r') := by
  rw [attemptFrom_eq, Work.run_bind_of_some _ h, afterAttempt, afterFailure_of_retries hp]
  rfl

/-- How the attempts of a run go on that ends: with what result, when, and in which state. -/
inductive Makes (policy : Policy) (scope : Scope) (operation : String) (op : Nat → Work (Recorded σ) (Except ε α)) :
    (spare attempt : Nat) → Instant → Recorded σ → Run ε α → Instant → Recorded σ → Prop
  | succeeds {spare attempt : Nat} {now t : Instant} {r r' : Recorded σ} {value : α} :
      (op attempt).run now r = some (.ok value, t, r') →
      Makes policy scope operation op spare attempt now r ⟨attempt, .ok value⟩ t
        (concluded operation .success .success r')
  | exhausts {attempt : Nat} {now t : Instant} {r r' : Recorded σ} {e : ε} :
      (op attempt).run now r = some (.error e, t, r') →
      Makes policy scope operation op 0 attempt now r ⟨attempt, .error (.exhausted operation attempt e)⟩ t
        (concluded operation .failure .exhausted r')
  | gives {spare attempt : Nat} {now t : Instant} {r r' : Recorded σ} {e : ε} :
      (op attempt).run now r = some (.error e, t, r') → policy.retries e = false →
      Makes policy scope operation op (spare + 1) attempt now r ⟨attempt, .error (.permanent operation attempt e)⟩ t
        (concluded operation .failure .permanent r')
  | cancels {spare attempt : Nat} {now t stop : Instant} {r r' : Recorded σ} {e : ε} {reason : EndReason} :
      (op attempt).run now r = some (.error e, t, r') → policy.retries e = true →
      scope.endsAt = some stop → stop ≤ t + (waitBehind policy attempt r').nanos →
      scope.reason? (max t stop) = some reason →
      Makes policy scope operation op (spare + 1) attempt now r
        ⟨attempt, .error (.cancelled operation attempt reason e)⟩ (max t stop)
        ((waiting policy operation attempt r').emit [runSample operation .cancelled])
  | waits {spare attempt : Nat} {now t u : Instant} {r r' r'' : Recorded σ} {e : ε} {run : Run ε α} :
      (op attempt).run now r = some (.error e, t, r') → policy.retries e = true →
      scope.reason? (t + (waitBehind policy attempt r').nanos) = none →
      Makes policy scope operation op spare (attempt + 1) (t + (waitBehind policy attempt r').nanos)
        (waiting policy operation attempt r') run u r'' →
      Makes policy scope operation op (spare + 1) attempt now r run u r''

theorem Makes.run {run : Run ε α} (h : Makes policy scope operation op spare attempt now r run t r') :
    (attemptFrom policy scope operation op spare attempt).run now r = some (run, t, r') := by
  induction h with
  | succeeds hop => rw [attemptFrom_eq, Work.run_bind_of_some _ hop]; rfl
  | exhausts hop => rw [attemptFrom_eq, Work.run_bind_of_some _ hop]; rfl
  | gives hop hp =>
    rw [attemptFrom_eq, Work.run_bind_of_some _ hop, afterAttempt, afterFailure_of_permanent hp]
    rfl
  | cancels hop hp hs hle hreason =>
    obtain ⟨reason, hr, hpause⟩ := Work.run_pause_of_endsAt hs hle (waiting policy operation _ _)
    obtain rfl := Option.some.inj (hr.symm.trans hreason)
    rw [run_attemptFrom_of_retried hop hp, Work.run_bind_of_some _ hpause]
    rfl
  | waits hop hp hnone _ ih =>
    rw [run_attemptFrom_of_retried hop hp, Work.run_bind_of_some _ (Work.run_pause_of_none hnone _)]
    exact ih

/-- The result of a run is unique. -/
theorem Makes.eq_of_run {run run' : Run ε α} {u : Instant} {q : Recorded σ}
    (h : Makes policy scope operation op spare attempt now r run t r')
    (h' : (attemptFrom policy scope operation op spare attempt).run now r = some (run', u, q)) :
    Makes policy scope operation op spare attempt now r run' u q := by
  rw [h.run] at h'
  cases h'
  exact h

theorem makes_of_run {run : Run ε α}
    (h : (attemptFrom policy scope operation op spare attempt).run now r = some (run, t, r')) :
    Makes policy scope operation op spare attempt now r run t r' := by
  induction spare generalizing attempt now r with
  | zero =>
    cases hop : (op attempt).run now r with
    | none => rw [attemptFrom_eq, Work.run_bind_of_none _ hop] at h; cases h
    | some outcome =>
      obtain ⟨e | value, t₁, r₁⟩ := outcome
      · exact (Makes.exhausts hop).eq_of_run h
      · exact (Makes.succeeds hop).eq_of_run h
  | succ spare ih =>
    cases hop : (op attempt).run now r with
    | none => rw [attemptFrom_eq, Work.run_bind_of_none _ hop] at h; cases h
    | some outcome =>
      obtain ⟨e | value, t₁, r₁⟩ := outcome
      · cases hp : policy.retries e with
        | false => exact (Makes.gives hop hp).eq_of_run h
        | true =>
          cases hreason : scope.reason? (t₁ + (waitBehind policy attempt r₁).nanos) with
          | none =>
            rw [run_attemptFrom_of_retried hop hp, Work.run_bind_of_some _ (Work.run_pause_of_none hreason _)] at h
            exact .waits hop hp hreason (ih h)
          | some reason =>
            obtain ⟨stop, hs, hle⟩ := Scope.reason?_isSome_iff.1 (by rw [hreason]; rfl)
            obtain ⟨reason', hr, -⟩ := Work.run_pause_of_endsAt hs hle r₁
            exact (Makes.cancels hop hp hs hle hr).eq_of_run h
      · exact (Makes.succeeds hop).eq_of_run h

theorem Makes.le_attempts {run : Run ε α} (h : Makes policy scope operation op spare attempt now r run t r') :
    attempt ≤ run.attempts := by
  induction h with
  | waits _ _ _ _ ih => exact Nat.le_trans (Nat.le_succ _) ih
  | succeeds _ | exhausts _ | gives _ _ | cancels _ _ _ _ _ => exact Nat.le_refl _

/-- A run ends as it does by its attempts. -/
theorem makes_iff {run : Run ε α} :
    Makes policy scope operation op spare attempt now r run t r' ↔
      (attemptFrom policy scope operation op spare attempt).run now r = some (run, t, r') :=
  ⟨Makes.run, makes_of_run⟩

/-- If every attempt ends with an outcome of some kind, then so does the run: the last of them decides. -/
theorem ends_attemptFrom_of_last {P : Except ε α → Prop}
    (hop : ∀ k t, (op k).Ends (fun outcome _ => P outcome) t) (spare attempt : Nat) (now : Instant) :
    (attemptFrom policy scope operation op spare attempt).Ends
      (fun run _ => P (run.result.mapError RetryFailure.last)) now := by
  induction spare generalizing attempt now with
  | zero =>
    rw [attemptFrom_eq, Work.ends_bind]
    refine (hop attempt now).mono ?_
    rintro (e | value) t hP
    · exact fun _ _ => hP
    · exact fun _ _ => hP
  | succ spare ih =>
    rw [attemptFrom_eq, Work.ends_bind]
    refine (hop attempt now).mono ?_
    rintro (e | value) t hP
    · intro _
      cases hp : policy.retries e with
      | false =>
        rw [afterFailure_of_permanent hp]
        exact fun _ => hP
      | true =>
        rw [afterFailure_of_retries hp]
        intro _
        show ((Work.pause scope _).bind _).Ends _ t
        refine Work.ends_bind.2 ((Work.ends_pause_true scope _ t).mono fun reason u _ => ?_)
        cases reason with
        | some reason => exact fun _ => hP
        | none => exact ih (attempt + 1) u
    · exact fun _ _ => hP

/-! ## Beginnings -/

/-- The instants and states in which the attempts of a run begin. -/
def begins (policy : Policy) (scope : Scope) (operation : String) (op : Nat → Work (Recorded σ) (Except ε α)) :
    (spare attempt : Nat) → Instant → Recorded σ → List (Instant × Recorded σ)
  | 0, _, now, r => [(now, r)]
  | spare + 1, attempt, now, r => (now, r) ::
    match (op attempt).run now r with
    | some (.error e, t, r') =>
      let next := t + (waitBehind policy attempt r').nanos
      if policy.retries e && (scope.reason? next).isNone then
        begins policy scope operation op spare (attempt + 1) next (waiting policy operation attempt r')
      else []
    | _ => []

theorem begins_of_ok (hop : (op attempt).run now r = some (.ok value, t, r')) :
    begins policy scope operation op spare attempt now r = [(now, r)] := by
  cases spare with
  | zero => rfl
  | succ spare => simp [begins, hop]

theorem begins_of_permanent (hop : (op attempt).run now r = some (.error e, t, r')) (hp : policy.retries e = false) :
    begins policy scope operation op spare attempt now r = [(now, r)] := by
  cases spare with
  | zero => rfl
  | succ spare => simp [begins, hop, hp]

theorem begins_of_endsAt (hop : (op attempt).run now r = some (.error e, t, r')) (hs : scope.endsAt = some stop)
    (hle : stop ≤ t + (waitBehind policy attempt r').nanos) :
    begins policy scope operation op spare attempt now r = [(now, r)] := by
  have hreason : scope.reason? (t + (waitBehind policy attempt r').nanos) ≠ none := by
    rw [← Option.isSome_iff_ne_none]
    exact Scope.reason?_isSome_iff.2 ⟨stop, hs, hle⟩
  cases spare with
  | zero => rfl
  | succ spare => simp [begins, hop, hreason]

theorem begins_of_retried (hop : (op attempt).run now r = some (.error e, t, r')) (hp : policy.retries e = true)
    (hnone : scope.reason? (t + (waitBehind policy attempt r').nanos) = none) :
    begins policy scope operation op (spare + 1) attempt now r = (now, r) ::
      begins policy scope operation op spare (attempt + 1) (t + (waitBehind policy attempt r').nanos)
        (waiting policy operation attempt r') := by
  simp [begins, hop, hp, hnone]

theorem Makes.attempts_le {run : Run ε α} (h : Makes policy scope operation op spare attempt now r run t r') :
    run.attempts ≤ attempt + spare := by
  induction h with
  | waits _ _ _ _ ih => omega
  | succeeds _ | exhausts _ | gives _ _ | cancels _ _ _ _ _ => exact Nat.le_add_right _ _

/-- A run has as many beginnings as attempts. -/
theorem Makes.length_begins {run : Run ε α} (h : Makes policy scope operation op spare attempt now r run t r') :
    (begins policy scope operation op spare attempt now r).length + attempt = run.attempts + 1 := by
  induction h with
  | succeeds hop => rw [begins_of_ok hop]; exact Nat.add_comm ..
  | exhausts _ => exact Nat.add_comm ..
  | gives hop hp => rw [begins_of_permanent hop hp]; exact Nat.add_comm ..
  | cancels hop _ hs hle _ => rw [begins_of_endsAt hop hs hle]; exact Nat.add_comm ..
  | waits hop hp hnone _ ih =>
    rw [begins_of_retried hop hp hnone, List.length_cons]
    omega

end MailReconciler.Retry
