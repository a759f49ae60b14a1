/-
Guarded calls that fail each time. What the attempts do to the remote state is followed through a view of it that others
leave alone, while they keep the state steady. If every attempt fails with an error worth another, the retries count
attempts while the breaker counts failures: so the call ends where the first of the two counts is full, with the last
attempt or at the breaker that has opened before it, and each failure has changed the view once.
-/
import MailReconciler.Proofs.Breaker.Bearing
import MailReconciler.Proofs.Client.Attempts
import MailReconciler.Proofs.Work.Amid

namespace MailReconciler

section Failing

variable {ρ β α γ : Type}

/-! ## What others do -/

/-- What others may do to a remote state: they leave alone what the view shows of it, and keep it steady. -/
structure Aloof (view : ρ → β) (steady : ρ → Prop) (r r' : ρ) : Prop where
  seen : view r' = view r
  steady : steady r'

/-- What others may do beside a call that has the breaker to itself: they leave the breaker alone, and while it is open
they do not let its clock run on by more than the quiet time. -/
structure Beside (view : ρ → β) (steady : ρ → Prop) (now : Instant) (w w' : World ρ) : Prop where
  breaker : w'.state.breaker = w.state.breaker
  remote : Aloof view steady w.state.remote w'.state.remote
  clock : w.state.breaker.mode = .opened → ∀ last, w.state.breaker.lastFailure = some last →
    w'.read now ≤ last + w.state.breaker.settings.resetTimeout.nanos

/-- The breaker is as it was, and the view shows the same. -/
structure Unmoved (view : ρ → β) (w w' : World ρ) : Prop where
  breaker : w'.state.breaker = w.state.breaker
  seen : view w'.state.remote = view w.state.remote

variable {view : ρ → β} {steady : ρ → Prop} {policy : Policy} {scope : Scope} {operation : String}
  {after : Nat → ApiFailure → β → β} {op : Nat → Work ρ (Except ApiFailure α)} {spare attempt left : Nat}
  {now : Instant} {r r' : ρ} {w w₁ w' : World ρ} {e : ApiFailure} {errors : List ApiFailure}

theorem Beside.unmoved (h : Beside view steady now w w') : Unmoved view w w' := ⟨h.breaker, h.remote.seen⟩

theorem Unmoved.trans (h : Unmoved view w w₁) (h' : Unmoved view w₁ w') : Unmoved view w w' :=
  ⟨h'.breaker.trans h.breaker, h'.seen.trans h.seen⟩

theorem Unmoved.emit (h : Unmoved view w w') (samples : List Sample) : Unmoved view w (w'.emit samples) :=
  ⟨h.breaker, h.seen⟩

theorem Unmoved.random (h : Unmoved view w w') (random : RandomWords) : Unmoved view w { w' with random } :=
  ⟨h.breaker, h.seen⟩

/-! ## Operations -/

/-- The view alone decides how work ends amid others who keep aloof. -/
theorem Work.EndsAmid.of_seen {post : γ → Instant → β → Prop} : ∀ {w : Work ρ γ} {now : Instant} {r r' : ρ},
    w.EndsAmid (fun _ => Aloof view steady) (fun a t s => post a t (view s)) now r → view r' = view r →
    w.EndsAmid (fun _ => Aloof view steady) (fun a t s => post a t (view s)) now r'
  | .done a, now, r, r', h, hr => by
    show post a now (view r')
    rw [hr]
    exact h
  | .act _ _, _, _, _, h, hr => fun s hs => h s ⟨hs.seen.trans hr, hs.steady⟩
  | .wait _ next, _, _, _, h, hr => Work.EndsAmid.of_seen (w := next) h hr

/-- An operation that the breaker has let through ends under a scope without an end as it does alone. -/
theorem endsAmid_insideBreaker (hscope : scope.endsAt = none) {ε : Type} {post : Except ε α → Instant → β → Prop} :
    ∀ (work : Work ρ (Except ε α)) (now : Instant) (w : World ρ),
      work.EndsAmid (fun _ => Aloof view steady) (fun outcome t s => post outcome t (view s)) now w.state.remote →
      (insideBreaker scope work).EndsAmid (Beside view steady) (fun ending t w' => ∃ outcome, ending = .ok outcome ∧
        post outcome t (view w'.state.remote) ∧ w'.state.breaker = w.state.breaker) now w
  | .done outcome, _, _, h => ⟨outcome, rfl, h, rfl⟩
  | .act change next, now, w, h => by
    intro w₁ h₁
    refine (endsAmid_insideBreaker hscope (next now w₁.state.remote) now _ (h _ h₁.remote)).mono ?_
    rintro ending t w' ⟨outcome, he, hp, hb⟩
    exact ⟨outcome, he, hp, hb.trans h₁.breaker⟩
  | .wait wake next, now, w, h => by
    intro w₁ h₁
    have hnext : ∀ at', next.EndsAmid (fun _ => Aloof view steady) (fun outcome t s => post outcome t (view s)) at'
        w.state.remote → (insideBreaker scope next).EndsAmid (Beside view steady) (fun ending t w' => ∃ outcome,
          ending = .ok outcome ∧ post outcome t (view w'.state.remote) ∧ w'.state.breaker = w.state.breaker) at' w₁ := by
      intro at' hn
      refine (endsAmid_insideBreaker hscope next at' w₁ (hn.of_seen h₁.remote.seen)).mono ?_
      rintro ending t w' ⟨outcome, he, hp, hb⟩
      exact ⟨outcome, he, hp, hb.trans h₁.breaker⟩
    by_cases hw : wake ≤ now
    · have h : next.EndsAmid _ _ (max now wake) w.state.remote := h
      rw [Nat.max_eq_left hw] at h
      simp only [hw, if_true]
      exact hnext now h
    · simp only [hw, if_false, Scope.reason?_of_endless hscope, hscope]
      exact hnext (max now wake) h
  | .never, _, _, h => h.elim

/-- An operation has failed with an error worth another attempt, after which the view shows what is due to the error. -/
def FailsWith (policy : Policy) (due : ApiFailure → β) (outcome : Except ApiFailure α) (_ : Instant) (seen : β) : Prop :=
  ∃ e, outcome = .error e ∧ policy.retries e = true ∧ seen = due e

/-- Every attempt fails with an error worth another, and changes what the view shows as the error demands. -/
def FailsEach (policy : Policy) (view : ρ → β) (steady : ρ → Prop) (after : Nat → ApiFailure → β → β)
    (op : Nat → Work ρ (Except ApiFailure α)) : Prop :=
  ∀ attempt now r, (op attempt).EndsAmid (fun _ => Aloof view steady)
    (fun outcome t s => FailsWith policy (after attempt · (view r)) outcome t (view s)) now r

/-! ## One attempt -/

/-- What is known of an attempt that has failed where the breaker let it through. -/
structure Failed (policy : Policy) (view : ρ → β) (after : Nat → ApiFailure → β → β) (attempt left : Nat)
    (w : World ρ) (e : ApiFailure) (w' : World ρ) : Prop where
  retries : policy.retries e = true
  bears : w'.state.breaker.Bears left
  name : w'.state.breaker.name = w.state.breaker.name
  seen : view w'.state.remote = after attempt e (view w.state.remote)

theorem endsAmid_throughBreaker (hscope : scope.endsAt = none) (hop : FailsEach policy view steady after op)
    (hb : w.state.breaker.Bears (left + 1)) :
    (throughBreaker scope (op attempt)).EndsAmid (Beside view steady) (fun result _ w' => ∃ e,
      result = .error (.operation e) ∧ Failed policy view after attempt left w e w') now w := by
  rw [throughBreaker_eq]
  intro w₁ h₁ w₂ h₂
  -- the breaker is closed when it is asked, because only the call uses it
  have hbegun : Unmoved view w w₂ := h₁.unmoved.trans h₂.unmoved
  have hclosed : w₂.state.breaker.mode ≠ .opened := by
    rw [hbegun.breaker, hb.mode_eq]
    decide
  simp only [World.allow_of_not_opened hclosed, if_true]
  have hinside := endsAmid_insideBreaker hscope (op attempt) now (Recorded.emit [] w₂) (hop attempt now w₂.state.remote)
  refine Work.endsAmid_bind.2 (hinside.mono ?_)
  rintro _ t w₃ ⟨_, rfl, ⟨e, rfl, he, hseen⟩, h₃⟩ w₄ h₄
  -- the outcome is recorded in the breaker that the attempt has found
  have hbreaker : w₄.state.breaker = w.state.breaker := h₄.breaker.trans (h₃.trans hbegun.breaker)
  obtain ⟨hbears, hname, -⟩ := (hbreaker ▸ hb).recordFailure (w₄.read t)
  refine ⟨e, rfl, he, hbears, hname.trans (congrArg _ hbreaker), ?_⟩
  show view w₄.state.remote = _
  rw [h₄.remote.seen, hseen, hbegun.seen]

theorem endsAmid_throughBreaker_of_opened {work : Work ρ (Except ApiFailure α)} (hb : w.state.breaker.Bears 0) :
    (throughBreaker scope work).EndsAmid (Beside view steady)
      (fun result _ w' => result = .error (.rejected w.state.breaker.name) ∧ Unmoved view w w') now w := by
  rw [throughBreaker_eq]
  intro w₁ h₁ w₂ h₂
  have hbreaker : w₂.state.breaker = w.state.breaker := h₂.breaker.trans h₁.breaker
  have hb₂ : w₂.state.breaker.Bears 0 := hbreaker ▸ hb
  -- its clock has not run on far enough for a trial
  have hclock := h₂.clock ((congrArg _ h₁.breaker).trans hb.mode_opened)
  have hcold : w₂.state.breaker.cooled (w₂.read now) = false := by
    refine hb₂.cooled_eq ?_
    rw [h₂.breaker]
    exact hclock
  simp only [World.allow_of_not_cooled hb₂.mode_opened hcold, Bool.false_eq_true, if_false]
  exact ⟨by rw [h₁.breaker], h₁.unmoved.trans (h₂.unmoved.emit _)⟩

/-! ## Whole calls -/

/-- What the view shows when attempts, numbered from one on, have failed with some errors. -/
def afterErrors (after : Nat → ApiFailure → β → β) : (attempt : Nat) → List ApiFailure → β → β
  | _, [], seen => seen
  | attempt, e :: errors, seen => afterErrors after (attempt + 1) errors (after attempt e seen)

/-- How a call ends that comes to an attempt with some further attempts to spare, at a breaker that bears `left`
failures, when its attempts fail with these errors. -/
structure Worn (view : ρ → β) (after : Nat → ApiFailure → β → β) (operation : String) (spare attempt left : Nat)
    (w : World ρ) (errors : List ApiFailure) (run : CallRun α) (w' : World ρ) : Prop where
  length : errors.length = min (spare + 1) left
  seen : view w'.state.remote = afterErrors after attempt errors (view w.state.remote)
  exhausted : spare < left → ∃ e, errors.getLast? = some e ∧
    run = ⟨attempt + spare, .error (.exhausted operation (attempt + spare) e)⟩
  rejected : left ≤ spare → run = ⟨attempt + left, .error (.rejected operation w.state.breaker.name)⟩
  opened : w'.state.breaker.mode = .opened ↔ left ≤ spare + 1

theorem endsAmid_end {result : Except (RetryFailure (BreakerFailure ApiFailure)) α} {outcome : Retry.Outcome}
    {post : CallRun α → World ρ → Prop}
    (h : ∀ w', Unmoved view w w' → post ⟨attempt, result.mapError CallFailure.ofRetry⟩ w') :
    (Retry.finish operation outcome ⟨attempt, result⟩).EndsAmid (Beside view steady)
      (fun run t w' => (Work.done ⟨run.attempts, run.result.mapError CallFailure.ofRetry⟩).EndsAmid
        (Beside view steady) (fun run _ w' => post run w') t w') now w :=
  fun _ h₁ => h _ (h₁.unmoved.emit _)

/-- What is left of a call when the breaker has opened is one rejection. -/
theorem endsAmid_callFrom_of_opened
    (hrejection : policy.retries (.rejected w.state.breaker.name : BreakerFailure ApiFailure) = false)
    (hb : w.state.breaker.Bears 0) :
    (callFrom policy scope operation op spare attempt).EndsAmid (Beside view steady)
      (fun run _ w' => Worn view after operation spare attempt 0 w [] run w') now w := by
  unfold callFrom
  rw [Work.endsAmid_bind, Retry.attemptFrom_eq, Work.endsAmid_bind]
  refine (endsAmid_throughBreaker_of_opened hb).mono ?_
  rintro _ t w₁ ⟨rfl, h₁⟩ w₂ h₂
  have hworn : ∀ w', Unmoved view (w₂.emit [Retry.attemptSample operation .failure]) w' →
      Worn view after operation spare attempt 0 w []
        (⟨attempt, .error (.rejected operation w.state.breaker.name)⟩ : CallRun α) w' := by
    intro w' h'
    have h := h₁.trans ((h₂.unmoved.emit _).trans h')
    refine ⟨(Nat.min_zero _).symm, h.seen, fun hlt => absurd hlt (Nat.not_lt_zero _), fun _ => rfl, ?_⟩
    rw [h.breaker, hb.mode_opened]
    simp
  cases spare with
  | zero => exact endsAmid_end hworn
  | succ spare =>
    rw [Retry.afterFailure_of_permanent hrejection]
    exact endsAmid_end hworn

/-- A call that goes on after an attempt ends as it does from the next attempt on. -/
theorem Failed.worn {run : CallRun α} (h : Failed policy view after attempt left w e w₁) {w₂ : World ρ}
    (hs : Unmoved view w₁ w₂) (hnext : Worn view after operation spare (attempt + 1) left w₂ errors run w') :
    Worn view after operation (spare + 1) attempt (left + 1) w (e :: errors) run w' := by
  have hadd : ∀ n, attempt + (n + 1) = attempt + 1 + n := by
    intro n
    omega
  refine ⟨?_, ?_, ?_, ?_, ?_⟩
  · rw [List.length_cons, hnext.length, Nat.add_min_add_right]
  · rw [hnext.seen, hs.seen, h.seen]
    rfl
  · intro hlt
    obtain ⟨last, hlast, hrun⟩ := hnext.exhausted (Nat.lt_of_succ_lt_succ hlt)
    rw [hadd]
    exact ⟨last, by rw [List.getLast?_cons, hlast]; rfl, hrun⟩
  · intro hle
    have hname : w₂.state.breaker.name = w.state.breaker.name := by rw [hs.breaker, h.name]
    rw [hadd, ← hname]
    exact hnext.rejected (Nat.le_of_succ_le_succ hle)
  · rw [hnext.opened]
    exact Nat.succ_le_succ_iff.symm

theorem endsAmid_callFrom_zero (hscope : scope.endsAt = none) (hop : FailsEach policy view steady after op)
    (hb : w.state.breaker.Bears (left + 1)) :
    (callFrom policy scope operation op 0 attempt).EndsAmid (Beside view steady)
      (fun run _ w' => ∃ errors, Worn view after operation 0 attempt (left + 1) w errors run w') now w := by
  unfold callFrom
  rw [Work.endsAmid_bind, Retry.attemptFrom_eq, Work.endsAmid_bind]
  refine (endsAmid_throughBreaker hscope hop hb).mono ?_
  rintro _ t w₁ ⟨e, rfl, h₁⟩ w₂ h₂
  refine endsAmid_end fun w' h' => ⟨[e], ?_⟩
  have hs : Unmoved view w₁ w' := (h₂.unmoved.emit _).trans h'
  refine ⟨?_, hs.seen.trans h₁.seen, fun _ => ⟨e, rfl, rfl⟩, fun hle => absurd hle (Nat.not_succ_le_zero _), ?_⟩
  · rw [Nat.min_eq_left (Nat.succ_le_succ (Nat.zero_le left))]
    rfl
  · rw [hs.breaker, h₁.bears.opened_iff]
    omega

/-- An attempt that fails is followed by the next one, which finds the breaker and the view as it has left them. -/
theorem endsAmid_callFrom_succ (hscope : scope.endsAt = none) (hop : FailsEach policy view steady after op)
    (hb : w.state.breaker.Bears (left + 1)) {post : CallRun α → Instant → World ρ → Prop}
    (hnext : ∀ e w₁ w₂ t, Failed policy view after attempt left w e w₁ → Unmoved view w₁ w₂ →
      (callFrom policy scope operation op spare (attempt + 1)).EndsAmid (Beside view steady) post t w₂) :
    (callFrom policy scope operation op (spare + 1) attempt).EndsAmid (Beside view steady) post now w := by
  unfold callFrom
  rw [Work.endsAmid_bind, Retry.attemptFrom_eq, Work.endsAmid_bind]
  refine (endsAmid_throughBreaker hscope hop hb).mono ?_
  rintro _ t w₁ ⟨e, rfl, h₁⟩ w₂ h₂
  have hretries : policy.retries (BreakerFailure.operation e) = true := h₁.retries
  rw [Retry.afterFailure_of_retries hretries]
  intro w₃ h₃
  show ((Work.pause scope _).bind _).EndsAmid _ _ t _
  refine Work.endsAmid_bind.2 (Work.endsAmid_pause hscope fun w₄ w₅ h₄ h₅ => ?_)
  -- the wait is over, and the call comes to the next attempt
  have hs : Unmoved view w₁ w₅ := by
    have h₃ : Unmoved view w₁ w₃ := (h₂.unmoved.emit _).trans h₃.unmoved
    exact (((h₃.random _).emit _).trans h₄.unmoved).trans h₅.unmoved
  exact Work.endsAmid_bind.1 (hnext e w₁ w₅ _ h₁ hs)

theorem worn_callFrom (hscope : scope.endsAt = none) (hop : FailsEach policy view steady after op) (spare : Nat) :
    ∀ (attempt left : Nat) (now : Instant) (w : World ρ),
      policy.retries (.rejected w.state.breaker.name : BreakerFailure ApiFailure) = false →
      w.state.breaker.Bears (left + 1) →
      (callFrom policy scope operation op spare attempt).EndsAmid (Beside view steady)
        (fun run _ w' => ∃ errors, Worn view after operation spare attempt (left + 1) w errors run w') now w := by
  induction spare with
  | zero =>
    intro attempt left now w _ hb
    exact endsAmid_callFrom_zero hscope hop hb
  | succ spare ih =>
    intro attempt left now w hrejection hb
    refine endsAmid_callFrom_succ hscope hop hb fun e w₁ w₂ t h₁ hs => ?_
    have hbears : w₂.state.breaker.Bears left := hs.breaker ▸ h₁.bears
    have hname : w₂.state.breaker.name = w.state.breaker.name := by rw [hs.breaker, h₁.name]
    have hrest : (callFrom policy scope operation op spare (attempt + 1)).EndsAmid (Beside view steady)
        (fun run _ w' => ∃ errors, Worn view after operation spare (attempt + 1) left w₂ errors run w') t w₂ := by
      cases left with
      | zero => exact (endsAmid_callFrom_of_opened (hname ▸ hrejection) hbears).mono fun _ _ _ h => ⟨[], h⟩
      | succ left => exact ih (attempt + 1) left t w₂ (hname ▸ hrejection) hbears
    refine hrest.mono ?_
    rintro run _ w' ⟨errors, h⟩
    exact ⟨e :: errors, h₁.worn hs h⟩

end Failing
end MailReconciler
