/-
How long a run of attempts lasts. The waits of a planned run are those that its policy draws, in order, from the random
words of the run. A run that the scope does not cut short takes the time of its attempts and of the waits between them;
since no wait is longer than the longest one of the policy, neither chance nor the outcomes can draw a run out by more.
-/
import MailReconciler.Failure.Plain
import MailReconciler.Proofs.Retry.Backoff
import MailReconciler.Proofs.Retry.Plan
import Mathlib.Algebra.BigOperators.Group.Finset.Basic
import Mathlib.Algebra.Order.BigOperators.Group.Finset

namespace MailReconciler.Retry

/-- Whether the scope has ended a run. -/
def cutShort {ε α : Type} : Except (RetryFailure ε) α → Bool
  | .ok _ => false
  | .error f => f.isCancelled

namespace Plan

variable {σ ε α : Type} (p : Plan ε α)

/-! ## Waits -/

/-- The random words that are left behind the first `k` waits. -/
def words (k : Nat) : RandomWords := (p.waited k).2

/-- The wait behind attempt `k`. -/
def backoff (k : Nat) : Duration := (p.policy.wait (k - 1) (p.words (k - 1))).1

theorem backoff_le_longest (k : Nat) : (p.backoff k).nanos ≤ p.policy.longest.nanos := p.policy.wait_le_longest _ _

theorem finishes_succ (k : Nat) : p.finishes (k + 1) = p.resumes k + p.duration (k + 1) := rfl

theorem resumes_succ (k : Nat) : p.resumes (k + 1) = p.finishes (k + 1) + (p.backoff (k + 1)).nanos := rfl

/-! ## Sums -/

/-- The time that the first `n` attempts take. -/
def attemptTime (n : Nat) : Nat := ∑ k ∈ Finset.range n, p.duration (k + 1)

/-- The time that the first `n` waits take. -/
def waitTime (n : Nat) : Nat := ∑ k ∈ Finset.range n, (p.backoff (k + 1)).nanos

theorem attemptTime_succ (n : Nat) : p.attemptTime (n + 1) = p.attemptTime n + p.duration (n + 1) :=
  Finset.sum_range_succ _ n

theorem waitTime_succ (n : Nat) : p.waitTime (n + 1) = p.waitTime n + (p.backoff (n + 1)).nanos :=
  Finset.sum_range_succ _ n

theorem waitTime_le (n : Nat) : p.waitTime n ≤ n * p.policy.longest.nanos := by
  have hsum := Finset.sum_le_card_nsmul (Finset.range n) (fun k => (p.backoff (k + 1)).nanos) p.policy.longest.nanos
    fun k _ => p.backoff_le_longest (k + 1)
  rwa [Finset.card_range, Nat.nsmul_eq_mul] at hsum

theorem resumes_eq (n : Nat) : p.resumes n = p.start + p.attemptTime n + p.waitTime n := by
  induction n with
  | zero => rfl
  | succ n ih =>
    rw [resumes_succ, finishes_succ, ih, attemptTime_succ, waitTime_succ]
    ac_rfl

theorem finishes_eq {n : Nat} (h : 1 ≤ n) : p.finishes n = p.start + p.attemptTime n + p.waitTime (n - 1) := by
  obtain ⟨k, rfl⟩ := Nat.exists_eq_succ_of_ne_zero (Nat.one_le_iff_ne_zero.1 h)
  rw [finishes_succ, resumes_eq, attemptTime_succ, Nat.succ_sub_one]
  ac_rfl

/-! ## Runs -/

theorem spare_add_one : 0 + 1 + spare p.policy = p.allowed := by
  unfold Retry.spare allowed
  omega

variable {p} [Report ε] {n : Nat} {t : Instant} {result : Except (RetryFailure ε) α}

/-- A run that the scope does not cut short ends with its last attempt. -/
theorem Verdict.eq_finishes (h : p.Verdict n t result) (hcut : cutShort result = false) : t = p.finishes n := by
  cases h with
  | succeeded _ | exhausted _ _ | permanent _ _ _ => rfl
  | cancelled _ _ _ _ _ _ => cases hcut

/-- A run that the scope cuts short had attempts left, and ends in the wait behind the last that it made. -/
theorem Verdict.bounds (hn : 1 ≤ n) (h : p.Verdict n t result) (hcut : cutShort result = true) :
    n ≠ p.allowed ∧ p.finishes n ≤ t ∧ t ≤ p.resumes n := by
  obtain ⟨k, rfl⟩ := Nat.exists_eq_succ_of_ne_zero (Nat.one_le_iff_ne_zero.1 hn)
  have hle : p.finishes (k + 1) ≤ p.resumes (k + 1) := Nat.le_add_right _ (p.backoff (k + 1)).nanos
  cases h with
  | succeeded _ | exhausted _ _ | permanent _ _ _ => cases hcut
  | cancelled _ hne _ _ hstop _ => exact ⟨hne, Nat.le_max_left .., Nat.max_le.2 ⟨hle, hstop⟩⟩

/-- A run has waited behind none but its attempts, and not behind the last one allowed. -/
theorem Verdict.le_longest_waits (hn : 1 ≤ n) (hallowed : n ≤ p.allowed) (h : p.Verdict n t result) :
    t ≤ p.start + p.attemptTime n + (p.allowed - 1) * p.policy.longest.nanos := by
  have hwaits : ∀ m, m ≤ p.allowed - 1 → p.waitTime m ≤ (p.allowed - 1) * p.policy.longest.nanos := fun m hm =>
    (p.waitTime_le m).trans (Nat.mul_le_mul_right _ hm)
  cases hcut : cutShort result with
  | false =>
    rw [h.eq_finishes hcut, finishes_eq p hn]
    exact Nat.add_le_add_left (hwaits _ (Nat.sub_le_sub_right hallowed 1)) _
  | true =>
    obtain ⟨hne, -, hle⟩ := h.bounds hn hcut
    refine hle.trans ?_
    rw [resumes_eq]
    exact Nat.add_le_add_left (hwaits _ (by omega)) _

/-- A planned run ends with an attempt that its policy allows, and with the verdict on it. -/
theorem exists_makes (p : Plan ε α) (note : Nat → Instant → σ → σ) (samples : List Sample) (s : σ) :
    ∃ n t result r', 1 ≤ n ∧ n ≤ p.allowed ∧ p.Verdict n t result ∧ r'.state = p.noted note s n ∧
      Makes p.policy p.scope p.operation (p.play note) (spare p.policy) 1 p.start ⟨samples, p.random, s⟩ ⟨n, result⟩
        t r' := by
  have hbegin : p.Arrives note s 0 ⟨samples, p.random, s⟩ := ⟨rfl, rfl⟩
  obtain ⟨n, t, result, r', hpos, -, hmin, hverdict, hs, hmakes⟩ := endsLeast p.spare_add_one hbegin
  refine ⟨n, t, result, r', hpos, ?_, hverdict, hs, hmakes⟩
  by_contra hlt
  exact hmin p.allowed (Nat.le_max_right ..) (Nat.lt_of_not_le hlt) (.inr (.inl rfl))

/-- Whatever its random words, its outcomes and the time its attempts take, a planned run ends. Behind attempt `k` it
waits as its policy demands for number `k - 1` and the random words left then, and never longer than the longest wait.
A run that is not cut short lasts exactly as long as its attempts and the waits between them; one that is cut short ends
in its last wait. No run lasts longer than its attempts and one longest wait for each attempt that its policy allows
beyond the first. -/
theorem run_lasts_attempts_and_waits (p : Plan ε α) (note : Nat → Instant → σ → σ) (samples : List Sample) (s : σ) :
    (∀ k, p.policy.wait k (p.words k) = (p.backoff (k + 1), p.words (k + 1)) ∧
      (p.backoff (k + 1)).nanos ≤ p.policy.longest.nanos ∧
      p.resumes (k + 1) = p.finishes (k + 1) + (p.backoff (k + 1)).nanos) ∧
    ∃ n t result r', 1 ≤ n ∧ n ≤ p.allowed ∧
      (run p.policy p.scope p.operation (p.play note)).run p.start ⟨samples, p.random, s⟩ =
        some (⟨n, result⟩, t, r') ∧
      r'.state = p.noted note s n ∧
      (cutShort result = false → t = p.start + ∑ k ∈ Finset.range n, p.duration (k + 1) +
        ∑ k ∈ Finset.range (n - 1), (p.backoff (k + 1)).nanos) ∧
      (cutShort result = true → n < p.allowed ∧ p.finishes n ≤ t ∧ t ≤ p.resumes n) ∧
      t ≤ p.start + ∑ k ∈ Finset.range n, p.duration (k + 1) +
        (p.policy.maxAttempts.toNat - 1) * p.policy.longest.nanos := by
  have hfew : p.allowed - 1 = p.policy.maxAttempts.toNat - 1 := by
    unfold allowed
    omega
  obtain ⟨n, t, result, r', hpos, hallowed, hverdict, hs, hmakes⟩ := p.exists_makes note samples s
  refine ⟨fun k => ⟨rfl, p.backoff_le_longest (k + 1), p.resumes_succ k⟩,
    n, t, result, r', hpos, hallowed, hmakes.run, hs, fun hcut => ?_, fun hcut => ?_, ?_⟩
  · rw [hverdict.eq_finishes hcut]
    exact p.finishes_eq hpos
  · obtain ⟨hne, hbounds⟩ := hverdict.bounds hpos hcut
    exact ⟨Nat.lt_of_le_of_ne hallowed hne, hbounds⟩
  · rw [← hfew]
    exact hverdict.le_longest_waits hpos hallowed

/-- A plan whose third attempt succeeds, each attempt ten milliseconds longer than the one before. Chance lengthens the
first wait and shortens the second as much as it may. -/
def stumbling (scope : Scope) : Plan PlainError Unit where
  policy := .api
  scope := scope
  operation := "get_route"
  duration k := 10000000 * k
  outcome k := if k < 3 then .error .passing else .ok ()
  start := 0
  random := .cycle [0xFFFFFFFFFFFFFFFF, 0]

/-- The attempts of the plan, from its beginning on. -/
def stumblingRun (scope : Scope) : Option (Run PlainError Unit × Instant × Recorded Unit) :=
  (run (stumbling scope).policy (stumbling scope).scope (stumbling scope).operation
    ((stumbling scope).play fun _ _ s => s)).run (stumbling scope).start ⟨[], (stumbling scope).random, ()⟩

/-- Such a run waits for six tenths of a second and then for eight; a scope that ends in the second wait cuts it short
there. -/
theorem stumbling_run_waits_twice :
    (((stumbling .endless).backoff 1).nanos = 600000000 ∧ ((stumbling .endless).backoff 2).nanos = 800000000) ∧
    (∃ r', stumblingRun .endless = some (⟨3, .ok ()⟩, 1460000000, r')) ∧
    ∃ result t r', stumblingRun ⟨none, some 700000000⟩ = some (⟨2, result⟩, t, r') ∧ cutShort result = true ∧
      630000000 ≤ t ∧ t ≤ 1430000000 := by
  refine ⟨by decide +kernel, ?_, ?_⟩
  · have hending : (stumblingRun .endless).map (fun r => (r.1.attempts, r.1.result.isOk)) = some (3, true) := by
      decide +kernel
    obtain ⟨-, n, t, result, r', -, -, hrun, -, hlasts, -⟩ :=
      run_lasts_attempts_and_waits (stumbling .endless) (fun _ _ s => s) [] ()
    rw [stumblingRun, hrun] at hending
    obtain ⟨rfl, hok⟩ := Prod.mk.inj (Option.some.inj hending)
    cases result with
    | error e => cases hok
    | ok value =>
      have htime : t = 1460000000 := (hlasts rfl).trans (by decide +kernel)
      rw [htime] at hrun
      exact ⟨r', hrun⟩
  · have hending : (stumblingRun ⟨none, some 700000000⟩).map (fun r => (r.1.attempts, cutShort r.1.result)) =
        some (2, true) := by decide +kernel
    obtain ⟨-, n, t, result, r', -, -, hrun, -, -, hbounds, -⟩ :=
      run_lasts_attempts_and_waits (stumbling ⟨none, some 700000000⟩) (fun _ _ s => s) [] ()
    rw [stumblingRun, hrun] at hending
    obtain ⟨rfl, hcut⟩ := Prod.mk.inj (Option.some.inj hending)
    obtain ⟨-, hfrom, hto⟩ := hbounds hcut
    have hfinishes : (stumbling ⟨none, some 700000000⟩).finishes 2 = 630000000 := by decide +kernel
    have hresumes : (stumbling ⟨none, some 700000000⟩).resumes 2 = 1430000000 := by decide +kernel
    rw [hfinishes] at hfrom
    rw [hresumes] at hto
    exact ⟨result, t, r', hrun, hcut, hfrom, hto⟩

end Plan
end MailReconciler.Retry
