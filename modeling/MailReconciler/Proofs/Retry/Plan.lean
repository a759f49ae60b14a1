/-
Runs whose attempts follow a plan: each takes a time of its own and comes to an outcome of its own. Such a run ends
with the first attempt that succeeds, is the last one allowed, has an error not worth another, or has the scope end no
later than the wait behind it (`run_isLeast_stops`). Which of these it was tells the result, in this order.
-/
import MailReconciler.Proofs.Retry.Steps
import Mathlib.Order.Bounds.Basic

namespace MailReconciler.Retry

/-- A run as it is planned. Attempts are counted from one. -/
structure Plan (ε α : Type) where
  policy : Policy
  scope : Scope
  operation : String
  /-- How long an attempt takes. -/
  duration : Nat → Nat
  /-- What an attempt comes to. -/
  outcome : Nat → Except ε α
  start : Instant
  random : RandomWords

namespace Plan

variable {σ ε α : Type}

/-- An attempt of a planned run. It leaves a note in the state when it begins. -/
def play (p : Plan ε α) (note : Nat → Instant → σ → σ) (attempt : Nat) : Work (Recorded σ) (Except ε α) := do
  Work.change fun now r => { r with state := note attempt now r.state }
  Work.sleep (p.duration attempt)
  return p.outcome attempt

theorem run_play (p : Plan ε α) (note : Nat → Instant → σ → σ) (attempt : Nat) (now : Instant) (r : Recorded σ) :
    (p.play note attempt).run now r =
      some (p.outcome attempt, now + p.duration attempt, { r with state := note attempt now r.state }) := by
  show some (p.outcome attempt, max now (now + p.duration attempt), _) = _
  rw [Nat.max_eq_right (Nat.le_add_right ..)]

/-! ## The course of a run -/

/-- How many attempts are allowed. -/
def allowed (p : Plan ε α) : Nat := max p.policy.maxAttempts.toNat 1

/-- When the wait behind an attempt is over, and the random words left then; for `0`, the beginning of the run. -/
def waited (p : Plan ε α) : Nat → Instant × RandomWords
  | 0 => (p.start, p.random)
  | k + 1 =>
    let (wait, random) := p.policy.wait k (p.waited k).2
    ((p.waited k).1 + p.duration (k + 1) + wait.nanos, random)

/-- When the wait behind attempt `k` is over and attempt `k + 1` may begin. -/
def resumes (p : Plan ε α) (k : Nat) : Instant := (p.waited k).1

/-- When an attempt is finished. -/
def finishes (p : Plan ε α) (k : Nat) : Instant := p.resumes (k - 1) + p.duration k

/-- The state after the notes of the first `k` attempts. -/
def noted (p : Plan ε α) (note : Nat → Instant → σ → σ) (s : σ) : Nat → σ
  | 0 => s
  | k + 1 => note (k + 1) (p.resumes k) (p.noted note s k)

/-! ## States between attempts -/

variable {p : Plan ε α} {note : Nat → Instant → σ → σ} {s : σ} {k n spare : Nat} {r r' : Recorded σ} {t : Instant}
  {result : Except (RetryFailure ε) α} {e : ε}

/-- The state in which a run that has made `k` attempts comes to the next. -/
structure Arrives (p : Plan ε α) (note : Nat → Instant → σ → σ) (s : σ) (k : Nat) (r : Recorded σ) : Prop where
  random : r.random = (p.waited k).2
  state : r.state = p.noted note s k

/-- The state behind attempt `k + 1` of a run. -/
def behind (p : Plan ε α) (note : Nat → Instant → σ → σ) (k : Nat) (r : Recorded σ) : Recorded σ :=
  { r with state := note (k + 1) (p.resumes k) r.state }

theorem run_behind (p : Plan ε α) (note : Nat → Instant → σ → σ) (k : Nat) (r : Recorded σ) :
    (p.play note (k + 1)).run (p.resumes k) r = some (p.outcome (k + 1), p.finishes (k + 1), p.behind note k r) :=
  p.run_play note (k + 1) (p.resumes k) r

theorem Arrives.state_behind (h : p.Arrives note s k r) : (p.behind note k r).state = p.noted note s (k + 1) := by
  show note (k + 1) (p.resumes k) r.state = _
  rw [h.state]; rfl

/-- The wait that is drawn behind an attempt is the one of the plan. -/
theorem Arrives.wait (h : p.Arrives note s k r) :
    p.finishes (k + 1) + (waitBehind p.policy (k + 1) (p.behind note k r)).nanos = p.resumes (k + 1) := by
  show p.finishes (k + 1) + (p.policy.wait k r.random).1.nanos = _
  rw [h.random]; rfl

theorem Arrives.next (h : p.Arrives note s k r) :
    p.Arrives note s (k + 1) (waiting p.policy p.operation (k + 1) (p.behind note k r)) := by
  refine ⟨?_, h.state_behind⟩
  show (p.policy.wait k r.random).2 = _
  rw [h.random]; rfl

/-! ## The end of a run -/

variable [Report ε]

/-- Whether a run that has come to attempt `k` ends with it. -/
def Stops (p : Plan ε α) (k : Nat) : Prop :=
  (∃ value, p.outcome k = .ok value) ∨ k = p.allowed ∨ (∃ e, p.outcome k = .error e ∧ p.policy.retries e = false) ∨
    ∃ stop, p.scope.endsAt = some stop ∧ stop ≤ p.resumes k

/-- When a run that ends with attempt `n` ends, and with what result. -/
inductive Verdict (p : Plan ε α) (n : Nat) : Instant → Except (RetryFailure ε) α → Prop
  | succeeded {value : α} : p.outcome n = .ok value → Verdict p n (p.finishes n) (.ok value)
  | exhausted {e : ε} : p.outcome n = .error e → n = p.allowed →
      Verdict p n (p.finishes n) (.error (.exhausted p.operation n e))
  | permanent {e : ε} : p.outcome n = .error e → n ≠ p.allowed → p.policy.retries e = false →
      Verdict p n (p.finishes n) (.error (.permanent p.operation n e))
  | cancelled {e : ε} {stop : Instant} {reason : EndReason} : p.outcome n = .error e → n ≠ p.allowed →
      p.policy.retries e = true → p.scope.endsAt = some stop → stop ≤ p.resumes n →
      p.scope.reason? (max (p.finishes n) stop) = some reason →
      Verdict p n (max (p.finishes n) stop) (.error (.cancelled p.operation n reason e))

theorem not_stops (h : ¬ p.Stops k) : k ≠ p.allowed ∧ (∃ e, p.outcome k = .error e ∧ p.policy.retries e = true) ∧
    ∀ stop, p.scope.endsAt = some stop → p.resumes k < stop := by
  unfold Stops at h
  push Not at h
  obtain ⟨hok, hlast, hpermanent, hscope⟩ := h
  refine ⟨hlast, ?_, hscope⟩
  cases ho : p.outcome k with
  | ok value => exact absurd ho (hok value)
  | error e => exact ⟨e, rfl, by simpa using hpermanent e ho⟩

/-! ## Runs -/

/-- What is left of a run that has made `k` attempts ends with the next one that stops it. -/
def EndsLeast (p : Plan ε α) (note : Nat → Instant → σ → σ) (s : σ) (spare k : Nat) (r : Recorded σ) : Prop :=
  ∃ n t result r', k < n ∧ p.Stops n ∧ (∀ j, k < j → j < n → ¬ p.Stops j) ∧ p.Verdict n t result ∧
    r'.state = p.noted note s n ∧
    Makes p.policy p.scope p.operation (p.play note) spare (k + 1) (p.resumes k) r ⟨n, result⟩ t r'

theorem EndsLeast.here (hn : p.Stops (k + 1)) (hv : p.Verdict (k + 1) t result)
    (hmakes : Makes p.policy p.scope p.operation (p.play note) spare (k + 1) (p.resumes k) r ⟨k + 1, result⟩ t r')
    (hs : r'.state = p.noted note s (k + 1)) : p.EndsLeast note s spare k r :=
  ⟨k + 1, t, result, r', Nat.lt_succ_self k, hn, fun j h1 h2 => by omega, hv, hs, hmakes⟩

/-- A run that waits behind an attempt ends where it ends from the next attempt on. -/
theorem EndsLeast.later (hn : ¬ p.Stops (k + 1)) (ho : p.outcome (k + 1) = .error e) (hp : p.policy.retries e = true)
    (h : p.Arrives note s k r)
    (hnext : p.EndsLeast note s spare (k + 1) (waiting p.policy p.operation (k + 1) (p.behind note k r))) :
    p.EndsLeast note s (spare + 1) k r := by
  obtain ⟨n, t, result, r', hlt, hstops, hmin, hv, hs, hmakes⟩ := hnext
  refine ⟨n, t, result, r', Nat.lt_of_succ_lt hlt, hstops, fun j h1 h2 => ?_, hv, hs, ?_⟩
  · rcases Nat.lt_or_ge (k + 1) j with hj | hj
    · exact hmin j hj h2
    · obtain rfl : j = k + 1 := by omega
      exact hn
  · have hplay := p.run_behind note k r
    rw [ho] at hplay
    have hnone := Scope.reason?_eq_none_iff.2 (not_stops hn).2.2
    exact .waits hplay hp (by rw [h.wait]; exact hnone) (by rw [h.wait]; exact hmakes)

theorem endsLeast_of_ok {value : α} (ho : p.outcome (k + 1) = .ok value) (h : p.Arrives note s k r) :
    p.EndsLeast note s spare k r := by
  have hplay := p.run_behind note k r
  rw [ho] at hplay
  exact .here (.inl ⟨value, ho⟩) (.succeeded ho) (.succeeds hplay) h.state_behind

theorem endsLeast (hk : k + 1 + spare = p.allowed) (h : p.Arrives note s k r) : p.EndsLeast note s spare k r := by
  induction spare generalizing k r with
  | zero =>
    cases ho : p.outcome (k + 1) with
    | ok value => exact endsLeast_of_ok ho h
    | error e =>
      have hplay := p.run_behind note k r
      rw [ho] at hplay
      exact .here (.inr (.inl hk)) (.exhausted ho hk) (.exhausts hplay) h.state_behind
  | succ spare ih =>
    have hne : k + 1 ≠ p.allowed := by omega
    cases ho : p.outcome (k + 1) with
    | ok value => exact endsLeast_of_ok ho h
    | error e =>
      have hplay := p.run_behind note k r
      rw [ho] at hplay
      cases hp : p.policy.retries e with
      | false =>
        exact .here (.inr (.inr (.inl ⟨e, ho, hp⟩))) (.permanent ho hne hp) (.gives hplay hp)
          h.state_behind
      | true =>
        by_cases hscope : ∃ stop, p.scope.endsAt = some stop ∧ stop ≤ p.resumes (k + 1)
        · obtain ⟨stop, hstop, hle⟩ := hscope
          obtain ⟨reason, hreason⟩ := Option.isSome_iff_exists.1
            (Scope.reason?_isSome_iff.2 ⟨stop, hstop, Nat.le_max_right (p.finishes (k + 1)) stop⟩)
          exact .here (.inr (.inr (.inr ⟨stop, hstop, hle⟩))) (.cancelled ho hne hp hstop hle hreason)
            (.cancels hplay hp hstop (by rw [h.wait]; exact hle) hreason) h.state_behind
        · have hgoes : ¬ p.Stops (k + 1) := by
            rintro (⟨value, hv⟩ | hlast | ⟨e', he, hp'⟩ | hstop)
            · rw [ho] at hv; cases hv
            · exact hne hlast
            · rw [ho] at he; cases he; rw [hp] at hp'; cases hp'
            · exact hscope hstop
          exact .later hgoes ho hp h (ih (by omega) h.next)

/-- A planned run makes `n` attempts, the least number that stops it, and they begin one by one where the waits before
them are over; its result is the verdict on the last of them. All attempts before the last failed with errors worth
another, no attempt but the first begins when the scope has ended, and a counter of thirty-two bits can count them. -/
theorem run_isLeast_stops (p : Plan ε α) (note : Nat → Instant → σ → σ) (samples : List Sample) (s : σ) :
    ∃ n t result r', IsLeast {k | 1 ≤ k ∧ p.Stops k} n ∧
      (run p.policy p.scope p.operation (p.play note)).run p.start ⟨samples, p.random, s⟩ =
        some (⟨n, result⟩, t, r') ∧
      p.Verdict n t result ∧ r'.state = p.noted note s n ∧
      (∀ k, 1 ≤ k → k < n → (∃ e, p.outcome k = .error e ∧ p.policy.retries e = true) ∧
        ∀ stop, p.scope.endsAt = some stop → p.resumes k < stop) ∧
      n ≤ p.allowed ∧ p.allowed < UInt32.size := by
  have hspare : 0 + 1 + spare p.policy = p.allowed := by
    unfold Retry.spare allowed
    omega
  have hbegin : p.Arrives note s 0 ⟨samples, p.random, s⟩ := ⟨rfl, rfl⟩
  obtain ⟨n, t, result, r', hpos, hn, hmin, hverdict, hs, hmakes⟩ := endsLeast hspare hbegin
  have hleast : IsLeast {k | 1 ≤ k ∧ p.Stops k} n := by
    refine ⟨⟨hpos, hn⟩, fun k ⟨hk, hstops⟩ => ?_⟩
    by_contra hlt
    exact hmin k hk (Nat.lt_of_not_le hlt) hstops
  have hallowed : 1 ≤ p.allowed := Nat.le_max_right ..
  have hsize : p.allowed < UInt32.size := Nat.max_lt.2 ⟨p.policy.maxAttempts.toNat_lt_size, by decide⟩
  exact ⟨n, t, result, r', hleast, hmakes.run, hverdict, hs, fun k h1 h2 => (not_stops (hmin k h1 h2)).2,
    hleast.2 ⟨hallowed, .inr (.inl rfl)⟩, hsize⟩

end Plan
end MailReconciler.Retry
