/-
What the samples of a run of attempts tell. Every attempt leaves one that tells its outcome, every wait that is begun
one that tells its length, and the run one that tells how it ended, in the order in which these come about. So the
samples can be counted from the number of attempts and the result alone.
-/
import MailReconciler.Metrics.Recording
import MailReconciler.Proofs.Retry.Waiting

namespace MailReconciler.Retry

variable {σ ε α : Type}

/-- The word for the outcome of an attempt. -/
def attemptLabel : Except ε α → String
  | .ok _ => "success"
  | .error _ => "failure"

/-- The word for the result of a run. -/
def runLabel : Except (RetryFailure ε) α → String
  | .ok _ => "success"
  | .error (.exhausted ..) => "exhausted"
  | .error (.permanent ..) => "non_retryable"
  | .error (.cancelled ..) => "cancelled"

namespace Plan

variable {note : Nat → Instant → σ → σ} {s : σ} {k n spare : Nat} {t : Instant} {r r' : Recorded σ}
  {e : ε} {result : Except (RetryFailure ε) α} {run : Run ε α} {before after : List Sample}

theorem eq_of_run_play {p : Plan ε α} {outcome : Except ε α}
    (h : (p.play note (k + 1)).run (p.resumes k) r = some (outcome, t, r')) :
    p.outcome (k + 1) = outcome ∧ t = p.finishes (k + 1) ∧ r' = p.behind note k r := by
  rw [run_behind] at h
  cases h
  exact ⟨rfl, rfl, rfl⟩

variable [Report ε] (p : Plan ε α)

/-! ## Samples of attempts -/

/-- Whether a run that has come to attempt `k` begins a wait behind it: the attempt has failed, with an error worth
another, and another is allowed. -/
def waitsBehind (k : Nat) : Bool := k != p.allowed && p.policy.retriesOutcome (p.outcome k)

/-- The samples of attempt `k` and of the wait behind it. -/
def attemptSamples (k : Nat) : List Sample :=
  .count Family.attempts [("operation", p.operation), ("outcome", attemptLabel (p.outcome k))] ::
    if p.waitsBehind k then [.time Family.backoff (p.backoff k) [("operation", p.operation)]] else []

/-- The samples of a run that makes `n` attempts, from attempt `k + 1` on. -/
def samplesFrom (k n : Nat) (result : Except (RetryFailure ε) α) : List Sample :=
  (List.range' (k + 1) (n - k)).flatMap p.attemptSamples ++
    [.count Family.runs [("operation", p.operation), ("outcome", runLabel result)]]

variable {p}

theorem waitsBehind_of_ok {value : α} (ho : p.outcome k = .ok value) : p.waitsBehind k = false := by
  rw [waitsBehind, ho, Policy.retriesOutcome, Bool.and_false]

theorem waitsBehind_of_last (hk : k = p.allowed) : p.waitsBehind k = false := by
  rw [waitsBehind, hk, bne_self_eq_false, Bool.false_and]

theorem waitsBehind_of_permanent (ho : p.outcome k = .error e) (hp : p.policy.retries e = false) :
    p.waitsBehind k = false := by
  rw [waitsBehind, ho, Policy.retriesOutcome, hp, Bool.and_false]

theorem waitsBehind_of_retried (hne : k ≠ p.allowed) (ho : p.outcome k = .error e) (hp : p.policy.retries e = true) :
    p.waitsBehind k = true := by
  rw [waitsBehind, ho, Policy.retriesOutcome, hp, bne_iff_ne.2 hne, Bool.and_self]

/-- What a run that has made `k` attempts adds to the samples, and behind which of its attempts it waits. -/
structure Tells (p : Plan ε α) (k : Nat) (before : List Sample) (run : Run ε α) (after : List Sample) : Prop where
  goes : k < run.attempts
  samples : after = before ++ p.samplesFrom k run.attempts run.result
  waits : ∀ j, k < j → j ≤ run.attempts →
    (p.waitsBehind j = true ↔ j < run.attempts ∨ cutShort run.result = true)

/-- The last attempt of a run is followed by a wait if and only if the scope cuts it short. -/
theorem tells_last (hw : p.waitsBehind (k + 1) = cutShort result) :
    p.Tells k before ⟨k + 1, result⟩ (before ++ (p.attemptSamples (k + 1) ++
      [.count Family.runs [("operation", p.operation), ("outcome", runLabel result)]])) where
  goes := Nat.lt_succ_self k
  samples := by
    rw [samplesFrom, Nat.add_sub_cancel_left, List.range'_one, List.flatMap_singleton]
  waits j h1 h2 := by
    obtain rfl : j = k + 1 := Nat.le_antisymm h2 h1
    rw [hw]
    exact ⟨.inr, fun h => h.resolve_left (Nat.lt_irrefl _)⟩

/-- An attempt that is followed by another is followed by a wait. -/
theorem Tells.prepend (hw : p.waitsBehind (k + 1) = true)
    (h : p.Tells (k + 1) (before ++ p.attemptSamples (k + 1)) run after) : p.Tells k before run after where
  goes := Nat.lt_of_succ_lt h.goes
  samples := by
    have hgoes := h.goes
    have hrest : run.attempts - k = run.attempts - (k + 1) + 1 := by omega
    rw [h.samples, samplesFrom, samplesFrom, hrest, List.range'_succ, List.flatMap_cons]
    simp only [List.append_assoc]
  waits j h1 h2 := by
    rcases Nat.lt_or_ge (k + 1) j with hj | hj
    · exact h.waits j hj h2
    · obtain rfl : j = k + 1 := Nat.le_antisymm hj h1
      exact ⟨fun _ => .inl h.goes, fun _ => hw⟩

/-! ## Runs -/

/-- The samples of an attempt that ends its run without a wait. -/
theorem tells_concluded {attempt ending : Outcome} (hw : p.waitsBehind (k + 1) = false) (hcut : cutShort result = false)
    (hattempt : attempt.label = attemptLabel (p.outcome (k + 1))) (hending : ending.label = runLabel result) :
    p.Tells k r.samples ⟨k + 1, result⟩ (concluded p.operation attempt ending (p.behind note k r)).samples := by
  have hlast : p.Tells k r.samples ⟨k + 1, result⟩ _ := tells_last (hw.trans hcut.symm)
  rw [attemptSamples, hw, if_neg Bool.false_ne_true, ← hattempt, ← hending, ← List.append_assoc] at hlast
  exact hlast

/-- The samples of a failed attempt and of the wait behind it. -/
theorem Arrives.samples_waiting (h : p.Arrives note s k r) (ho : p.outcome (k + 1) = .error e)
    (hw : p.waitsBehind (k + 1) = true) :
    (waiting p.policy p.operation (k + 1) (p.behind note k r)).samples = r.samples ++ p.attemptSamples (k + 1) := by
  have hwait : waitBehind p.policy (k + 1) (p.behind note k r) = p.backoff (k + 1) := by
    show (p.policy.wait k r.random).1 = (p.policy.wait k (p.words k)).1
    rw [h.random, words]
  show r.samples ++ [attemptSample p.operation .failure] ++
    [.time Family.backoff (waitBehind p.policy (k + 1) (p.behind note k r)) [("operation", p.operation)]] = _
  rw [attemptSamples, ho, if_pos hw, hwait, List.append_assoc]
  rfl

theorem tells_succeeded {value : α} (ho : p.outcome (k + 1) = .ok value) :
    p.Tells k r.samples ⟨k + 1, .ok value⟩ (concluded p.operation .success .success (p.behind note k r)).samples :=
  tells_concluded (waitsBehind_of_ok ho) rfl (by rw [ho]; rfl) rfl

theorem Arrives.tells (h : p.Arrives note s k r) (hk : k + 1 + spare = p.allowed)
    (hmakes : Makes p.policy p.scope p.operation (p.play note) spare (k + 1) (p.resumes k) r run t r') :
    p.Tells k r.samples run r'.samples := by
  -- the induction is on the attempts left; only one that is followed by another leads to the next case of it
  induction spare generalizing k r with
  | zero =>
    cases hmakes with
    | succeeds hop =>
      obtain ⟨ho, -, rfl⟩ := eq_of_run_play hop
      exact tells_succeeded ho
    | exhausts hop =>
      obtain ⟨ho, -, rfl⟩ := eq_of_run_play hop
      exact tells_concluded (waitsBehind_of_last hk) rfl (by rw [ho]; rfl) rfl
  | succ spare ih =>
    have hne : k + 1 ≠ p.allowed := by omega
    cases hmakes with
    | succeeds hop =>
      obtain ⟨ho, -, rfl⟩ := eq_of_run_play hop
      exact tells_succeeded ho
    | gives hop hp =>
      obtain ⟨ho, -, rfl⟩ := eq_of_run_play hop
      exact tells_concluded (waitsBehind_of_permanent ho hp) rfl (by rw [ho]; rfl) rfl
    | cancels hop hp _ _ _ =>
      obtain ⟨ho, -, rfl⟩ := eq_of_run_play hop
      have hw := waitsBehind_of_retried hne ho hp
      show p.Tells k r.samples _ ((waiting _ _ _ _).samples ++ _)
      rw [h.samples_waiting ho hw, List.append_assoc]
      exact tells_last hw
    | waits hop hp _ hnext =>
      obtain ⟨ho, rfl, rfl⟩ := eq_of_run_play hop
      have hw := waitsBehind_of_retried hne ho hp
      rw [h.wait] at hnext
      have hrest := ih h.next (by omega) hnext
      rw [h.samples_waiting ho hw] at hrest
      exact hrest.prepend hw

/-! ## Counts -/

variable (p)

theorem countP_attempts (k : Nat) : (p.attemptSamples k).countP (·.isOf .counter Family.attempts) = 1 := by
  unfold attemptSamples
  split <;> rfl

theorem countP_runs (k : Nat) : (p.attemptSamples k).countP (·.isOf .counter Family.runs) = 0 := by
  unfold attemptSamples
  split <;> rfl

theorem countP_backoffs (k : Nat) :
    (p.attemptSamples k).countP (·.isOf .histogram Family.backoff) = if p.waitsBehind k then 1 else 0 := by
  unfold attemptSamples
  split <;> rfl

theorem length_samplesOf (n : Nat) (result : Except (RetryFailure ε) α) (kind : SampleKind) (family : String) :
    (Recording.samplesOf (p.samplesFrom 0 n result) kind family).length =
      ((List.range' 1 n).flatMap p.attemptSamples).countP (·.isOf kind family) +
        if (Sample.count Family.runs [("operation", p.operation), ("outcome", runLabel result)]).isOf kind family
        then 1 else 0 := by
  rw [Recording.samplesOf, ← List.countP_eq_length_filter, samplesFrom, List.countP_append, List.countP_singleton]
  rfl

variable {p}

theorem countP_flatMap {q : Sample → Bool} {w : Nat → Bool}
    (h : ∀ k, (p.attemptSamples k).countP q = if w k then 1 else 0) (l : List Nat) :
    (l.flatMap p.attemptSamples).countP q = l.countP w := by
  induction l with
  | nil => rfl
  | cons k l ih => rw [List.flatMap_cons, List.countP_append, h, ih, List.countP_cons, Nat.add_comm]

/-- A run waits behind each of its attempts but the last, and behind that one if the scope cuts it short. -/
theorem Tells.countP_waits (h : p.Tells 0 before run after) :
    (List.range' 1 run.attempts).countP p.waitsBehind =
      if cutShort run.result then run.attempts else run.attempts - 1 := by
  have hmem : ∀ {m k : Nat}, k ∈ List.range' 1 m → 0 < k ∧ k ≤ m := fun hk => by
    rw [List.mem_range'_1] at hk
    omega
  cases hcut : cutShort run.result with
  | true =>
    have hall : ∀ k ∈ List.range' 1 run.attempts, p.waitsBehind k = true := fun k hk =>
      (h.waits k (hmem hk).1 (hmem hk).2).2 (.inr hcut)
    rw [List.countP_eq_length.2 hall, List.length_range', if_pos rfl]
  | false =>
    obtain ⟨m, hm⟩ := Nat.exists_eq_succ_of_ne_zero (Nat.pos_iff_ne_zero.1 h.goes)
    have hfirst : ∀ k ∈ List.range' 1 m, p.waitsBehind k = true := fun k hk =>
      have hlt : k < run.attempts := hm ▸ Nat.lt_succ_of_le (hmem hk).2
      (h.waits k (hmem hk).1 hlt.le).2 (.inl hlt)
    have hlast : p.waitsBehind (1 + m) ≠ true := fun hw => by
      rcases (h.waits (1 + m) (by omega) (by omega)).1 hw with hlt | hcut'
      · omega
      · rw [hcut] at hcut'; cases hcut'
    rw [hm, Nat.succ_eq_add_one, List.range'_1_concat, List.countP_append, List.countP_eq_length.2 hfirst,
      List.countP_singleton, if_neg hlast, List.length_range']
    rfl

/-- Whatever a planned run meets, it leaves these samples and no others, in this order: behind each of its attempts the
one of the attempt, with its outcome, and if it then begins a wait the one of the wait; at the end the one of the run,
with its result. It waits behind every attempt but the last, and behind the last if and only if the scope cuts the run
short. -/
theorem run_samples_tell_attempts (p : Plan ε α) (note : Nat → Instant → σ → σ) (samples : List Sample) (s : σ) :
    ∃ n t result r' emitted, 1 ≤ n ∧ n ≤ p.allowed ∧
      (Retry.run p.policy p.scope p.operation (p.play note)).run p.start ⟨samples, p.random, s⟩ =
        some (⟨n, result⟩, t, r') ∧
      r'.state = p.noted note s n ∧ r'.samples = samples ++ emitted ∧
      emitted = (List.range' 1 n).flatMap (fun k =>
        .count Family.attempts [("operation", p.operation), ("outcome", attemptLabel (p.outcome k))] ::
          if p.waitsBehind k then [.time Family.backoff (p.backoff k) [("operation", p.operation)]] else []) ++
        [.count Family.runs [("operation", p.operation), ("outcome", runLabel result)]] ∧
      (∀ k, 1 ≤ k → k ≤ n → (p.waitsBehind k = true ↔ k < n ∨ cutShort result = true)) ∧
      (Recording.samplesOf emitted .counter Family.attempts).length = n ∧
      (Recording.samplesOf emitted .counter Family.runs).length = 1 ∧
      (Recording.samplesOf emitted .histogram Family.backoff).length = if cutShort result then n else n - 1 := by
  obtain ⟨n, t, result, r', hpos, hallowed, -, hs, hmakes⟩ := p.exists_makes note samples s
  have htells : p.Tells 0 samples ⟨n, result⟩ r'.samples := Arrives.tells ⟨rfl, rfl⟩ p.spare_add_one hmakes
  refine ⟨n, t, result, r', p.samplesFrom 0 n result, hpos, hallowed, hmakes.run, hs, htells.samples, rfl,
    htells.waits, ?_, ?_, ?_⟩
  · have hattempts := countP_flatMap (w := fun _ => true) p.countP_attempts (List.range' 1 n)
    rw [length_samplesOf, hattempts, List.countP_true, List.length_range']
    rfl
  · have hruns := countP_flatMap (w := fun _ => false) p.countP_runs (List.range' 1 n)
    rw [length_samplesOf, hruns, List.countP_false]
    rfl
  · rw [length_samplesOf, countP_flatMap p.countP_backoffs, htells.countP_waits]
    rfl

end Plan
end MailReconciler.Retry
