/-
How long the waits between attempts are. No wait is longer than the longest one of its policy, whatever chance makes of
it. Without a jitter chance has no part in it: a wait doubles with each attempt up to the longest. Durations end where
sixty-four bits of seconds do, but the product that is cut off there lies above the longest wait already.
-/
import MailReconciler.Retry.Policy
import Mathlib.Algebra.Order.Ring.Nat

namespace MailReconciler

namespace Duration

theorem le_iff {a b : Duration} : a ≤ b ↔ a.nanos ≤ b.nanos := .rfl

theorem nanos_min (a b : Duration) : (min a b).nanos = min a.nanos b.nanos := by
  show (if a ≤ b then a else b).nanos = _
  by_cases h : a ≤ b
  · rw [if_pos h, Nat.min_eq_left h]
  · rw [if_neg h, Nat.min_eq_right (Nat.le_of_not_le h)]

/-- A multiple that is cut off at the longest duration is cut off there by any bound as well. -/
theorem nanos_min_times (d : Duration) (n : Nat) (bound : Duration) :
    (min (d.times n) bound).nanos = min (d.nanos * n) bound.nanos := by
  have htimes : (d.times n).nanos = min (d.nanos * n) maxNanos := rfl
  rw [nanos_min, htimes, Nat.min_assoc, Nat.min_eq_right bound.nanos_le]

end Duration

namespace Policy

variable {p : Policy}

/-! ## Accepted policies -/

theorem check_eq_ok_iff : p.check = .ok p ↔
    p.maxAttempts ≠ 0 ∧ p.initial ≤ p.longest ∧ isFractionOfOne p.jitter = true := by
  have hlt : p.longest < p.initial ↔ ¬p.initial ≤ p.longest := Nat.not_le.symm
  unfold check
  by_cases hmax : p.maxAttempts = 0
  · simp [hmax]
  · by_cases hle : p.initial ≤ p.longest
    · cases hjitter : isFractionOfOne p.jitter <;> simp [hmax, hlt, hle]
    · simp [hmax, hlt, hle]

/-- A double that equals zero, of either sign, is not above it. -/
theorem le_zero_of_beq_zero {x : Float} (h : (x == 0.0) = true) : x ≤ 0.0 := by
  have hcompare : x.toModel.unpack.compare (0.0 : Float).toModel.unpack = some .eq := beq_iff_eq.1 h
  show (Float.le x 0.0) = true
  show decide ((x.toModel.unpack.compare (0.0 : Float).toModel.unpack).any (·.isLE) = true) = true
  rw [hcompare]
  rfl

/-! ## Waits -/

theorem nanos_plainWait (p : Policy) (n : Nat) :
    (p.plainWait n).nanos = min (p.initial.nanos * 2 ^ min n 30) p.longest.nanos := by
  unfold plainWait
  rw [Duration.nanos_min_times, Nat.one_shiftLeft]
  rfl

/-- No wait is longer than the longest one, whether chance has changed it or not. -/
theorem wait_le_longest (p : Policy) (n : Nat) (source : RandomWords) : (p.wait n source).1 ≤ p.longest := by
  have hmin : ∀ d : Duration, min d p.longest ≤ p.longest := fun d => by
    rw [Duration.le_iff, Duration.nanos_min]
    exact Nat.min_le_right ..
  unfold wait
  dsimp only
  split
  · exact hmin _
  · exact hmin _

end Policy

/-- A policy that is accepted and has no jitter uses no random word for its waits. They double with each attempt, thirty
times at most, up to the longest wait: exactly so, and therefore as if there were no end to the doubling unless thirty
times are too few to reach the longest wait. They lie between the first wait and the longest, never become shorter, and
are empty if and only if the first one is. -/
theorem wait_doubles_without_jitter {p : Policy} (hp : p.check = .ok p) (hjitter : (p.jitter == 0.0) = true) :
    (∀ n source, p.wait n source = (p.plainWait n, source)) ∧
    (∀ n, (p.plainWait n).nanos = min (p.initial.nanos * 2 ^ min n 30) p.longest.nanos) ∧
    (∀ n, n ≤ 30 ∨ p.longest.nanos ≤ p.initial.nanos * 2 ^ 30 →
      (p.plainWait n).nanos = min (p.initial.nanos * 2 ^ n) p.longest.nanos) ∧
    (∀ n, p.initial ≤ p.plainWait n ∧ p.plainWait n ≤ p.longest) ∧
    (∀ m n, m ≤ n → p.plainWait m ≤ p.plainWait n) ∧
    ∀ n, (p.plainWait n).nanos = 0 ↔ p.initial.nanos = 0 := by
  obtain ⟨-, hle, -⟩ := Policy.check_eq_ok_iff.1 hp
  have hpow : ∀ {m n : Nat}, m ≤ n → p.initial.nanos * 2 ^ m ≤ p.initial.nanos * 2 ^ n := fun h =>
    Nat.mul_le_mul_left _ (Nat.pow_le_pow_right (by decide) h)
  have hfirst : ∀ n, p.initial ≤ p.plainWait n := fun n => by
    rw [Duration.le_iff, p.nanos_plainWait]
    exact Nat.le_min.2 ⟨Nat.le_mul_of_pos_right _ (Nat.two_pow_pos _), hle⟩
  refine ⟨fun n source => ?_, p.nanos_plainWait, fun n hn => ?_, fun n => ⟨hfirst n, ?_⟩, fun m n hmn => ?_,
    fun n => ?_⟩
  · unfold Policy.wait
    simp [Policy.le_zero_of_beq_zero hjitter]
  · rw [p.nanos_plainWait]
    by_cases hfew : n ≤ 30
    · rw [Nat.min_eq_left hfew]
    · -- the thirtieth wait is the longest, and so is every later one
      have hlong : p.longest.nanos ≤ p.initial.nanos * 2 ^ 30 := hn.resolve_left hfew
      have hmore : 30 ≤ n := Nat.le_of_not_le hfew
      rw [Nat.min_eq_right hmore, Nat.min_eq_right hlong, Nat.min_eq_right (hlong.trans (hpow hmore))]
  · rw [Duration.le_iff, p.nanos_plainWait]
    exact Nat.min_le_right ..
  · rw [Duration.le_iff, p.nanos_plainWait, p.nanos_plainWait]
    exact min_le_min_right _ (hpow (min_le_min_right 30 hmn))
  · constructor
    · intro hzero
      have hbelow : p.initial.nanos ≤ (p.plainWait n).nanos := hfirst n
      exact Nat.le_zero.1 (hbelow.trans_eq hzero)
    · intro hzero
      rw [p.nanos_plainWait, hzero, Nat.zero_mul, Nat.zero_min]

/-- A policy whose jitter is the negative zero, and whose first wait is about thirty-five thousand years. -/
def agelong : Policy := { Policy.api with initial := .ofSeconds (1 <<< 40), longest := .longest, jitter := -0.0 }

/-- Such waits are exact up to the longest duration, which the twenty-fourth doubling would exceed by a nanosecond. -/
theorem agelong_waits_exact : (agelong.check = .ok agelong ∧ (agelong.jitter == 0.0) = true) ∧
    (∀ source, agelong.wait 23 source = (.ofSeconds (1 <<< 63), source)) ∧
    ∀ source, agelong.wait 4294967295 source = (.longest, source) := by
  have hcheck : agelong.check = .ok agelong := Policy.check_eq_ok_iff.2 (by decide +kernel)
  have hjitter : (agelong.jitter == 0.0) = true := by decide +kernel
  obtain ⟨hwait, -⟩ := wait_doubles_without_jitter hcheck hjitter
  refine ⟨⟨hcheck, hjitter⟩, fun source => ?_, fun source => ?_⟩
  · have hplain : agelong.plainWait 23 = .ofSeconds (1 <<< 63) := by decide +kernel
    rw [hwait, hplain]
  · have hplain : agelong.plainWait 4294967295 = .longest := by decide +kernel
    rw [hwait, hplain]

end MailReconciler
