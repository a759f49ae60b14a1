/-
How many failures a breaker bears. A closed breaker bears as many in a row as its threshold is ahead of the failures
that it has counted; each failure takes one away, a success restores them all, and a breaker that bears none is open.
-/
import MailReconciler.Proofs.Breaker.Invariant

namespace MailReconciler

namespace Breaker

variable {b : Breaker} {left : Nat} {now : Instant}

/-- How many failures in a row open a breaker. -/
inductive Bears (b : Breaker) : Nat → Prop
  | closed {left : Nat} : b.mode = .closed → b.failures + (left + 1) = b.settings.failureThreshold.toNat →
      Bears b (left + 1)
  | opened {last : Instant} : b.mode = .opened → b.lastFailure = some last → Bears b 0

theorem Bears.mode_eq (h : b.Bears (left + 1)) : b.mode = .closed := by
  cases h with
  | closed hm _ => exact hm

theorem Bears.failures_eq (h : b.Bears (left + 1)) : b.failures + (left + 1) = b.settings.failureThreshold.toNat := by
  cases h with
  | closed _ hf => exact hf

/-- One failure later a breaker bears one less. -/
theorem Bears.recordFailure (h : b.Bears (left + 1)) (now : Instant) :
    (b.recordFailure now).1.Bears left ∧ (b.recordFailure now).1.name = b.name ∧
      (b.recordFailure now).1.settings = b.settings := by
  have hm := h.mode_eq
  have hf := h.failures_eq
  have hcount : (b.noteFailure now).failures = b.failures + 1 := noteFailure_failures now (by omega)
  have ht := takes_recordFailure b now
  generalize (b.recordFailure now).1 = b' at ht ⊢
  cases ht with
  | bears _ hlt =>
    refine ⟨?_, rfl, rfl⟩
    obtain ⟨left, rfl⟩ : ∃ k, left = k + 1 := ⟨left - 1, by omega⟩
    refine .closed hm ?_
    show (b.noteFailure now).failures + (left + 1) = b.settings.failureThreshold.toNat
    omega
  | trips _ hle =>
    refine ⟨?_, rfl, rfl⟩
    obtain rfl : left = 0 := by omega
    exact .opened rfl rfl
  | relapses hh => rw [hm] at hh; cases hh
  | prolongs ho => rw [hm] at ho; cases ho

theorem Bears.mode_opened (h : b.Bears 0) : b.mode = .opened := by
  cases h with
  | opened hm _ => exact hm

theorem Bears.opened_iff (h : b.Bears left) : b.mode = .opened ↔ left = 0 := by
  cases h with
  | closed hm _ => rw [hm]; simp
  | opened hm _ => simp [hm]

/-- A breaker that has opened stays so as long as its clock has not run on by more than the quiet time. -/
theorem Bears.cooled_eq (h : b.Bears 0)
    (hclock : ∀ last, b.lastFailure = some last → now ≤ last + b.settings.resetTimeout.nanos) :
    b.cooled now = false := by
  cases h with
  | opened hm hl =>
    have hle := hclock _ hl
    unfold cooled
    rw [hl, Option.all_some, decide_eq_false_iff_not, Nat.not_lt]
    exact Nat.sub_le_iff_le_add'.2 hle

/-- A success restores what a breaker bears. -/
theorem Bears.recordSuccess (h : b.Bears (left + 1)) :
    b.recordSuccess.1.Bears b.settings.failureThreshold.toNat ∧ b.recordSuccess.1.settings = b.settings := by
  have hm := h.mode_eq
  have hf := h.failures_eq
  have hreset : b.recordSuccess.1 = { b with failures := 0 } := by
    unfold Breaker.recordSuccess
    rw [hm]
  obtain ⟨threshold, ht⟩ : ∃ k, b.settings.failureThreshold.toNat = k + 1 :=
    ⟨b.settings.failureThreshold.toNat - 1, by omega⟩
  rw [hreset]
  refine ⟨?_, rfl⟩
  rw [ht]
  exact .closed hm ((Nat.zero_add _).trans ht.symm)

/-! ## Calls -/

/-- The breaker after a call whose outcome it is told at once; none if it does not admit the call. -/
def visit (succeeded : Bool) (now : Instant) (b : Breaker) : Option Breaker :=
  if (b.allow now).1 = true then some ((b.allow now).2.1.record now succeeded).1 else none

theorem visit_eq_some {b' : Breaker} {succeeded : Bool} (h : b.visit succeeded now = some b') :
    (b.allow now).1 = true ∧ ((b.allow now).2.1.record now succeeded).1 = b' := by
  unfold visit at h
  split at h
  · rename_i hallow
    exact ⟨hallow, Option.some.inj h⟩
  · cases h

theorem allow_of_closed (h : b.mode = .closed) : b.allow now = (true, b, []) := by
  apply allow_of_not_opened
  rw [h]
  decide

/-- A breaker that bears another failure admits a call; a success restores what it bears, a failure takes one away. -/
theorem Bears.visit (h : b.Bears (left + 1)) (succeeded : Bool) (now : Instant) :
    ∃ b', b.visit succeeded now = some b' ∧ b'.settings = b.settings ∧
      b'.Bears (if succeeded then b.settings.failureThreshold.toNat else left) := by
  unfold Breaker.visit
  rw [allow_of_closed h.mode_eq]
  refine ⟨_, rfl, ?_⟩
  cases succeeded with
  | true =>
    obtain ⟨hbears, hsettings⟩ := h.recordSuccess
    exact ⟨hsettings, hbears⟩
  | false =>
    obtain ⟨hbears, -, hsettings⟩ := h.recordFailure now
    exact ⟨hsettings, hbears⟩

/-- A closed breaker admits a call, and stays closed after a success. -/
theorem visit_of_closed (h : b.mode = .closed) (succeeded : Bool) (now : Instant) :
    ∃ b', b.visit succeeded now = some b' ∧ (succeeded = true → b'.mode = .closed) := by
  unfold Breaker.visit
  rw [allow_of_closed h]
  refine ⟨_, rfl, ?_⟩
  rintro rfl
  show b.recordSuccess.1.mode = .closed
  unfold recordSuccess
  rw [h]

end Breaker

end MailReconciler
