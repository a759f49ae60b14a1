/-
Work shrinks while it is polled, and lists shrink with their items: the orders by which a pool ends.
-/
import MailReconciler.Work.Basic

namespace MailReconciler

/-! ## Lists -/

/-- One item of the list is replaced by a smaller one. -/
inductive ShrinksAt {α : Type} (smaller : α → α → Prop) : List α → List α → Prop
  | head {a b : α} (h : smaller b a) (rest : List α) : ShrinksAt smaller (b :: rest) (a :: rest)
  | tail (a : α) {l k : List α} (h : ShrinksAt smaller k l) : ShrinksAt smaller (a :: k) (a :: l)

namespace ShrinksAt

variable {α : Type} {smaller : α → α → Prop}

theorem acc_cons {a : α} (ha : Acc smaller a) :
    ∀ {l : List α}, Acc (ShrinksAt smaller) l → Acc (ShrinksAt smaller) (a :: l) := by
  induction ha with
  | intro a _ iha =>
    intro l hl
    induction hl with
    | intro l hl ihl =>
      refine ⟨_, fun k hk => ?_⟩
      cases hk with
      | head h rest => exact iha _ h ⟨_, hl⟩
      | tail _ h => exact ihl _ h

/-- Lists cannot shrink forever when their items cannot. -/
theorem wf (h : WellFounded smaller) : WellFounded (ShrinksAt smaller) := by
  refine ⟨fun l => ?_⟩
  induction l with
  | nil => exact ⟨_, fun k hk => by cases hk⟩
  | cons a l ih => exact acc_cons (h.apply a) ih

theorem set {l : List α} {i : Nat} {a b : α} (hi : l[i]? = some a) (h : smaller b a) :
    ShrinksAt smaller (l.set i b) l := by
  induction l generalizing i with
  | nil => simp at hi
  | cons c l ih =>
    cases i with
    | zero => obtain rfl : c = a := by simpa using hi
              exact .head h l
    | succ i => exact .tail c (ih (by simpa using hi))

end ShrinksAt

/-! ## Work -/

namespace Work

variable {σ α : Type}

/-- Work that directly follows work. -/
inductive Follows : Work σ α → Work σ α → Prop
  | act (change : Instant → σ → σ) (next : Instant → σ → Work σ α) (now : Instant) (s : σ) :
    Follows (next now s) (.act change next)
  | wait (wake : Instant) (next : Work σ α) : Follows next (.wait wake next)

theorem Follows.wf : WellFounded (Follows (σ := σ) (α := α)) := by
  refine ⟨fun w => ?_⟩
  induction w with
  | done a => exact ⟨_, fun v h => by cases h⟩
  | act change next ih => exact ⟨_, fun v h => by cases h; exact ih _ _⟩
  | wait wake next ih => exact ⟨_, fun v h => by cases h; exact ih⟩
  | never => exact ⟨_, fun v h => by cases h⟩

/-- Work that follows work later on. -/
abbrev Later : Work σ α → Work σ α → Prop := Relation.TransGen Follows

/-- Polled work is where it was, or later. -/
theorem poll_later (w : Work σ α) (now : Instant) (s : σ) : (w.poll now s).1 = w ∨ Later (w.poll now s).1 w := by
  induction w generalizing s with
  | done a => exact .inl rfl
  | act change next ih =>
    right
    rcases ih now s (change now s) with h | h
    · simp only [poll, h]
      exact .single (.act change next now s)
    · exact .tail h (.act change next now s)
  | wait wake next ih =>
    by_cases hw : wake ≤ now
    · right
      rcases ih s with h | h
      · simp only [poll, hw, if_true, h]
        exact .single (.wait wake next)
      · simp only [poll, hw, if_true]
        exact .tail h (.wait wake next)
    · left
      simp [poll, hw]
  | never => exact .inl rfl

end Work
end MailReconciler
