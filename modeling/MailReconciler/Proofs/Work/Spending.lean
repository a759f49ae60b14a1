/-
What work spends. `Spends` bounds by how much work raises a count of its state, whatever states it meets and however
far it gets: so the bound also holds of work that its scope cuts short. The bounds of a sequence add up, and work that
comes to an end amid others has by then raised a count that only it changes by no more than its bound.
-/
import MailReconciler.Proofs.Work.Amid
import MailReconciler.Proofs.Work.Running

namespace MailReconciler.Work

variable {σ τ α β : Type} {count : σ → Nat} {m n : Nat}

/-- The work raises a count by no more than `most`, whatever states it meets and however far it gets. -/
def Spends (count : σ → Nat) : Work σ α → (most : Nat) → Prop
  | .done _, _ => True
  | .act change next, most =>
    ∀ now s, ∃ left, count (change now s) + left ≤ count s + most ∧ (next now s).Spends count left
  | .wait _ next, most => next.Spends count most
  | .never, _ => True

theorem spends_done (a : α) (most : Nat) : (Work.done a : Work σ α).Spends count most := trivial

theorem Spends.mono : ∀ {w : Work σ α} {m n : Nat}, w.Spends count m → m ≤ n → w.Spends count n
  | .done _, _, _, _, _ => trivial
  | .act _ _, m, n, h, hle => by
    intro now s
    obtain ⟨left, hspent, hnext⟩ := h now s
    exact ⟨left, by omega, hnext⟩
  | .wait _ next, _, _, h, hle => Spends.mono (w := next) h hle
  | .never, _, _, _, _ => trivial

theorem Keeps.spends : ∀ {w : Work σ α}, w.Keeps count → w.Spends count 0
  | .done _, _ => trivial
  | .act _ _, h => fun now s => ⟨0, Nat.le_of_eq (h.1 now s), (h.2 now s).spends⟩
  | .wait _ next, h => Keeps.spends (w := next) h
  | .never, _ => trivial

theorem spends_bind {k : α → Work σ β} (hk : ∀ a, (k a).Spends count n) :
    ∀ {w : Work σ α} {m : Nat}, w.Spends count m → (w.bind k).Spends count (m + n)
  | .done a, m, _ => (hk a).mono (Nat.le_add_left n m)
  | .act _ _, m, h => by
    intro now s
    obtain ⟨left, hspent, hnext⟩ := h now s
    exact ⟨left + n, by omega, spends_bind hk hnext⟩
  | .wait _ next, _, h => spends_bind hk (w := next) h
  | .never, _, _ => trivial

theorem Spends.onPart {get : τ → σ} {set : σ → τ → τ} (hget : ∀ s t, get (set s t) = s) :
    ∀ {w : Work σ α} {m : Nat}, w.Spends count m → (w.onPart get set).Spends (fun t => count (get t)) m
  | .done _, _, _ => trivial
  | .act change _, m, h => by
    intro now t
    obtain ⟨left, hspent, hnext⟩ := h now (get t)
    refine ⟨left, ?_, hnext.onPart hget⟩
    show count (get (set (change now (get t)) t)) + left ≤ count (get t) + m
    rw [hget]
    exact hspent
  | .wait _ next, _, h => Spends.onPart hget (w := next) h
  | .never, _, _ => trivial

/-- Work that its scope may cut short spends no more than it does otherwise. -/
theorem Spends.within (scope : Scope) : ∀ {w : Work σ α} {m : Nat}, w.Spends count m →
    (w.within scope).Spends count m
  | .done _, _, _ => trivial
  | .act _ _, m, h => by
    intro now s
    obtain ⟨left, hspent, hnext⟩ := h now s
    exact ⟨left, hspent, hnext.within scope⟩
  | .wait wake next, m, h => by
    have hn : (next.within scope).Spends count m := Spends.within scope (w := next) h
    intro now s
    refine ⟨m, Nat.le_refl _, ?_⟩
    by_cases hw : wake ≤ now
    · simp only [hw, if_true]
      exact hn
    · simp only [hw, if_false]
      cases scope.reason? now with
      | some reason => trivial
      | none =>
        -- the wait goes on, or it is cut short where the scope ends
        cases scope.endsAt with
        | none => exact hn
        | some stop =>
          by_cases hs : wake ≤ stop
          · simp only [hs, if_true]
            exact hn
          · simp only [hs, if_false]
            exact keeps_stop.spends.mono (Nat.zero_le m)
  | .never, m, _ => (keeps_within scope .never trivial).spends.mono (Nat.zero_le m)

/-- Work that ends has by then spent no more than its bound, if only it changes the count. -/
theorem Spends.endsAmid {others : Instant → σ → σ → Prop}
    (hothers : ∀ now s s', others now s s' → count s' = count s) :
    ∀ {w : Work σ α} {m : Nat} {now : Instant} {s : σ}, w.Spends count m → w.Ends (fun _ _ => True) now →
      w.EndsAmid others (fun _ _ s' => count s' ≤ count s + m) now s
  | .done _, m, _, _, _, _ => Nat.le_add_right _ m
  | .act change _, m, now, s, h, he => by
    intro s₁ h₁
    obtain ⟨left, hspent, hnext⟩ := h now s₁
    refine (hnext.endsAmid hothers (he s₁)).mono ?_
    intro _ _ s' hle
    have hsame := hothers now s s₁ h₁
    omega
  | .wait _ next, _, _, _, h, he => Spends.endsAmid hothers (w := next) h he
  | .never, _, _, _, _, he => he

/-! ## Pauses -/

theorem keeps_pause {view : σ → τ} (scope : Scope) (nanos : Nat) :
    (pause scope nanos : Work σ (Option EndReason)).Keeps view := by
  refine ⟨fun _ _ => rfl, fun now s => ?_⟩
  dsimp only
  cases scope.reason? now with
  | some reason => trivial
  | none => exact ⟨fun _ _ => rfl, fun _ _ => trivial⟩

end MailReconciler.Work
