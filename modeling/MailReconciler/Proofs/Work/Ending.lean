/-
How work ends. `Ends` says that work comes to an end whatever states it meets on its way, and what is then known of
its value and of the instant: between any two of its steps others may have changed the state. Work with such an end has
one when it is run alone (`Ends.run`). Under a scope that ends, work and pauses are over when the scope ends, or at
once when it has ended already.
-/
import MailReconciler.Work.Scoped
import Mathlib.Order.MinMax

namespace MailReconciler

/-! ## The end of a scope -/

namespace Scope

variable {scope : Scope} {now stop : Instant}

/-- A scope gives its reason from the instant of its end on. -/
theorem reason?_isSome_iff : (scope.reason? now).isSome ↔ ∃ stop, scope.endsAt = some stop ∧ stop ≤ now := by
  obtain ⟨cancelAt, deadline⟩ := scope
  cases cancelAt with
  | none => cases deadline <;> simp [reason?, endsAt, earlier]
  | some cancel =>
    cases deadline with
    | none => simp [reason?, endsAt, earlier]
    | some deadline =>
      -- a cancellation counts first, but the scope ends at the earlier of the two
      have hmin : min cancel deadline ≤ now ↔ cancel ≤ now ∨ deadline ≤ now := min_le_iff
      by_cases hc : cancel ≤ now <;> simp [reason?, endsAt, earlier, hmin, hc]

theorem reason?_eq_none_iff : scope.reason? now = none ↔ ∀ stop, scope.endsAt = some stop → now < stop := by
  rw [← Option.not_isSome_iff_eq_none, reason?_isSome_iff]
  constructor
  · intro h stop hs
    exact Nat.lt_of_not_le fun hle => h ⟨stop, hs, hle⟩
  · intro h ⟨stop, hs, hle⟩
    exact Nat.not_le.2 (h stop hs) hle

/-- A scope without an end never gives a reason. -/
theorem reason?_of_endless (h : scope.endsAt = none) (now : Instant) : scope.reason? now = none := by
  rw [reason?_eq_none_iff, h]
  intro stop hs
  cases hs

end Scope

namespace Work

variable {σ α β : Type} {now stop limit : Instant} {scope : Scope}

/-! ## Ends -/

/-- Begun at an instant, the work comes to an end whatever states it meets, and `post` holds of its value and of the
instant of its end. -/
def Ends (post : α → Instant → Prop) : Work σ α → Instant → Prop
  | .done a, now => post a now
  | .act _ next, now => ∀ s, (next now s).Ends post now
  | .wait wake next, now => next.Ends post (max now wake)
  | .never, _ => False

theorem Ends.mono {post post' : α → Instant → Prop} (h : ∀ a t, post a t → post' a t) :
    ∀ {w : Work σ α} {now : Instant}, w.Ends post now → w.Ends post' now
  | .done _, _, hw => h _ _ hw
  | .act _ _, _, hw => fun s => (hw s).mono h
  | .wait _ next, _, hw => Ends.mono h (w := next) hw
  | .never, _, hw => hw

/-- Time does not go back while work is done. -/
theorem Ends.le {post : α → Instant → Prop} :
    ∀ {w : Work σ α} {now : Instant}, w.Ends post now → w.Ends (fun a t => now ≤ t ∧ post a t) now
  | .done _, _, hw => ⟨Nat.le_refl _, hw⟩
  | .act _ _, _, hw => fun s => (hw s).le
  | .wait _ next, _, hw =>
    (Ends.le (w := next) hw).mono fun _ _ ⟨hle, hp⟩ => ⟨Nat.le_trans (Nat.le_max_left ..) hle, hp⟩
  | .never, _, hw => hw

/-- Work that goes on with further work ends when the further work does, begun where the first has ended. -/
theorem ends_bind {post : β → Instant → Prop} {k : α → Work σ β} :
    ∀ {w : Work σ α} {now : Instant}, (w.bind k).Ends post now ↔ w.Ends (fun a t => (k a).Ends post t) now
  | .done _, _ => .rfl
  | .act _ _, _ => forall_congr' fun _ => ends_bind
  | .wait _ next, _ => ends_bind (w := next)
  | .never, _ => .rfl

/-- Work that ends whatever states it meets has an end when it is run alone. -/
theorem Ends.run {post : α → Instant → Prop} :
    ∀ {w : Work σ α} {now : Instant}, w.Ends post now → ∀ s, ∃ a t s', w.run now s = some (a, t, s') ∧ post a t
  | .done a, now, hw, s => ⟨a, now, s, rfl, hw⟩
  | .act change _, now, hw, s => (hw s).run (change now s)
  | .wait _ next, _, hw, s => Ends.run (w := next) hw s
  | .never, _, hw, _ => hw.elim

/-- Work ends on a part of a larger state as it does alone. -/
theorem Ends.onPart {τ : Type} {get : τ → σ} {set : σ → τ → τ} {post : α → Instant → Prop} :
    ∀ {w : Work σ α} {now : Instant}, w.Ends post now → (w.onPart get set).Ends post now
  | .done _, _, h => h
  | .act _ _, _, h => fun t => (h (get t)).onPart
  | .wait _ next, _, h => Ends.onPart (w := next) h
  | .never, _, h => h

/-! ## Work under a scope -/

/-- What is cut short by the end of its scope. -/
theorem ends_stop (hn : now ≤ limit) (hs : stop ≤ limit) (f : Instant → σ → α) :
    (Work.wait stop (look f)).Ends (fun _ t => t ≤ limit) now :=
  fun _ => Nat.max_le.2 ⟨hn, hs⟩

/-- Work under a scope is over at any instant that lies neither before its beginning nor before the end of the
scope. -/
theorem ends_within (hscope : scope.endsAt = some stop) (hs : stop ≤ limit) :
    ∀ (w : Work σ α) (now : Instant), now ≤ limit → (w.within scope).Ends (fun _ t => t ≤ limit) now
  | .done _, _, hn => hn
  | .act _ next, now, hn => fun s => ends_within hscope hs (next now s) now hn
  | .wait wake next, now, hn => fun s => by
    have ih := ends_within hscope hs next
    by_cases hw : wake ≤ now
    · simp only [hw, if_true]; exact ih now hn
    · simp only [hw, if_false]
      cases scope.reason? now with
      | some reason => exact hn
      | none =>
        rw [hscope]
        by_cases hws : wake ≤ stop
        · simp only [hws, if_true]; exact ih _ (Nat.max_le.2 ⟨hn, Nat.le_trans hws hs⟩)
        · simp only [hws, if_false]; exact ends_stop hn hs _
  | .never, now, hn => fun s => by
    dsimp only
    cases scope.reason? now with
    | some reason => exact hn
    | none => rw [hscope]; exact ends_stop hn hs _

/-- Work that ends whatever states it meets also ends under a scope, with its value or with the scope. -/
theorem Ends.within {post : α → Prop} (scope : Scope) :
    ∀ {w : Work σ α} {now : Instant}, w.Ends (fun a _ => post a) now →
      (w.within scope).Ends (fun ending _ => ∀ a, ending = .ok a → post a) now
  | .done _, _, h => fun _ ha => by cases ha; exact h
  | .act _ _, _, h => fun s => (h s).within scope
  | .wait wake next, now, h => fun _ => by
    have h : next.Ends (fun a _ => post a) (max now wake) := h
    by_cases hw : wake ≤ now
    · rw [Nat.max_eq_left hw] at h
      simp only [hw, if_true]
      exact Ends.within scope h
    · simp only [hw, if_false]
      cases scope.reason? now with
      | some reason => intro a ha; cases ha
      | none =>
        -- the wait goes on, or it is cut short where the scope ends
        cases scope.endsAt with
        | none => exact Ends.within scope h
        | some stop =>
          by_cases hs : wake ≤ stop
          · simp only [hs, if_true]
            exact Ends.within scope h
          · simp only [hs, if_false]
            intro _ a ha
            cases ha

theorem ends_pause_true (scope : Scope) (nanos : Nat) (now : Instant) :
    (pause scope nanos : Work σ (Option EndReason)).Ends (fun _ _ => True) now := by
  intro _
  dsimp only
  cases scope.reason? now with
  | some reason => trivial
  | none => exact fun _ => trivial

/-- A pause is over at any such instant, and one that the scope does not cut short is over before the scope. -/
theorem ends_pause (hscope : scope.endsAt = some stop) (hs : stop ≤ limit) (hn : now ≤ limit) (nanos : Nat) :
    (pause scope nanos : Work σ (Option EndReason)).Ends
      (fun reason t => t ≤ limit ∧ (reason = none → t < stop)) now := by
  intro s
  dsimp only
  cases hr : scope.reason? now with
  | some reason => exact ⟨hn, nofun⟩
  | none =>
    rw [hscope]
    refine fun _ => ⟨Nat.max_le.2 ⟨hn, Nat.le_trans (Nat.min_le_right ..) hs⟩, fun hnone => ?_⟩
    exact Scope.reason?_eq_none_iff.1 hnone stop hscope

end Work
end MailReconciler
