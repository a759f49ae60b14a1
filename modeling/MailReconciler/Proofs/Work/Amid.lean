/-
Work that others disturb. `EndsAmid` says that work comes to an end although others change the state before each of its
steps, as far as a relation allows it, and what is then known of its value, of the instant and of the state. Work that
ends whatever states it meets also ends amid others; the rules for sequences are those of `Ends`. `EndsOnly` says the
same of an end that may never come.
-/
import MailReconciler.Proofs.Work.Running

namespace MailReconciler.Work

variable {σ τ α β : Type} {others : Instant → σ → σ → Prop}

/-- Begun at an instant in a state, the work comes to an end although others change the state before each of its steps
as `others` allows, and `post` holds of its value, of the instant of its end and of the state then. -/
def EndsAmid (others : Instant → σ → σ → Prop) (post : α → Instant → σ → Prop) : Work σ α → Instant → σ → Prop
  | .done a, now, s => post a now s
  | .act change next, now, s => ∀ s', others now s s' → (next now s').EndsAmid others post now (change now s')
  | .wait wake next, now, s => next.EndsAmid others post (max now wake) s
  | .never, _, _ => False

theorem EndsAmid.mono {post post' : α → Instant → σ → Prop} (h : ∀ a t s, post a t s → post' a t s) :
    ∀ {w : Work σ α} {now : Instant} {s : σ}, w.EndsAmid others post now s → w.EndsAmid others post' now s
  | .done _, _, _, hw => h _ _ _ hw
  | .act _ _, _, _, hw => fun s' hs => (hw s' hs).mono h
  | .wait _ next, _, _, hw => EndsAmid.mono h (w := next) hw
  | .never, _, _, hw => hw

/-- The less others may do, the more is known of the end. -/
theorem EndsAmid.anti {others' : Instant → σ → σ → Prop} {post : α → Instant → σ → Prop}
    (h : ∀ now s s', others' now s s' → others now s s') :
    ∀ {w : Work σ α} {now : Instant} {s : σ}, w.EndsAmid others post now s → w.EndsAmid others' post now s
  | .done _, _, _, hw => hw
  | .act _ _, _, _, hw => fun s' hs => (hw s' (h _ _ _ hs)).anti h
  | .wait _ next, _, _, hw => EndsAmid.anti h (w := next) hw
  | .never, _, _, hw => hw

/-- Further work is begun in the state in which the first has ended. -/
theorem endsAmid_bind {post : β → Instant → σ → Prop} {k : α → Work σ β} :
    ∀ {w : Work σ α} {now : Instant} {s : σ}, (w.bind k).EndsAmid others post now s ↔
      w.EndsAmid others (fun a t s' => (k a).EndsAmid others post t s') now s
  | .done _, _, _ => .rfl
  | .act _ _, _, _ => forall_congr' fun _ => forall_congr' fun _ => endsAmid_bind
  | .wait _ next, _, _ => endsAmid_bind (w := next)
  | .never, _, _ => .rfl

/-- A pause under a scope that never ends is as long as it should be. -/
theorem endsAmid_pause {scope : Scope} (hscope : scope.endsAt = none) {nanos : Nat} {now : Instant} {s : σ}
    {post : Option EndReason → Instant → σ → Prop}
    (h : ∀ s₁ s₂, others now s s₁ → others (now + nanos) s₁ s₂ → post none (now + nanos) s₂) :
    (pause scope nanos).EndsAmid others post now s := by
  intro s₁ h₁
  simp only [Scope.reason?_of_endless hscope, hscope, Option.elim]
  intro s₂ h₂
  rw [Nat.max_eq_right (Nat.le_add_right now nanos)] at h₂ ⊢
  exact h s₁ s₂ h₁ h₂

/-! ## Ends that may never come -/

/-- If the work comes to an end amid others, then `post` holds of its value, of the instant of its end and of the state
then. -/
def EndsOnly (others : Instant → σ → σ → Prop) (post : α → Instant → σ → Prop) : Work σ α → Instant → σ → Prop
  | .done a, now, s => post a now s
  | .act change next, now, s => ∀ s', others now s s' → (next now s').EndsOnly others post now (change now s')
  | .wait wake next, now, s => next.EndsOnly others post (max now wake) s
  | .never, _, _ => True

theorem EndsOnly.mono {post post' : α → Instant → σ → Prop} (h : ∀ a t s, post a t s → post' a t s) :
    ∀ {w : Work σ α} {now : Instant} {s : σ}, w.EndsOnly others post now s → w.EndsOnly others post' now s
  | .done _, _, _, hw => h _ _ _ hw
  | .act _ _, _, _, hw => fun s' hs => (hw s' hs).mono h
  | .wait _ next, _, _, hw => EndsOnly.mono h (w := next) hw
  | .never, _, _, _ => trivial

theorem endsOnly_bind {post : β → Instant → σ → Prop} {k : α → Work σ β} :
    ∀ {w : Work σ α} {now : Instant} {s : σ}, (w.bind k).EndsOnly others post now s ↔
      w.EndsOnly others (fun a t s' => (k a).EndsOnly others post t s') now s
  | .done _, _, _ => .rfl
  | .act _ _, _, _ => forall_congr' fun _ => forall_congr' fun _ => endsOnly_bind
  | .wait _ next, _, _ => endsOnly_bind (w := next)
  | .never, _, _ => .rfl

/-- Work alone ends as it does amid others who need not change anything. -/
theorem EndsOnly.of_run {post : α → Instant → σ → Prop} (hothers : ∀ now s, others now s s) {a : α} {t : Instant}
    {s' : σ} : ∀ {w : Work σ α} {now : Instant} {s : σ}, w.EndsOnly others post now s →
      w.run now s = some (a, t, s') → post a t s'
  | .done _, _, _, hw, hr => by cases hr; exact hw
  | .act _ _, _, _, hw, hr => (hw _ (hothers _ _)).of_run hothers hr
  | .wait _ next, _, _, hw, hr => EndsOnly.of_run hothers (w := next) hw hr
  | .never, _, _, _, hr => by cases hr

/-- What neither the work nor others change is at the end as it was. -/
theorem Keeps.endsOnly {view : σ → τ} (hothers : ∀ now s s', others now s s' → view s' = view s) :
    ∀ {w : Work σ α}, w.Keeps view → ∀ {now : Instant} {s : σ},
      w.EndsOnly others (fun _ _ s' => view s' = view s) now s
  | .done _, _, _, _ => rfl
  | .act change _, h, now, s => by
    intro s₁ h₁
    refine ((h.2 now s₁).endsOnly hothers).mono ?_
    intro _ _ s' hs'
    rw [hs', h.1 now s₁, hothers now s s₁ h₁]
  | .wait _ next, h, _, _ => Keeps.endsOnly hothers (w := next) h
  | .never, _, _, _ => trivial

end MailReconciler.Work
