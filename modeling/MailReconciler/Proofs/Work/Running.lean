/-
Laws of running work alone: sequences, pauses, and work that keeps a part of the state.
-/
import MailReconciler.Proofs.Work.Ending

namespace MailReconciler.Work

variable {σ τ υ α β : Type} {now stop t : Instant} {s s' : σ} {scope : Scope} {a : α}

/-! ## Sequences -/

theorem bind_assoc {γ : Type} (k : α → Work σ β) (l : β → Work σ γ) :
    ∀ w : Work σ α, (w.bind k).bind l = w.bind fun a => (k a).bind l
  | .done _ => rfl
  | .act change next => congrArg (Work.act change) (funext fun now => funext fun s => bind_assoc k l (next now s))
  | .wait wake next => congrArg (Work.wait wake) (bind_assoc k l next)
  | .never => rfl

theorem run_bind (k : α → Work σ β) :
    ∀ (w : Work σ α) (now : Instant) (s : σ), (w.bind k).run now s = (w.run now s).bind fun r => (k r.1).run r.2.1 r.2.2
  | .done _, _, _ => rfl
  | .act change next, now, s => run_bind k (next now s) now (change now s)
  | .wait wake next, now, s => run_bind k next (max now wake) s
  | .never, _, _ => rfl

theorem run_bind_of_some {w : Work σ α} (k : α → Work σ β) (h : w.run now s = some (a, t, s')) :
    (w.bind k).run now s = (k a).run t s' := by
  rw [run_bind, h]; rfl

theorem run_bind_of_none {w : Work σ α} (k : α → Work σ β) (h : w.run now s = none) : (w.bind k).run now s = none := by
  rw [run_bind, h]; rfl

/-- Work ends no earlier than it begins. -/
theorem le_of_run : ∀ {w : Work σ α} {now : Instant} {s : σ}, w.run now s = some (a, t, s') → now ≤ t
  | .done _, _, _, h => by cases h; exact Nat.le_refl _
  | .act _ next, now, s, h => le_of_run (w := next now s) h
  | .wait _ next, _, _, h => Nat.le_trans (Nat.le_max_left ..) (le_of_run (w := next) h)
  | .never, _, _, h => by cases h

/-- Work on a part runs as it does alone, and puts into the larger state what it makes of the part. -/
theorem run_onPart {get : τ → σ} {set : σ → τ → τ} (hget : ∀ s x, get (set s x) = s)
    (hset : ∀ s s' x, set s' (set s x) = set s' x) (hself : ∀ x, set (get x) x = x) :
    ∀ {w : Work σ α} {now : Instant} {x : τ}, w.run now (get x) = some (a, t, s') →
      (w.onPart get set).run now x = some (a, t, set s' x)
  | .done _, now, x, h => by
    cases h
    rw [hself]
    rfl
  | .act change next, now, x, h => by
    have hnext : (next now (get x)).run now (get (set (change now (get x)) x)) = some (a, t, s') := by
      rw [hget]
      exact h
    have hrun := run_onPart hget hset hself hnext
    rw [hset] at hrun
    exact hrun
  | .wait _ next, now, x, h => run_onPart hget hset hself (w := next) h
  | .never, _, _, h => by cases h

/-- A scope that does not end before the work leaves it as it is; and none can come between its beginning and its end
if these are at one instant. -/
theorem run_within : ∀ {w : Work σ α} {now : Instant} {s : σ}, w.run now s = some (a, t, s') →
    (∀ stop, scope.endsAt = some stop → t ≤ max now stop) → (w.within scope).run now s = some (.ok a, t, s')
  | .done _, _, _, h, _ => by
    cases h
    rfl
  | .act _ next, now, s, h, hscope => run_within (w := next now s) h hscope
  | .wait wake next, now, s, h, hscope => by
    have hnext : (next.within scope).run (max now wake) s = some (.ok a, t, s') :=
      run_within (w := next) h fun stop hs =>
        Nat.le_trans (hscope stop hs) (max_le_max (Nat.le_max_left now wake) (Nat.le_refl stop))
    show Work.run (if wake ≤ now then _ else _) now s = _
    by_cases hwake : wake ≤ now
    · rw [Nat.max_eq_left hwake] at hnext
      rw [if_pos hwake]
      exact hnext
    · rw [if_neg hwake]
      -- the work still waits now, so the scope ends neither now nor before the wait is over
      have hlast : wake ≤ t := Nat.le_trans (Nat.le_max_right now wake) (le_of_run (w := next) h)
      have hstop : ∀ stop, scope.endsAt = some stop → wake ≤ stop := fun stop hs =>
        (le_max_iff.1 (Nat.le_trans hlast (hscope stop hs))).resolve_left hwake
      have hopen : scope.reason? now = none := Scope.reason?_eq_none_iff.2 fun stop hs =>
        Nat.lt_of_lt_of_le (Nat.lt_of_not_le hwake) (hstop stop hs)
      simp only [hopen]
      cases hs : scope.endsAt with
      | none => exact hnext
      | some stop =>
        simp only [hstop stop hs, if_true]
        exact hnext
  | .never, _, _, h, _ => by cases h

/-! ## Pauses -/

/-- A pause that the scope does not cut short lasts as long as it should. -/
theorem run_pause_of_none {nanos : Nat} (h : scope.reason? (now + nanos) = none) (s : σ) :
    (pause scope nanos).run now s = some (none, now + nanos, s) := by
  have hnow : scope.reason? now = none := Scope.reason?_eq_none_iff.2 fun stop hs =>
    Nat.lt_of_le_of_lt (Nat.le_add_right ..) (Scope.reason?_eq_none_iff.1 h stop hs)
  have hwake : max now (scope.endsAt.elim (now + nanos) (min (now + nanos))) = now + nanos := by
    cases hs : scope.endsAt with
    | none => exact Nat.max_eq_right (Nat.le_add_right ..)
    | some stop =>
      have hlt := Scope.reason?_eq_none_iff.1 h stop hs
      show max now (min (now + nanos) stop) = _
      rw [Nat.min_eq_left (Nat.le_of_lt hlt)]
      exact Nat.max_eq_right (Nat.le_add_right ..)
  unfold pause
  simp only [run, hnow, look, hwake, h]

/-- A pause that the scope cuts short ends with it, or at once when the scope has ended before. -/
theorem run_pause_of_endsAt {nanos : Nat} (hs : scope.endsAt = some stop) (h : stop ≤ now + nanos) (s : σ) :
    ∃ reason, scope.reason? (max now stop) = some reason ∧
      (pause scope nanos).run now s = some (some reason, max now stop, s) := by
  obtain ⟨reason, hr⟩ := Option.isSome_iff_exists.1 (Scope.reason?_isSome_iff.2 ⟨stop, hs, Nat.le_max_right now stop⟩)
  refine ⟨reason, hr, ?_⟩
  unfold pause
  cases hnow : scope.reason? now with
  | some first =>
    -- the scope has ended before the pause
    obtain ⟨stop', hs', hle⟩ := Scope.reason?_isSome_iff.1 (by rw [hnow]; rfl)
    obtain rfl : stop = stop' := Option.some.inj (hs.symm.trans hs')
    rw [Nat.max_eq_left hle] at hr ⊢
    obtain rfl : reason = first := Option.some.inj (hr.symm.trans hnow)
    simp only [run, hnow]
  | none =>
    simp only [run, hnow, look, hs, Option.elim, Nat.min_eq_right h, hr]

/-! ## Work that keeps a part of the state -/

/-- Work that never changes what a view shows of the state. -/
def Keeps (view : σ → τ) : Work σ α → Prop
  | .done _ => True
  | .act change next => (∀ now s, view (change now s) = view s) ∧ ∀ now s, (next now s).Keeps view
  | .wait _ next => next.Keeps view
  | .never => True

theorem Keeps.run {view : σ → τ} :
    ∀ {w : Work σ α}, w.Keeps view → ∀ {now : Instant} {s : σ} {a : α} {t : Instant} {s' : σ},
      w.run now s = some (a, t, s') → view s' = view s
  | .done _, _, _, _, _, _, _, hr => by cases hr; rfl
  | .act _ _, h, _, _, _, _, _, hr => ((h.2 _ _).run hr).trans (h.1 _ _)
  | .wait _ next, h, _, _, _, _, _, hr => Keeps.run (w := next) h hr

theorem keeps_bind {view : σ → τ} {k : α → Work σ β} (hk : ∀ a, (k a).Keeps view) :
    ∀ {w : Work σ α}, w.Keeps view → (w.bind k).Keeps view
  | .done a, _ => hk a
  | .act _ _, h => ⟨h.1, fun now s => keeps_bind hk (h.2 now s)⟩
  | .wait _ next, h => keeps_bind hk (w := next) h
  | .never, _ => trivial

theorem keeps_onPart {view : τ → υ} {get : τ → σ} {set : σ → τ → τ} (h : ∀ s t, view (set s t) = view t) :
    ∀ w : Work σ α, (w.onPart get set).Keeps view
  | .done _ => trivial
  | .act _ next => ⟨fun _ _ => h _ _, fun now t => keeps_onPart h (next now (get t))⟩
  | .wait _ next => keeps_onPart h next
  | .never => trivial

/-- Work keeps on a part what it keeps alone. -/
theorem Keeps.onPart {view : σ → υ} {get : τ → σ} {set : σ → τ → τ} (hget : ∀ s t, get (set s t) = s) :
    ∀ {w : Work σ α}, w.Keeps view → (w.onPart get set).Keeps fun t => view (get t)
  | .done _, _ => trivial
  | .act _ _, h =>
    ⟨fun now t => (congrArg view (hget _ t)).trans (h.1 now (get t)), fun now t => (h.2 now (get t)).onPart hget⟩
  | .wait _ next, h => Keeps.onPart hget (w := next) h
  | .never, _ => trivial

theorem keeps_stop {view : σ → τ} {stop : Instant} {f : Instant → σ → α} :
    (Work.wait stop (look f)).Keeps view :=
  ⟨fun _ _ => rfl, fun _ _ => trivial⟩

theorem keeps_within {view : σ → τ} (scope : Scope) :
    ∀ w : Work σ α, w.Keeps view → (w.within scope).Keeps view
  | .done _, _ => trivial
  | .act _ next, h => ⟨h.1, fun now s => keeps_within scope (next now s) (h.2 now s)⟩
  | .wait wake next, h => by
    have hn := keeps_within scope next h
    refine ⟨fun _ _ => rfl, fun now s => ?_⟩
    by_cases hw : wake ≤ now
    · simp only [hw, if_true]; exact hn
    · simp only [hw, if_false]
      cases scope.reason? now with
      | some reason => trivial
      | none =>
        -- the wait goes on, or it is cut short where the scope ends
        cases scope.endsAt with
        | none => exact hn
        | some stop =>
          by_cases hs : wake ≤ stop
          · simp only [hs, if_true]; exact hn
          · simp only [hs, if_false]; exact keeps_stop
  | .never, _ => by
    refine ⟨fun _ _ => rfl, fun now s => ?_⟩
    dsimp only
    cases scope.reason? now with
    | some reason => trivial
    | none =>
      cases scope.endsAt with
      | none => trivial
      | some stop => exact keeps_stop

end MailReconciler.Work
