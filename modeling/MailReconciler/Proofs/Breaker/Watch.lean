/-
What calls through a breaker leave behind. A watched operation writes into a journal that it begins, for when it waits
and how it ends, and does otherwise what it does unwatched (`run_watched`). A change of the shared world asks the
breaker, records an outcome in it or leaves it alone, and no change is two of these (`Touch.Describes.unique`).
-/
import MailReconciler.Proofs.Breaker.Call
import MailReconciler.Proofs.Work.Ending
import MailReconciler.Work.Order

namespace MailReconciler

/-! ## Journals -/

/-- Entries about calls, which go by their positions; the newest is the first. -/
abbrev Journal (β : Type) := List (Nat × β)

namespace Journal

variable {β γ : Type} {i j : Nat}

/-- The entries about one call. -/
def of (i : Nat) (l : Journal β) : List β := l.filterMap fun e => if e.1 = i then some e.2 else none

@[simp] theorem of_nil : of i ([] : Journal β) = [] := rfl

@[simp] theorem of_cons_self (b : β) (l : Journal β) : of i ((i, b) :: l) = b :: of i l := by simp [of]

theorem of_cons_ne (h : j ≠ i) (b : β) (l : Journal β) : of i ((j, b) :: l) = of i l := by simp [of, h]

theorem mem_of {b : β} {l : Journal β} : b ∈ of i l ↔ (i, b) ∈ l := by
  simp only [of, List.mem_filterMap, Option.ite_none_right_eq_some, Option.some.injEq]
  exact ⟨fun ⟨e, he, hi, hb⟩ => by cases hi; cases hb; exact he, fun h => ⟨_, h, rfl, rfl⟩⟩

theorem of_append_map_self (bs : List β) (l : Journal β) : of i (bs.map (i, ·) ++ l) = bs ++ of i l := by
  induction bs with
  | nil => rfl
  | cons b bs ih => rw [List.map_cons, List.cons_append, of_cons_self, ih, List.cons_append]

theorem of_append_map_ne (h : j ≠ i) (bs : List β) (l : Journal β) : of i (bs.map (j, ·) ++ l) = of i l := by
  induction bs with
  | nil => rfl
  | cons b bs ih => rw [List.map_cons, List.cons_append, of_cons_ne h, ih]

/-- The entries of a kind. -/
def pick (f : β → Option γ) (l : Journal β) : Journal γ := l.filterMap fun e => (f e.2).map (e.1, ·)

theorem of_pick (f : β → Option γ) : ∀ l : Journal β, of i (pick f l) = (of i l).filterMap f
  | [] => rfl
  | (j, b) :: l => by
    have ih := of_pick f l
    unfold pick at ih ⊢
    cases hf : f b with
    | none =>
      by_cases h : j = i
      · subst h; simp [hf, ih]
      · simp [hf, ih, of_cons_ne h]
    | some c =>
      by_cases h : j = i
      · subst h; simp [hf, ih]
      · simp [hf, ih, of_cons_ne h]

theorem of_map (f : β → γ) (l : Journal β) : of i (l.map fun e => (e.1, f e.2)) = (of i l).map f := by
  unfold of
  rw [List.filterMap_map, List.map_filterMap]
  refine congrArg (List.filterMap · l) (funext fun e => ?_)
  by_cases h : e.1 = i <;> simp [h]

/-- The items of a list under their positions, from a number on. -/
theorem of_zipIdx (l : List β) (n : Nat) :
    of i ((l.zipIdx n).map Prod.swap) = if i < n then [] else l[i - n]?.toList := by
  induction l generalizing n with
  | nil => simp
  | cons b l ih =>
    rw [List.zipIdx_cons, List.map_cons, Prod.swap_prod_mk]
    by_cases h : n = i
    · subst h
      rw [of_cons_self, ih, if_pos (Nat.lt_succ_self n)]
      simp
    · rw [of_cons_ne h, ih]
      by_cases hlt : i < n
      · rw [if_pos (Nat.lt_succ_of_lt hlt), if_pos hlt]
      · have hn : i - n = i - (n + 1) + 1 := by omega
        rw [if_neg (by omega), if_neg hlt, hn, List.getElem?_cons_succ]

/-- Journals with the same entries about every call have the same entries. -/
theorem perm_of_forall_of : ∀ {l k : Journal β}, (∀ i, (of i l).Perm (of i k)) → l.Perm k
  | [], [], _ => .nil
  | [], (j, c) :: k, h => by
    have hj := (h j).symm
    rw [of_cons_self] at hj
    exact absurd hj.length_eq nofun
  | (j, b) :: l, k, h => by
    have hj := h j
    rw [of_cons_self] at hj
    -- the first entry stands somewhere in the other journal
    obtain ⟨k₁, k₂, rfl⟩ := List.append_of_mem (mem_of.1 (hj.subset List.mem_cons_self))
    have hk : (k₁ ++ (j, b) :: k₂).Perm ((j, b) :: (k₁ ++ k₂)) := List.perm_middle
    refine .trans (.cons _ (perm_of_forall_of fun i => ?_)) hk.symm
    have hi : (of i ((j, b) :: l)).Perm (of i ((j, b) :: (k₁ ++ k₂))) := (h i).trans (hk.filterMap _)
    by_cases he : j = i
    · subst he
      rw [of_cons_self, of_cons_self] at hi
      exact hi.cons_inv
    · rw [of_cons_ne he, of_cons_ne he] at hi
      exact hi

end Journal

/-! ## Watched operations -/

/-- Work comes to be what is left of it. -/
abbrev Work.LeadsTo {σ β : Type} : Work σ β → Work σ β → Prop := Relation.ReflTransGen fun w v => Follows v w

/-- What is written down of an operation. -/
inductive Mark (ε α : Type) where
  | begun
  /-- It waits for an instant, or for ever. -/
  | waits (wake : Option Instant)
  | completed (result : Except ε α)

/-- The result of an operation that has completed. -/
def Mark.result? {ε α : Type} : Mark ε α → Option (Except ε α)
  | .completed result => some result
  | .begun | .waits _ => none

/-- A remote state with a journal of the operations on it. -/
abbrev Watched (ρ ε α : Type) := ρ × Journal (Mark ε α)

variable {ρ ε α : Type}

/-- Writes a mark of a call down. -/
def Watched.write (i : Nat) (mark : Mark ε α) (s : Watched ρ ε α) : Watched ρ ε α := (s.1, (i, mark) :: s.2)

/-- What is left of an operation, watched under the number of its call. -/
def watchedFrom (i : Nat) : Work ρ (Except ε α) → Work (Watched ρ ε α) (Except ε α)
  | .done result => .act (fun _ => Watched.write i (.completed result)) fun _ _ => .done result
  | .act change next => .act (fun now s => (change now s.1, s.2)) fun now s => watchedFrom i (next now s.1)
  | .wait wake next => .act (fun _ => Watched.write i (.waits (some wake))) fun _ _ => .wait wake (watchedFrom i next)
  | .never => .act (fun _ => Watched.write i (.waits none)) fun _ _ => .never

/-- An operation, watched from its beginning. -/
def watched (i : Nat) (op : Work ρ (Except ε α)) : Work (Watched ρ ε α) (Except ε α) :=
  .act (fun _ => Watched.write i .begun) fun _ _ => watchedFrom i op

theorem run_watchedFrom (i : Nat) : ∀ (op : Work ρ (Except ε α)) (now : Instant) (s : Watched ρ ε α),
    ((watchedFrom i op).run now s).map (fun e => (e.1, e.2.1, e.2.2.1)) = op.run now s.1
  | .done _, _, _ => rfl
  | .act change next, now, s => run_watchedFrom i (next now s.1) now (change now s.1, s.2)
  | .wait wake next, now, s => run_watchedFrom i next (max now wake) (s.write i (.waits (some wake)))
  | .never, _, _ => rfl

/-- An operation ends the same way whether it is watched or not. -/
theorem run_watched (i : Nat) (op : Work ρ (Except ε α)) (now : Instant) (s : Watched ρ ε α) :
    ((watched i op).run now s).map (fun e => (e.1, e.2.1, e.2.2.1)) = op.run now s.1 :=
  run_watchedFrom i op now (s.write i .begun)

/-! ## Operations under way -/

/-- A call whose operation is under way, with what is left of the operation. -/
def underWay (name : String) (scope : Scope) (op : Work ρ (Except ε α)) :
    Work (World ρ) (Except (BreakerFailure ε) α) :=
  (insideBreaker scope op).bind (concludeCall name)

/-- A call that records the outcome of its operation and ends with its result. -/
def recording (result : Except ε α) : Work (World ρ) (Except (BreakerFailure ε) α) :=
  .act (World.record result.isOk) fun _ _ => .done (result.mapError .operation)

/-- A call whose scope has ended before its operation. -/
def cutShort (name : String) (scope : Scope) : Work (World ρ) (Except (BreakerFailure ε) α) :=
  .act (fun _ w => w) fun now _ => .done (.error (.interrupted name ((scope.reason? now).getD .deadlinePassed)))

theorem underWay_done (name : String) (scope : Scope) (result : Except ε α) :
    underWay (ρ := ρ) name scope (.done result) = recording result := by
  cases result <;> rfl

/-- Work that waits for an instant, or for ever. -/
def Work.waitFor {σ β : Type} (wake : Option Instant) (next : Work σ β) : Work σ β :=
  match wake with
  | some wake => .wait wake next
  | none => .never

/-- A scope ends before what it guards is due; what is due when the scope ends is not cut short. -/
def Scope.EndsBefore (scope : Scope) (wake : Option Instant) : Prop :=
  ∃ stop, scope.endsAt = some stop ∧ ∀ due, wake = some due → stop < due

/-- How a call goes on whose operation waits, when it looks at the present instant. -/
inductive Looks (name : String) (scope : Scope) (wake : Option Instant) (next : Work ρ (Except ε α)) (now : Instant) :
    Work (World ρ) (Except (BreakerFailure ε) α) → Prop
  | goes {due : Instant} : wake = some due → due ≤ now → Looks name scope wake next now (underWay name scope next)
  | waits : ¬ scope.EndsBefore wake → Looks name scope wake next now (.waitFor wake (underWay name scope next))
  | stops {reason : EndReason} : scope.EndsBefore wake → scope.reason? now = some reason →
      Looks name scope wake next now (.done (.error (.interrupted name reason)))
  | limits {stop : Instant} : scope.EndsBefore wake → scope.endsAt = some stop →
      Looks name scope wake next now (.wait stop (cutShort name scope))

theorem underWay_waitFor (name : String) (scope : Scope) (wake : Option Instant) (next : Work ρ (Except ε α)) :
    ∃ look, underWay name scope (.waitFor wake next) = .act (fun _ w => w) look ∧
      ∀ now w, Looks name scope wake next now (look now w) := by
  cases wake with
  | none =>
    refine ⟨_, rfl, fun now w => ?_⟩
    dsimp only
    cases hr : scope.reason? now with
    | some reason =>
      obtain ⟨stop, hs, -⟩ := Scope.reason?_isSome_iff.1 (by rw [hr]; rfl)
      exact .stops ⟨stop, hs, nofun⟩ hr
    | none =>
      cases hs : scope.endsAt with
      | none => exact .waits fun ⟨stop, hs', _⟩ => by rw [hs] at hs'; cases hs'
      | some stop => exact .limits ⟨stop, hs, nofun⟩ hs
  | some due =>
    refine ⟨_, rfl, fun now w => ?_⟩
    dsimp only
    by_cases hd : due ≤ now
    · simp only [hd, if_true]; exact .goes rfl hd
    · simp only [hd, if_false]
      cases hr : scope.reason? now with
      | some reason =>
        obtain ⟨stop, hs, hle⟩ := Scope.reason?_isSome_iff.1 (by rw [hr]; rfl)
        exact .stops ⟨stop, hs, fun _ h => by cases h; exact Nat.lt_of_le_of_lt hle (Nat.lt_of_not_le hd)⟩ hr
      | none =>
        cases hs : scope.endsAt with
        | none => exact .waits fun ⟨stop, hs', _⟩ => by rw [hs] at hs'; cases hs'
        | some stop =>
          by_cases hle : due ≤ stop
          · simp only [hle, if_true]
            refine .waits fun ⟨stop', hs', hlt⟩ => ?_
            rw [hs] at hs'
            cases hs'
            exact Nat.not_le.2 (hlt due rfl) hle
          · simp only [hle, if_false]
            exact .limits ⟨stop, hs, fun _ h => by cases h; exact Nat.lt_of_not_le hle⟩ hs

/-! ## Touches of the breaker -/

/-- What a change of the shared world means to the breaker. -/
inductive Touch where
  | leaves
  | asks (admitted : Bool)
  | records (succeeded : Bool)
deriving DecidableEq

namespace Touch

/-- Whether a change, made at an instant in a world, is such a touch. -/
def Describes (change : Instant → World ρ → World ρ) (now : Instant) (w : World ρ) : Touch → Prop
  | leaves => ∀ now w, (change now w).state.breaker = w.state.breaker
  | asks admitted => change = (fun now w => (World.allow now w).2) ∧ (World.allow now w).1 = admitted
  | records succeeded => change = World.record succeeded

/-- The outcome that is recorded. -/
def outcome? : Touch → Option Bool
  | records succeeded => some succeeded
  | leaves | asks _ => none

/-- What the touch makes of one failure of a closed breaker. -/
def tally : Touch → Nat
  | leaves | asks _ => 1
  | records succeeded => if succeeded then 0 else 2

/-- What the touch makes of an open breaker that does not remember a failure. -/
def awakes : Touch → BreakerMode
  | asks _ => .halfOpen
  | leaves | records _ => .opened

/-- A world with another breaker. -/
def withBreaker (b : Breaker) (w : World ρ) : World ρ := { w with state := { w.state with breaker := b } }

variable {change : Instant → World ρ → World ρ} {now : Instant} {w : World ρ} {touch touch' : Touch}

theorem Describes.tally_eq (h : touch.Describes change now w) :
    (change 0 (withBreaker ⟨"", {}, .closed, .closed, 1, 0, none⟩ w)).state.breaker.failures = touch.tally := by
  cases touch with
  | leaves => rw [h]; rfl
  | asks admitted => rw [h.1]; rfl
  | records succeeded =>
    have h : change = _ := h
    rw [h]
    cases succeeded <;> rfl

theorem Describes.awakes_eq (h : touch.Describes change now w) :
    (change 0 (withBreaker ⟨"", {}, .opened, .opened, 1, 0, none⟩ w)).state.breaker.mode = touch.awakes := by
  cases touch with
  | leaves => rw [h]; rfl
  | asks admitted => rw [h.1]; rfl
  | records succeeded =>
    have h : change = _ := h
    rw [h]
    cases succeeded <;> rfl

/-- No change is two different touches: two breakers tell them apart. -/
theorem Describes.unique (h : touch.Describes change now w) (h' : touch'.Describes change now w) : touch = touch' := by
  have htally := h.tally_eq.symm.trans h'.tally_eq
  have hawakes := h.awakes_eq.symm.trans h'.awakes_eq
  cases touch with
  | leaves =>
    cases touch' with
    | leaves => rfl
    | asks _ => cases hawakes
    | records succeeded => cases succeeded <;> cases htally
  | asks admitted =>
    cases touch' with
    | asks admitted' => rw [← h.2, ← h'.2]
    | leaves | records _ => cases hawakes
  | records succeeded =>
    cases touch' with
    | asks _ => cases hawakes
    | leaves => cases succeeded <;> cases htally
    | records succeeded' => cases succeeded <;> cases succeeded' <;> first | rfl | cases htally

end Touch

/-- A change that a call made: what it meant to the breaker, and the breaker before and after. -/
structure Deed where
  touch : Touch
  before : Breaker
  after : Breaker

namespace Deed

/-- The breaker became half open, and nothing else happened to it. -/
def Probes (d : Deed) : Prop :=
  d.before.mode = .opened ∧ d.after = { d.before with mode := .halfOpen, published := .halfOpen, trials := 0 }

/-- The breaker became what the touch may make of it. -/
def Lawful (d : Deed) : Prop :=
  match d.touch with
  | .leaves | .asks false => d.after = d.before
  | .asks true => d.after = d.before ∨ d.Probes
  | .records succeeded => ∃ now, d.after = (d.before.record now succeeded).1

end Deed

theorem Touch.Describes.lawful {change : Instant → World ρ → World ρ} {now : Instant} {w : World ρ} {touch : Touch}
    (h : touch.Describes change now w) : Deed.Lawful ⟨touch, w.state.breaker, (change now w).state.breaker⟩ := by
  cases touch with
  | leaves => exact h now w
  | records succeeded =>
    have h : change = _ := h
    exact ⟨w.read now, by rw [h]; rfl⟩
  | asks admitted =>
    obtain ⟨rfl, ha⟩ := h
    rw [World.allow_fst] at ha
    rw [World.allow_breaker]
    by_cases hm : w.state.breaker.mode = .opened
    · cases hc : w.state.breaker.cooled (w.read now) with
      | false =>
        rw [Breaker.allow_of_not_cooled hm hc] at ha ⊢
        cases ha
        exact rfl
      | true =>
        obtain ⟨hadmits, hb⟩ := Breaker.allow_of_cooled hm hc
        obtain rfl : true = admitted := hadmits.symm.trans ha
        exact .inr ⟨hm, hb⟩
    · rw [Breaker.allow_of_not_opened hm] at ha ⊢
      cases ha
      exact .inl rfl

end MailReconciler
