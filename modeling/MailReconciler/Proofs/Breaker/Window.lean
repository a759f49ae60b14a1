/-
The time that an open breaker stays open. It rejects every attempt until more than its quiet time has passed since the
last recorded failure, which late failures move on; a rejection changes nothing and begins no operation. The first
attempt after that makes it half open and is let through. Time is counted as a difference of instants that is never
negative, so an attempt on a clock that reads earlier than the failure comes after no time at all.
-/
import MailReconciler.Proofs.Breaker.Call
import MailReconciler.Proofs.Breaker.History

namespace MailReconciler.BreakerSession

variable {s₀ s t : BreakerSession} {event : Event} {past recent : List Entry} {now last : Instant} {timeout : Nat}

/-! ## The last failure -/

/-- The instant of a failure that an entry records. -/
def Entry.failedAt? (e : Entry) : Option Instant :=
  match e.event with
  | .finish id now false => if e.before.holds id then some now else none
  | _ => none

/-- The instant of the failure recorded last in a history. -/
def lastFailedAt (past : List Entry) : Option Instant := past.findSome? Entry.failedAt?

theorem failedAt?_of_holds {id : String} (h : s.holds id = true) :
    (⟨.finish id now false, s, t⟩ : Entry).failedAt? = some now := by
  simp [Entry.failedAt?, h]

theorem failedAt?_of_not_holds {id : String} {succeeded : Bool} (h : s.holds id = false) :
    (⟨.finish id now succeeded, s, t⟩ : Entry).failedAt? = none := by
  cases succeeded <;> simp [Entry.failedAt?, h]

theorem lastFailedAt_of_none {e : Entry} (h : e.failedAt? = none) : lastFailedAt (e :: past) = lastFailedAt past := by
  unfold lastFailedAt; rw [List.findSome?_cons, h]

theorem lastFailedAt_of_some {e : Entry} (h : e.failedAt? = some now) : lastFailedAt (e :: past) = some now := by
  unfold lastFailedAt; rw [List.findSome?_cons, h]

/-- A breaker that remembers a failure remembers the last one of its history. -/
def Remembers (past : List Entry) (s : BreakerSession) : Prop :=
  s.breaker.lastFailure.isSome → s.breaker.lastFailure = lastFailedAt past

theorem Effect.remembers (h : Effect s event t) (hp : Remembers past s) : Remembers (⟨event, s, t⟩ :: past) t := by
  intro ht
  cases h with
  | admitted _ | probes _ _ | rejected _ _ | abandons => rw [lastFailedAt_of_none rfl]; exact hp ht
  | unknown hh => rw [lastFailedAt_of_none (failedAt?_of_not_holds hh)]; exact hp ht
  | resets => rw [Breaker.reset_eq] at ht; cases ht
  | records hh hk =>
    cases hk with
    | forgets _ | counts _ _ | recovers _ _ | ignores _ => rw [lastFailedAt_of_none rfl]; exact hp ht
    | bears _ _ | trips _ _ | relapses _ | prolongs _ => rw [lastFailedAt_of_some (failedAt?_of_holds hh)]; rfl

theorem Run.remembers (h : Run s₀ past s) (h₀ : s₀.breaker.lastFailure = none) : Remembers past s := by
  induction h with
  | nil => intro hs; rw [h₀] at hs; cases hs
  | step _ event ih => exact (effect_after _ event).remembers ih

/-- An open breaker has cooled down when more than the quiet time has passed since the last failure of its history. -/
theorem Remembers.cooled_eq (hp : Remembers past s) (hs : s.breaker.Sound) (hm : s.breaker.mode = .opened) :
    ∃ last, lastFailedAt past = some last ∧
      ∀ now, s.breaker.cooled now = decide (s.breaker.settings.resetTimeout.nanos < now - last) := by
  have hf := hs.failed (by rw [hm]; decide)
  obtain ⟨last, hl⟩ := Option.isSome_iff_exists.1 hf
  refine ⟨last, by rw [← hp hf, hl], fun now => ?_⟩
  unfold Breaker.cooled; rw [hl]; rfl

/-! ## The window -/

/-- The instant of an attempt. -/
def Entry.attemptedAt? (e : Entry) : Option Instant :=
  match e.event with
  | .start _ now => some now
  | _ => none

/-- Whether every attempt of the second history, which follows the first, came within the quiet time of the last
failure before it. -/
def early (timeout : Nat) (past : List Entry) : List Entry → Bool
  | [] => true
  | e :: earlier => early timeout past earlier &&
    e.attemptedAt?.all fun now => (lastFailedAt (earlier ++ past)).any fun last => now - last ≤ timeout

theorem early_cons {e : Entry} (h : early timeout past (e :: recent) = true) :
    early timeout past recent = true ∧ ∀ id now, e.event = .start id now →
      ∃ last, lastFailedAt (recent ++ past) = some last ∧ now - last ≤ timeout := by
  simp only [early, Bool.and_eq_true] at h
  refine ⟨h.1, fun id now he => ?_⟩
  have := h.2
  simp only [Entry.attemptedAt?, he, Option.all_some, Option.any_eq_true, decide_eq_true_eq] at this
  obtain ⟨last, hl, hle⟩ := this
  exact ⟨last, hl, hle⟩

theorem Run.append {t : BreakerSession} (h : Run s₀ past s) (hl : Run s recent t) : Run s₀ (recent ++ past) t := by
  induction hl with
  | nil => exact h
  | step _ event ih => exact ih.step event

/-- An open breaker that is not reset stays open through any number of early attempts, and they change nothing. -/
theorem Run.stays_opened (hl : Run s recent t) (h : Run s₀ past s) (hs : s₀.breaker.Sound)
    (h₀ : s₀.breaker.lastFailure = none) (hm : s.breaker.mode = .opened) (hr : ∀ e ∈ recent, e.event ≠ .reset)
    (hq : early s.breaker.settings.resetTimeout.nanos past recent = true) :
    t.breaker.mode = .opened ∧
      ∀ e ∈ recent, ∀ id now, e.event = .start id now → (e.before.start id now).1 = false ∧ e.after = e.before := by
  induction hl with
  | nil => exact ⟨hm, List.forall_mem_nil _⟩
  | @step recent t hl event ih =>
    obtain ⟨hq, hnow⟩ := early_cons hq
    obtain ⟨ht, hrej⟩ := ih (fun e he => hr e (List.mem_cons_of_mem _ he)) hq
    have hrun := h.append hl
    obtain ⟨last, hlast, hcooled⟩ := (hrun.remembers h₀).cooled_eq (hrun.sound hs) ht
    -- the breaker has not cooled down at an early attempt
    have hrejects : ∀ id now, event = .start id now → t.breaker.cooled now = false := by
      intro id now he
      obtain ⟨last', hlast', hle⟩ := hnow id now he
      rw [hlast] at hlast'
      cases hlast'
      rw [hcooled, hl.settings_eq]
      exact decide_eq_false (Nat.not_lt.2 hle)
    refine ⟨?_, fun e he id now hev => ?_⟩
    · by_contra hne
      rcases ((effect_after t event).move (by rw [ht]; exact hne)).of_opened ht with ⟨id, now, he, hc, -⟩ | ⟨he, -⟩
      · rw [hrejects id now he] at hc; cases hc
      · exact hr _ (List.mem_cons_self ..) he
    · rcases List.mem_cons.1 he with rfl | he
      · simp only at hev
        subst hev
        have hs := start_of_not_cooled id ht (hrejects id now rfl)
        simp only [after, hs, and_self]
      · exact hrej e he id now hev

/-- From the moment that a breaker is open, and as long as all attempts come within the quiet time of the last
recorded failure, it stays open and every attempt is rejected, leaves the session as it was and begins no operation.
The first attempt later than that makes the breaker half open, without trials, and is let through. -/
theorem opened_until_cooled {ρ ε α : Type} {name : String} {settings : BreakerSettings} {b : Breaker}
    {samples : List Sample} (hb : Breaker.create name settings = .ok (b, samples)) (h : Run (ofBreaker b) past s)
    (hm : s.breaker.mode = .opened) (hl : Run s recent t) (hr : ∀ e ∈ recent, e.event ≠ .reset)
    (hq : early settings.resetTimeout.nanos past recent = true) :
    t.breaker.mode = .opened ∧
    (∀ e ∈ recent, ∀ id now, e.event = .start id now → (e.before.start id now).1 = false ∧ e.after = e.before) ∧
    ∃ last, lastFailedAt (recent ++ past) = some last ∧
      (∀ id now, now - last ≤ settings.resetTimeout.nanos →
        (t.start id now).1 = false ∧ t.after (.start id now) = t) ∧
      (∀ (w : World ρ) (now : Instant) (scope : Scope) (op : Work ρ (Except ε α)), w.state.breaker = t.breaker →
        w.read now - last ≤ settings.resetTimeout.nanos →
        ∃ w', (throughBreaker scope op).run now w = some (.error (.rejected t.breaker.name), now, w') ∧
          w'.state = w.state) ∧
      (∀ id now, settings.resetTimeout.nanos < now - last →
        (t.start id now).1 = true ∧ t.after (.start id now) =
          t.letIn id { t.breaker with mode := .halfOpen, published := .halfOpen, trials := 0 }) := by
  have hs₀ := Breaker.sound_create hb
  have h₀ : (ofBreaker b).breaker.lastFailure = none := by rw [ofBreaker, Breaker.create_eq hb]
  have hset : s.breaker.settings = settings := by rw [h.settings_eq, ofBreaker, Breaker.create_eq hb]
  rw [← hset] at hq ⊢
  obtain ⟨ht, hrej⟩ := hl.stays_opened h hs₀ h₀ hm hr hq
  have hrun := h.append hl
  obtain ⟨last, hlast, hcooled⟩ := (hrun.remembers h₀).cooled_eq (hrun.sound hs₀) ht
  rw [hl.settings_eq] at hcooled
  -- an attempt within the quiet time of the last failure finds the breaker as it was
  have hnot : ∀ now, now - last ≤ s.breaker.settings.resetTimeout.nanos → t.breaker.cooled now = false :=
    fun now hle => by rw [hcooled]; exact decide_eq_false (Nat.not_lt.2 hle)
  refine ⟨ht, hrej, last, hlast, fun id now hle => ?_, fun w now scope op hw hle => ?_, fun id now hlt => ?_⟩
  · have := start_of_not_cooled id ht (hnot now hle)
    simp only [after, this, and_self]
  · rw [← hw] at ht hnot ⊢
    exact ⟨w.rejected, run_throughBreaker_of_rejected scope op ht (hnot _ hle), w.rejected_state⟩
  · exact start_of_cooled ht (by rw [hcooled]; exact decide_eq_true hlt)

/-- Two calls begin, and the failure of the first opens the breaker. -/
def firstFails : List Event := [.start "a" 0, .start "b" 0, .finish "a" 0 false]

/-- While the breaker is open: an attempt as late as the quiet time allows, a late failure, an attempt that only this
failure makes early, and one on a clock that was set back. -/
def lateFailure : List Event :=
  [.start "c" 30000000000, .finish "b" 30000000000 false, .start "d" 30000000001, .start "e" 5]

/-- The late failure keeps the breaker open for another thirty seconds, and no longer. -/
theorem late_failure_prolongs :
    ((lateFailure.foldl after (firstFails.foldl after (ofBreaker .touchy))).start "f" 60000000000).1 = false ∧
    ((lateFailure.foldl after (firstFails.foldl after (ofBreaker .touchy))).start "f" 60000000001).1 = true := by
  obtain ⟨-, -, last, hlast, hearly, -, hlate⟩ := @opened_until_cooled _ _ _ _ Unit Unit Unit _ _ _ _
    Breaker.touchy_create (Run.of_events firstFails .nil) (by decide) (Run.of_events lateFailure .nil) (by decide)
    (by decide)
  have hl : last = 30000000000 := Option.some.inj (hlast.symm.trans (by decide))
  subst hl
  exact ⟨(hearly "f" _ (by decide)).1, (hlate "f" _ (by decide)).1⟩

end MailReconciler.BreakerSession
