/-
What a breaker does is told by the outcomes in its history. A closed breaker counts the failures since it was last
cleared and opens at the one that completes a streak as long as its threshold; a half-open breaker counts the
successes since it began its trials, closes at the last one that it needs and opens at any failure; an open breaker
is not moved by outcomes.

`Told` is the invariant: the counters are the lengths of those two stretches of the history. What an event does to
the mode then follows from the cases of `Effect`.
-/
import MailReconciler.Proofs.Breaker.Invariant
import Mathlib.Tactic.ByContra

namespace MailReconciler.BreakerSession

/-! ## Stretches of a history -/

/-- Whether an entry ends all streaks: a success was recorded, the breaker was reset, or it closed. -/
def Entry.clears (e : Entry) : Bool :=
  e.outcome? = some true || e.event = .reset || (e.before.breaker.mode ≠ .closed && e.after.breaker.mode = .closed)

/-- The entries since the breaker was last cleared, newest first. -/
def sinceCleared (past : List Entry) : List Entry := past.takeWhile fun e => !e.clears

/-- The entries since the breaker became half open, newest first. -/
def sinceHalfOpen (past : List Entry) : List Entry := past.takeWhile fun e => e.before.breaker.mode = .halfOpen

/-- The outcomes recorded in a stretch of a history, newest first. -/
def outcomes (past : List Entry) : List Bool := past.filterMap Entry.outcome?

variable {s₀ s t : BreakerSession} {event : Event} {past : List Entry} {e : Entry} {id : String} {now : Instant}

theorem outcomes_cons (e : Entry) (past : List Entry) :
    outcomes (e :: past) = e.outcome?.toList ++ outcomes past := by
  unfold outcomes
  cases h : e.outcome? with
  | none => rw [List.filterMap_cons_none h]; rfl
  | some o => rw [List.filterMap_cons_some h]; rfl

theorem sinceCleared_of_clears (h : e.clears = true) : sinceCleared (e :: past) = [] := by
  unfold sinceCleared; rw [List.takeWhile_cons_of_neg (by simp [h])]

theorem sinceCleared_of_not_clears (h : e.clears = false) :
    sinceCleared (e :: past) = e :: sinceCleared past := by
  unfold sinceCleared; rw [List.takeWhile_cons_of_pos (by simp [h])]

theorem sinceHalfOpen_of_halfOpen (h : e.before.breaker.mode = .halfOpen) :
    sinceHalfOpen (e :: past) = e :: sinceHalfOpen past := by
  unfold sinceHalfOpen; rw [List.takeWhile_cons_of_pos (by simp [h])]

theorem sinceHalfOpen_of_not_halfOpen (h : e.before.breaker.mode ≠ .halfOpen) : sinceHalfOpen (e :: past) = [] := by
  unfold sinceHalfOpen; rw [List.takeWhile_cons_of_neg (by simp [h])]

theorem outcome?_of_holds {succeeded : Bool} (h : s.holds id = true) :
    (⟨.finish id now succeeded, s, t⟩ : Entry).outcome? = some succeeded := by
  simp [Entry.outcome?, h]

theorem outcome?_of_not_holds {succeeded : Bool} (h : s.holds id = false) :
    (⟨.finish id now succeeded, s, t⟩ : Entry).outcome? = none := by
  simp [Entry.outcome?, h]

theorem clears_reset (s t : BreakerSession) : (⟨.reset, s, t⟩ : Entry).clears = true := by
  simp [Entry.clears]

theorem clears_of_success (h : e.outcome? = some true) : e.clears = true := by
  simp [Entry.clears, h]

/-- Only successes and resets clear a breaker that is closed already. -/
theorem not_clears (hm : e.before.breaker.mode = .closed) (ho : e.outcome? ≠ some true) (hr : e.event ≠ .reset) :
    e.clears = false := by
  simp [Entry.clears, hm, ho, hr]

/-! ## The counters -/

/-- A history tells the counters: the failures of a closed breaker are all outcomes since it was last cleared, the
trials of a half-open one all outcomes since it became so. -/
structure Told (past : List Entry) (s : BreakerSession) : Prop where
  closed : s.breaker.mode = .closed → outcomes (sinceCleared past) = List.replicate s.breaker.failures false
  halfOpen : s.breaker.mode = .halfOpen → outcomes (sinceHalfOpen past) = List.replicate s.breaker.trials true

theorem Told.of_closed (hm : t.breaker.mode = .closed)
    (h : outcomes (sinceCleared past) = List.replicate t.breaker.failures false) : Told past t :=
  ⟨fun _ => h, fun hh => by rw [hm] at hh; cases hh⟩

theorem Told.of_halfOpen (hm : t.breaker.mode = .halfOpen)
    (h : outcomes (sinceHalfOpen past) = List.replicate t.breaker.trials true) : Told past t :=
  ⟨fun hc => by (rw [hm] at hc; cases hc), fun _ => h⟩

theorem Told.of_opened (hm : t.breaker.mode = .opened) : Told past t :=
  ⟨fun hc => by (rw [hm] at hc; cases hc), fun hh => by rw [hm] at hh; cases hh⟩

/-- An entry without an outcome that leaves the breaker alone adds nothing to the history. -/
theorem Told.quiet (hp : Told past s) (hb : t.breaker = s.breaker) (ho : (⟨event, s, t⟩ : Entry).outcome? = none)
    (hr : event ≠ .reset) : Told (⟨event, s, t⟩ :: past) t := by
  refine ⟨fun hm => ?_, fun hm => ?_⟩
  · rw [hb] at hm ⊢
    rw [sinceCleared_of_not_clears (not_clears hm (by rw [ho]; decide) hr), outcomes_cons, ho]
    exact hp.closed hm
  · rw [hb] at hm ⊢
    rw [sinceHalfOpen_of_halfOpen hm, outcomes_cons, ho]
    exact hp.halfOpen hm

/-- Told of a recorded outcome: what the counters become is what the outcome adds to the history. -/
theorem Told.takes {succeeded : Bool} (hp : Told past s) (hs : s.breaker.Sound)
    (ht : s.breaker.Takes now succeeded t.breaker) (ho : (⟨event, s, t⟩ : Entry).outcome? = some succeeded)
    (hr : event ≠ .reset) : Told (⟨event, s, t⟩ :: past) t := by
  generalize htb : t.breaker = b at ht
  cases ht with
  | forgets hm =>
    refine .of_closed (by rw [htb]; exact hm) ?_
    rw [sinceCleared_of_clears (clears_of_success ho), htb]; rfl
  | counts hm _ =>
    refine .of_halfOpen (by rw [htb]; exact hm) ?_
    rw [sinceHalfOpen_of_halfOpen hm, outcomes_cons, ho, hp.halfOpen hm, htb]; rfl
  | recovers _ _ =>
    refine .of_closed (by rw [htb]) ?_
    rw [sinceCleared_of_clears (clears_of_success ho), htb]; rfl
  | ignores hm => exact .of_opened (by rw [htb]; exact hm)
  | bears hm _ =>
    refine .of_closed (by rw [htb]; exact hm) ?_
    rw [sinceCleared_of_not_clears (not_clears hm (by rw [ho]; decide) hr), outcomes_cons, ho, hp.closed hm, htb,
      Breaker.noteFailure_failures now (hs.closed_iff.1 hm)]
    rfl
  | trips _ _ => exact .of_opened (by rw [htb])
  | relapses _ => exact .of_opened (by rw [htb])
  | prolongs hm => exact .of_opened (by rw [htb]; exact hm)

theorem Effect.told (h : Effect s event t) (hs : s.breaker.Sound) (hp : Told past s) :
    Told (⟨event, s, t⟩ :: past) t := by
  cases h with
  | admitted _ => exact hp.quiet rfl rfl nofun
  | probes hm _ =>
    refine .of_halfOpen rfl ?_
    rw [sinceHalfOpen_of_not_halfOpen (by rw [hm]; decide)]; rfl
  | rejected _ _ => exact hp.quiet rfl rfl nofun
  | records hh ht => exact hp.takes hs ht (outcome?_of_holds hh) nofun
  | unknown hh => exact hp.quiet rfl (outcome?_of_not_holds hh) nofun
  | abandons => exact hp.quiet rfl rfl nofun
  | resets =>
    rw [Breaker.reset_eq]
    refine .of_closed rfl ?_
    rw [sinceCleared_of_clears (clears_reset ..)]; rfl

theorem Run.told (h : Run s₀ past s) (hs : s₀.breaker.Sound) (h₀ : Told [] s₀) : Told past s := by
  induction h with
  | nil => exact h₀
  | step hr event ih => exact (effect_after _ event).told (hr.sound hs) ih

theorem told_create {name : String} {settings : BreakerSettings} {b : Breaker} {samples : List Sample}
    (h : Breaker.create name settings = .ok (b, samples)) : Told [] (ofBreaker b) := by
  rw [Breaker.create_eq h]
  exact .of_closed rfl rfl

/-! ## Changes of mode -/

/-- The changes of mode, each with what brings it about. -/
inductive Move (s : BreakerSession) : Event → BreakerSession → Prop
  | opens {id : String} {now : Instant} {t : BreakerSession} : s.breaker.mode = .closed → s.holds id = true →
      s.breaker.settings.failureThreshold.toNat ≤ s.breaker.failures + 1 → t.breaker.mode = .opened →
      Move s (.finish id now false) t
  | probes {id : String} {now : Instant} {t : BreakerSession} : s.breaker.mode = .opened →
      s.breaker.cooled now = true → t.breaker.mode = .halfOpen → Move s (.start id now) t
  | recovers {id : String} {now : Instant} {t : BreakerSession} : s.breaker.mode = .halfOpen → s.holds id = true →
      s.breaker.settings.successThreshold.toNat ≤ s.breaker.trials + 1 → t.breaker.mode = .closed →
      Move s (.finish id now true) t
  | relapses {id : String} {now : Instant} {t : BreakerSession} : s.breaker.mode = .halfOpen → s.holds id = true →
      t.breaker.mode = .opened → Move s (.finish id now false) t
  | resets {t : BreakerSession} : t.breaker.mode = .closed → Move s .reset t

/-- The mode changes in no other way. -/
theorem Effect.move (h : Effect s event t) (hne : t.breaker.mode ≠ s.breaker.mode) : Move s event t := by
  cases h with
  | probes hm hc => exact .probes hm hc rfl
  | resets => exact .resets (by rw [Breaker.reset_eq])
  | records hh ht =>
    cases ht with
    | recovers hm hle => exact .recovers hm hh hle rfl
    | trips hm hle => exact .opens hm hh (Nat.le_trans hle (Nat.min_le_left ..)) rfl
    | relapses hm => exact .relapses hm hh rfl
    | forgets _ | counts _ _ | ignores _ | bears _ _ | prolongs _ => exact absurd rfl hne
  | admitted _ | rejected _ _ | unknown _ | abandons => exact absurd rfl hne

theorem Move.of_closed (h : Move s event t) (hm : s.breaker.mode = .closed) :
    (∃ id now, event = .finish id now false ∧ s.holds id = true ∧
      s.breaker.settings.failureThreshold.toNat ≤ s.breaker.failures + 1 ∧ t.breaker.mode = .opened) ∨
    (event = .reset ∧ t.breaker.mode = .closed) := by
  cases h with
  | opens _ hh hle ht => exact .inl ⟨_, _, rfl, hh, hle, ht⟩
  | resets ht => exact .inr ⟨rfl, ht⟩
  | probes hm' _ _ | recovers hm' _ _ _ | relapses hm' _ _ => rw [hm] at hm'; cases hm'

theorem Move.of_halfOpen (h : Move s event t) (hm : s.breaker.mode = .halfOpen) :
    (∃ id now, event = .finish id now true ∧ s.holds id = true ∧
      s.breaker.settings.successThreshold.toNat ≤ s.breaker.trials + 1 ∧ t.breaker.mode = .closed) ∨
    (∃ id now, event = .finish id now false ∧ s.holds id = true ∧ t.breaker.mode = .opened) ∨
    (event = .reset ∧ t.breaker.mode = .closed) := by
  cases h with
  | recovers _ hh hle ht => exact .inl ⟨_, _, rfl, hh, hle, ht⟩
  | relapses _ hh ht => exact .inr (.inl ⟨_, _, rfl, hh, ht⟩)
  | resets ht => exact .inr (.inr ⟨rfl, ht⟩)
  | opens hm' _ _ _ | probes hm' _ _ => rw [hm] at hm'; cases hm'

theorem Move.of_opened (h : Move s event t) (hm : s.breaker.mode = .opened) :
    (∃ id now, event = .start id now ∧ s.breaker.cooled now = true ∧ t.breaker.mode = .halfOpen) ∨
    (event = .reset ∧ t.breaker.mode = .closed) := by
  cases h with
  | probes _ hc ht => exact .inl ⟨_, _, rfl, hc, ht⟩
  | resets ht => exact .inr ⟨rfl, ht⟩
  | opens hm' _ _ _ | recovers hm' _ _ _ | relapses hm' _ _ => rw [hm] at hm'; cases hm'

/-- A closed breaker opens exactly when the outcomes since it was last cleared become a streak of failures as long
as its threshold. -/
theorem Effect.opens_iff (h : Effect s event t) (hs : s.breaker.Sound) (hp : Told past s)
    (hm : s.breaker.mode = .closed) :
    t.breaker.mode = .opened ↔
      outcomes (sinceCleared (⟨event, s, t⟩ :: past)) =
        List.replicate s.breaker.settings.failureThreshold.toNat false := by
  have hlt := hs.closed_iff.1 hm
  constructor
  · intro ho
    rcases (h.move (by rw [ho, hm]; decide)).of_closed hm with ⟨id, now, rfl, hh, hle, -⟩ | ⟨-, hc⟩
    · have hf : (⟨.finish id now false, s, t⟩ : Entry).outcome? = some false := outcome?_of_holds hh
      have hn : (⟨.finish id now false, s, t⟩ : Entry).clears = false := not_clears hm (by rw [hf]; decide) nofun
      -- the failure completes the streak that the counter has told so far
      rw [sinceCleared_of_not_clears hn, outcomes_cons, hf, hp.closed hm,
        show s.breaker.settings.failureThreshold.toNat = s.breaker.failures + 1 by omega]
      rfl
    · rw [ho] at hc; cases hc
  · intro hl
    cases hc : t.breaker.mode with
    | opened => rfl
    | closed =>
      -- the streak of a breaker that stays closed is shorter
      have := (h.sound hs).closed_iff.1 hc
      rw [(h.told hs hp).closed hc, ← h.settings_eq, List.replicate_inj] at hl
      omega
    | halfOpen =>
      rcases (h.move (by rw [hc, hm]; decide)).of_closed hm with ⟨_, _, _, _, _, ht⟩ | ⟨-, ht⟩ <;>
        (rw [hc] at ht; cases ht)

/-- Left alone, a half-open breaker closes exactly when the outcomes since it became half open are as many successes
as it needs. -/
theorem Effect.recovers_iff (h : Effect s event t) (hs : s.breaker.Sound) (hp : Told past s)
    (hm : s.breaker.mode = .halfOpen) (hr : event ≠ .reset) :
    t.breaker.mode = .closed ↔
      outcomes (sinceHalfOpen (⟨event, s, t⟩ :: past)) =
        List.replicate s.breaker.settings.successThreshold.toNat true := by
  have hlt := hs.trials_lt
  constructor
  · intro hc
    rcases (h.move (by rw [hc, hm]; decide)).of_halfOpen hm with
      ⟨id, now, rfl, hh, hle, -⟩ | ⟨_, _, _, _, ho⟩ | ⟨he, -⟩
    · rw [sinceHalfOpen_of_halfOpen hm, outcomes_cons, outcome?_of_holds hh, hp.halfOpen hm,
        show s.breaker.settings.successThreshold.toNat = s.breaker.trials + 1 by omega]
      rfl
    · rw [hc] at ho; cases ho
    · exact absurd he hr
  · intro hl
    cases hc : t.breaker.mode with
    | closed => rfl
    | halfOpen =>
      -- a breaker that stays half open still needs successes
      have := (h.sound hs).trials_lt
      rw [(h.told hs hp).halfOpen hc, ← h.settings_eq, List.replicate_inj] at hl
      omega
    | opened =>
      rcases (h.move (by rw [hc, hm]; decide)).of_halfOpen hm with
        ⟨_, _, _, _, _, ht⟩ | ⟨id, now, rfl, hh, -⟩ | ⟨he, -⟩
      · rw [hc] at ht; cases ht
      · -- the failure that opened it stands in the stretch
        rw [sinceHalfOpen_of_halfOpen hm, outcomes_cons, outcome?_of_holds hh] at hl
        have : false ∈ List.replicate s.breaker.settings.successThreshold.toNat true := by rw [← hl]; simp
        exact absurd (List.eq_of_mem_replicate this) (by decide)
      · exact absurd he hr

/-- Every failure opens a half-open breaker. -/
theorem Effect.relapses (h : Effect s event t) (hm : s.breaker.mode = .halfOpen)
    (ho : (⟨event, s, t⟩ : Entry).outcome? = some false) : t.breaker.mode = .opened := by
  cases h with
  | records hh ht =>
    rw [outcome?_of_holds hh] at ho
    cases ho
    cases ht with
    | relapses _ => rfl
    | bears hm' _ => rw [hm] at hm'; cases hm'
    | trips _ _ => rfl
    | prolongs hm' => rw [hm] at hm'; cases hm'
  | unknown hh => rw [outcome?_of_not_holds hh] at ho; cases ho
  | admitted _ | probes _ _ | rejected _ _ | abandons | resets => cases ho

/-- No outcome moves an open breaker. -/
theorem Effect.stays_opened {o : Bool} (h : Effect s event t) (hm : s.breaker.mode = .opened)
    (ho : (⟨event, s, t⟩ : Entry).outcome? = some o) : t.breaker.mode = .opened := by
  by_contra hne
  rcases (h.move (by rw [hm]; exact hne)).of_opened hm with ⟨id, now, rfl, -⟩ | ⟨rfl, -⟩ <;> cases ho

/-! ## What a history demands -/

/-- What a history tells of the counters, and what it demands of the breaker at an event. -/
structure Demands (settings : BreakerSettings) (past : List Entry) (s : BreakerSession) (event : Event) : Prop where
  failures : s.breaker.mode = .closed → outcomes (sinceCleared past) = List.replicate s.breaker.failures false
  opens : s.breaker.mode = .closed → ((s.after event).breaker.mode = .opened ↔
    outcomes (sinceCleared (⟨event, s, s.after event⟩ :: past)) =
      List.replicate settings.failureThreshold.toNat false)
  trials : s.breaker.mode = .halfOpen → outcomes (sinceHalfOpen past) = List.replicate s.breaker.trials true
  recovers : s.breaker.mode = .halfOpen → event ≠ .reset → ((s.after event).breaker.mode = .closed ↔
    outcomes (sinceHalfOpen (⟨event, s, s.after event⟩ :: past)) =
      List.replicate settings.successThreshold.toNat true)
  relapses : s.breaker.mode = .halfOpen → (⟨event, s, s.after event⟩ : Entry).outcome? = some false →
    (s.after event).breaker.mode = .opened
  stays : s.breaker.mode = .opened → (⟨event, s, s.after event⟩ : Entry).outcome?.isSome →
    (s.after event).breaker.mode = .opened
  moves : (s.after event).breaker.mode ≠ s.breaker.mode → Move s event (s.after event)

/-- After every run, every event does what the outcomes recorded so far demand. -/
theorem history_demands {name : String} {settings : BreakerSettings} {b : Breaker} {samples : List Sample}
    (hb : Breaker.create name settings = .ok (b, samples)) (h : Run (ofBreaker b) past s) (event : Event) :
    Demands settings past s event := by
  have hs₀ := Breaker.sound_create hb
  have hs := h.sound hs₀
  have hp := h.told hs₀ (told_create hb)
  have he := effect_after s event
  have hset : s.breaker.settings = settings := by rw [h.settings_eq, ofBreaker, Breaker.create_eq hb]
  refine ⟨hp.closed, fun hm => ?_, hp.halfOpen, fun hm hr => ?_, fun hm ho => he.relapses hm ho, fun hm ho => ?_,
    he.move⟩
  · rw [← hset]; exact he.opens_iff hs hp hm
  · rw [← hset]; exact he.recovers_iff hs hp hm hr
  · obtain ⟨o, ho⟩ := Option.isSome_iff_exists.1 ho
    exact he.stays_opened hm ho

/-- A breaker that opens at two failures in a row and closes after two successes. -/
def patient : Breaker := ⟨"mailgun", ⟨2, .ofSeconds 30, 2⟩, .closed, .closed, 0, 0, none⟩

/-- A failure that a success makes good, two failures in a row, a trial that fails, and a trial that succeeds while
another begins. -/
def relapse : List Event :=
  [.start "a" 0, .finish "a" 0 false, .start "b" 0, .finish "b" 0 true,
    .start "c" 0, .start "d" 0, .finish "c" 0 false, .finish "d" 0 false,
    .start "e" 30000000001, .finish "e" 30000000001 false,
    .start "f" 60000000002, .start "g" 60000000002, .finish "f" 60000000002 true]

/-- The second success of the second episode closes the breaker: its trials are counted anew. -/
theorem second_success_closes :
    ((relapse.foldl after (ofBreaker patient)).after (.finish "g" 60000000002 true)).breaker.mode = .closed := by
  have hb : Breaker.create "mailgun" ⟨2, .ofSeconds 30, 2⟩ = .ok (patient, _) := rfl
  have hd := history_demands hb (Run.of_events relapse .nil) (.finish "g" 60000000002 true)
  exact (hd.recovers (by decide) nofun).2 (by decide)

end MailReconciler.BreakerSession
