/-
Half-open episodes. A breaker that leaves its half-open state is moved by outcomes recorded in that episode only: it
closes after as many successes as it needs and opens at a failure. Whose outcomes these are is not asked: they
belong to calls let through in the episode or still in flight when it began. So the episode is decided by its own
trial calls when nothing was in flight at its beginning, and a slow call from before it may decide it otherwise
(`slow_call_closes`).
-/
import MailReconciler.Proofs.Breaker.History

namespace MailReconciler.BreakerSession

variable {s₀ s t : BreakerSession} {event : Event} {past older : List Entry} {e enter : Entry} {id : String}

/-! ## Whose outcomes -/

/-- The call that an entry lets through. -/
def Entry.admitted? (e : Entry) : Option String :=
  match e.event with
  | .start id now => if (e.before.start id now).1 then some id else none
  | _ => none

/-- The call whose outcome an entry records. -/
def Entry.caller? (e : Entry) : Option String :=
  match e.event with
  | .finish id _ _ => if e.before.holds id then some id else none
  | _ => none

/-- The calls let through in a stretch of a history. -/
def admittedIn (past : List Entry) : List String := past.filterMap Entry.admitted?

/-- The calls whose outcomes are recorded in a stretch of a history. -/
def callersIn (past : List Entry) : List String := past.filterMap Entry.caller?

/-- The half-open episode that a history ends with: the entry that began it and those since. -/
def episode (past : List Entry) : List Entry := past.take ((sinceHalfOpen past).length + 1)

/-- Whether an entry ends the half-open episode before it, otherwise than by a reset. -/
def Entry.Ends (e : Entry) : Prop :=
  e.before.breaker.mode = .halfOpen ∧ e.after.breaker.mode ≠ .halfOpen ∧ e.event ≠ .reset

/-- Whether all outcomes recorded in the episode, up to the entry that ends it, belong to calls let through in it. -/
def DecidedByTrials (e : Entry) (past : List Entry) : Prop :=
  ∀ id ∈ callersIn (e :: sinceHalfOpen past), id ∈ admittedIn (episode past)

instance (e : Entry) : Decidable e.Ends :=
  inferInstanceAs (Decidable (_ ∧ _ ∧ _))

instance (e : Entry) (past : List Entry) : Decidable (DecidedByTrials e past) :=
  inferInstanceAs (Decidable (∀ id ∈ callersIn (e :: sinceHalfOpen past), id ∈ admittedIn (episode past)))

theorem Entry.mem_inFlight_of_caller? (h : e.caller? = some id) : id ∈ e.before.inFlight := by
  unfold Entry.caller? at h
  split at h
  · split at h
    · rename_i hh
      cases h
      exact List.contains_iff_mem.1 hh
    · cases h
  · cases h

/-- A call in flight after an event was let through by it or in flight before. -/
theorem Effect.mem_inFlight (h : Effect s event t) (hid : id ∈ t.inFlight) :
    (⟨event, s, t⟩ : Entry).admitted? = some id ∨ id ∈ s.inFlight := by
  cases h with
  | admitted hm =>
    rcases List.mem_cons.1 hid with rfl | hid
    · left; simp [Entry.admitted?, start_of_not_opened hm]
    · exact .inr hid
  | probes hm hc =>
    rcases List.mem_cons.1 hid with rfl | hid
    · left; simp [Entry.admitted?, (start_of_cooled hm hc).1]
    · exact .inr hid
  | rejected _ _ | unknown _ | resets => exact .inr hid
  | records _ _ | abandons => exact .inr (List.mem_of_mem_erase hid)

/-! ## The invariant of an episode -/

/-- A half-open episode under way: `enter` began it, and every call that is in flight or has had its outcome recorded
since was let through in it or was in flight before `enter`. -/
structure Episode (past : List Entry) (s : BreakerSession) (enter : Entry) (older : List Entry) : Prop where
  split : past = sinceHalfOpen past ++ enter :: older
  opened : enter.before.breaker.mode = .opened
  halfOpen : enter.after.breaker.mode = .halfOpen
  stays : ∀ e ∈ sinceHalfOpen past, e.before.breaker.mode = .halfOpen ∧ e.after.breaker.mode = .halfOpen
  inFlight : ∀ id ∈ s.inFlight, id ∈ admittedIn (episode past) ∨ id ∈ enter.before.inFlight
  callers : ∀ id ∈ callersIn (sinceHalfOpen past), id ∈ admittedIn (episode past) ∨ id ∈ enter.before.inFlight

theorem episode_cons (h : e.before.breaker.mode = .halfOpen) : episode (e :: past) = e :: episode past := by
  unfold episode; rw [sinceHalfOpen_of_halfOpen h]; rfl

theorem episode_of_enter (h : e.before.breaker.mode ≠ .halfOpen) : episode (e :: past) = [e] := by
  unfold episode; rw [sinceHalfOpen_of_not_halfOpen h]; rfl

theorem Episode.begin (h : Effect s event t) (hm : s.breaker.mode = .opened) (ht : t.breaker.mode = .halfOpen) :
    Episode (⟨event, s, t⟩ :: past) t ⟨event, s, t⟩ past := by
  have hne : s.breaker.mode ≠ .halfOpen := by rw [hm]; decide
  have hs : sinceHalfOpen (⟨event, s, t⟩ :: past) = [] := sinceHalfOpen_of_not_halfOpen hne
  refine ⟨by rw [hs]; rfl, hm, ht, by rw [hs]; exact List.forall_mem_nil _, fun id hid => ?_,
    by rw [hs]; exact List.forall_mem_nil _⟩
  rw [episode_of_enter hne]
  rcases h.mem_inFlight hid with h1 | h1
  · exact .inl (List.mem_filterMap.2 ⟨_, List.mem_singleton_self _, h1⟩)
  · exact .inr h1

/-- What an event adds to an episode under way belongs to calls let through in it or in flight before it. -/
theorem Episode.step (hp : Episode past s enter older) (h : Effect s event t) (hm : s.breaker.mode = .halfOpen)
    (ht : t.breaker.mode = .halfOpen) : Episode (⟨event, s, t⟩ :: past) t enter older := by
  have hs : sinceHalfOpen (⟨event, s, t⟩ :: past) = ⟨event, s, t⟩ :: sinceHalfOpen past :=
    sinceHalfOpen_of_halfOpen hm
  have he : episode (⟨event, s, t⟩ :: past) = ⟨event, s, t⟩ :: episode past := episode_cons hm
  have grow : ∀ id, id ∈ admittedIn (episode past) ∨ id ∈ enter.before.inFlight →
      id ∈ admittedIn (episode (⟨event, s, t⟩ :: past)) ∨ id ∈ enter.before.inFlight := by
    rintro id (hid | hid)
    · obtain ⟨a, ha, hai⟩ := List.mem_filterMap.1 hid
      exact .inl (List.mem_filterMap.2 ⟨a, by rw [he]; exact List.mem_cons_of_mem _ ha, hai⟩)
    · exact .inr hid
  refine ⟨by rw [hs, List.cons_append, ← hp.split], hp.opened, hp.halfOpen, ?_, fun id hid => ?_, fun id hid => ?_⟩
  · rw [hs]
    intro e he
    rcases List.mem_cons.1 he with rfl | he
    · exact ⟨hm, ht⟩
    · exact hp.stays e he
  · -- a call in flight now was let through just now or was in flight already
    rcases h.mem_inFlight hid with h1 | h1
    · exact .inl (List.mem_filterMap.2 ⟨_, by rw [he]; exact List.mem_cons_self .., h1⟩)
    · exact grow id (hp.inFlight id h1)
  · rw [hs] at hid
    obtain ⟨a, ha, hai⟩ := List.mem_filterMap.1 hid
    rcases List.mem_cons.1 ha with rfl | ha
    · -- the outcome recorded just now is that of a call in flight
      exact grow id (hp.inFlight id (Entry.mem_inFlight_of_caller? hai))
    · exact grow id (hp.callers id (List.mem_filterMap.2 ⟨a, ha, hai⟩))

/-- Every half-open breaker is in an episode that an admission began. -/
theorem Run.episode (h : Run s₀ past s) (h₀ : s₀.breaker.mode ≠ .halfOpen) (hm : s.breaker.mode = .halfOpen) :
    ∃ enter older, Episode past s enter older := by
  induction h with
  | nil => exact absurd hm h₀
  | @step past s _ event ih =>
    by_cases hs : s.breaker.mode = .halfOpen
    · obtain ⟨enter, older, hp⟩ := ih hs
      exact ⟨enter, older, hp.step (effect_after s event) hs hm⟩
    · have hmove := (effect_after s event).move (by rw [hm]; exact Ne.symm hs)
      cases hmode : s.breaker.mode with
      | opened => exact ⟨_, _, .begin (effect_after s event) hmode hm⟩
      | halfOpen => exact absurd hmode hs
      | closed =>
        rcases hmove.of_closed hmode with ⟨_, _, _, _, _, ht⟩ | ⟨_, ht⟩ <;> (rw [hm] at ht; cases ht)

/-! ## The end of an episode -/

/-- What ends an episode: the last success that the breaker needs, or a failure. -/
theorem Effect.ends (h : Effect s event t) (hs : s.breaker.Sound) (hp : Told past s)
    (he : (⟨event, s, t⟩ : Entry).Ends) :
    (t.breaker.mode = .closed ∧ outcomes (⟨event, s, t⟩ :: sinceHalfOpen past) =
      List.replicate s.breaker.settings.successThreshold.toNat true) ∨
    (t.breaker.mode = .opened ∧ (⟨event, s, t⟩ : Entry).outcome? = some false) := by
  obtain ⟨hm, hne, hr⟩ := he
  simp only at hm hne hr
  rcases (h.move (by rw [hm]; exact hne)).of_halfOpen hm with ⟨_, _, _, _, _, ht⟩ | ⟨_, _, rfl, hh, ht⟩ | ⟨he, _⟩
  · have := (h.recovers_iff hs hp hm hr).1 ht
    rw [sinceHalfOpen_of_halfOpen hm] at this
    exact .inl ⟨ht, this⟩
  · exact .inr ⟨ht, outcome?_of_holds hh⟩
  · exact absurd he hr

/-- A breaker leaves its half-open state by outcomes recorded in that episode: as many successes as it needs, or a
failure. They belong to calls let through in the episode or in flight when it began; all to the former if nothing
was. -/
theorem leaves_halfOpen_by_episode {name : String} {settings : BreakerSettings} {b : Breaker} {samples : List Sample}
    (hb : Breaker.create name settings = .ok (b, samples)) (h : Run (ofBreaker b) (e :: past) t) (he : e.Ends) :
    ∃ enter older, past = sinceHalfOpen past ++ enter :: older ∧
      enter.before.breaker.mode = .opened ∧ enter.after.breaker.mode = .halfOpen ∧
      (∀ a ∈ sinceHalfOpen past, a.before.breaker.mode = .halfOpen ∧ a.after.breaker.mode = .halfOpen) ∧
      ((e.after.breaker.mode = .closed ∧
          outcomes (e :: sinceHalfOpen past) = List.replicate settings.successThreshold.toNat true) ∨
        (e.after.breaker.mode = .opened ∧ e.outcome? = some false)) ∧
      (∀ id ∈ callersIn (e :: sinceHalfOpen past), id ∈ admittedIn (episode past) ∨ id ∈ enter.before.inFlight) ∧
      (enter.before.inFlight = [] → DecidedByTrials e past) := by
  cases h with
  | @step _ s hr event =>
    have hset : s.breaker.settings = settings := by rw [hr.settings_eq, ofBreaker, Breaker.create_eq hb]
    have hclosed : (ofBreaker b).breaker.mode ≠ .halfOpen := by
      rw [ofBreaker, Breaker.create_eq hb]
      intro hm; cases hm
    obtain ⟨enter, older, hp⟩ := hr.episode hclosed he.1
    have hcallers : ∀ id ∈ callersIn (⟨event, s, s.after event⟩ :: sinceHalfOpen past),
        id ∈ admittedIn (episode past) ∨ id ∈ enter.before.inFlight := by
      intro id hid
      obtain ⟨a, ha, hai⟩ := List.mem_filterMap.1 hid
      rcases List.mem_cons.1 ha with rfl | ha
      · exact hp.inFlight id (Entry.mem_inFlight_of_caller? hai)
      · exact hp.callers id (List.mem_filterMap.2 ⟨a, ha, hai⟩)
    refine ⟨enter, older, hp.split, hp.opened, hp.halfOpen, hp.stays, ?_, hcallers, fun hnone id hid => ?_⟩
    · rw [← hset]
      exact (effect_after s event).ends (hr.sound (Breaker.sound_create hb)) (hr.told (Breaker.sound_create hb)
        (told_create hb)) he
    · rcases hcallers id hid with h1 | h1
      · exact h1
      · rw [hnone] at h1; cases h1

/-- A slow call, and another whose failure opens the breaker; after the quiet time a trial begins, and then the slow
call succeeds. -/
def slowCall : List Event :=
  [.start "slow" 0, .start "first" 0, .finish "first" 0 false, .start "trial" 30001000000,
    .finish "slow" 30001000000 true]

/-- The slow call was in flight when the episode that it ended began. -/
theorem slow_call_in_flight : ∃ e past, (ofBreaker .touchy).entries [] slowCall = e :: past ∧ e.Ends ∧
    e.caller? = some "slow" ∧
    ∃ enter ∈ past, enter.after.breaker.mode = .halfOpen ∧ "slow" ∈ enter.before.inFlight := by
  refine ⟨_, _, rfl, by decide, rfl, ?_⟩
  obtain ⟨enter, older, hsplit, -, hhalf, -, -, hcallers, -⟩ :=
    leaves_halfOpen_by_episode Breaker.touchy_create (Run.of_events slowCall .nil) (by decide)
  refine ⟨enter, by rw [hsplit]; simp, hhalf, ?_⟩
  rcases hcallers "slow" (by decide) with h | h
  · exact absurd h (by decide)
  · exact h

/-- An episode is not always decided by its own trial calls: here the slow call closes the breaker while the trial
is in flight. -/
theorem slow_call_closes : ¬ ∀ (name : String) (settings : BreakerSettings) (b : Breaker) (samples : List Sample),
    Breaker.create name settings = .ok (b, samples) → ∀ (e : Entry) (past : List Entry) (t : BreakerSession),
      Run (ofBreaker b) (e :: past) t → e.Ends → DecidedByTrials e past := by
  intro h
  have hd := h "mailgun" _ .touchy _ Breaker.touchy_create _ _ _ (Run.of_events slowCall .nil) (by decide)
  exact absurd hd (by decide)

end MailReconciler.BreakerSession
