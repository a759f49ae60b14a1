/-
Runs of a session of overlapping calls: calls are begun, succeed, fail or are abandoned in any order, and the
breaker is reset at any time. What one event does is said once, case by case: `Takes` for the breaker that is told
an outcome, and `Effect` for the session. Results about runs are inductions over `Run` with these cases. An event
that reads the time brings an instant of its own, so the runs cover every clock, also one that is set back.
-/
import MailReconciler.Breaker.Session

namespace MailReconciler

namespace Breaker

variable {b b' : Breaker} {now : Instant} {succeeded : Bool}

/-! ## Outcomes -/

/-- The breaker that has noted a failure and not yet decided whether to open. -/
def noteFailure (b : Breaker) (now : Instant) : Breaker :=
  { b with failures := min (b.failures + 1) (UInt32.size - 1), lastFailure := some now }

/-- How a breaker takes an outcome. -/
inductive Takes (b : Breaker) : Instant → Bool → Breaker → Prop
  | forgets {now : Instant} : b.mode = .closed → Takes b now true { b with failures := 0 }
  | counts {now : Instant} : b.mode = .halfOpen → b.trials + 1 < b.settings.successThreshold.toNat →
      Takes b now true { b with trials := b.trials + 1 }
  | recovers {now : Instant} : b.mode = .halfOpen → b.settings.successThreshold.toNat ≤ b.trials + 1 →
      Takes b now true { b with mode := .closed, published := .closed, failures := 0, trials := 0 }
  | ignores {now : Instant} : b.mode = .opened → Takes b now true b
  | bears {now : Instant} : b.mode = .closed → (b.noteFailure now).failures < b.settings.failureThreshold.toNat →
      Takes b now false (b.noteFailure now)
  | trips {now : Instant} : b.mode = .closed → b.settings.failureThreshold.toNat ≤ (b.noteFailure now).failures →
      Takes b now false { b.noteFailure now with mode := .opened, published := .opened }
  | relapses {now : Instant} : b.mode = .halfOpen →
      Takes b now false { b.noteFailure now with mode := .opened, published := .opened }
  | prolongs {now : Instant} : b.mode = .opened → Takes b now false (b.noteFailure now)

theorem recordFailure_eq (b : Breaker) (now : Instant) :
    b.recordFailure now = match b.mode with
      | .closed => if b.settings.failureThreshold.toNat ≤ (b.noteFailure now).failures
          then (b.noteFailure now).enter .opened else (b.noteFailure now, [])
      | .halfOpen => (b.noteFailure now).enter .opened
      | .opened => (b.noteFailure now, []) :=
  rfl

theorem takes_recordSuccess (b : Breaker) (now : Instant) : b.Takes now true b.recordSuccess.1 := by
  unfold recordSuccess
  split
  · rename_i hm; exact .forgets hm
  · rename_i hm
    by_cases ht : b.settings.successThreshold.toNat ≤ b.trials + 1
    · simp only [ht, if_true]; exact .recovers hm ht
    · simp only [ht, if_false]; exact .counts hm (Nat.lt_of_not_le ht)
  · rename_i hm; exact .ignores hm

theorem takes_recordFailure (b : Breaker) (now : Instant) : b.Takes now false (b.recordFailure now).1 := by
  rw [recordFailure_eq]
  split
  · rename_i hm
    split
    · rename_i ht; exact .trips hm ht
    · rename_i ht; exact .bears hm (Nat.lt_of_not_le ht)
  · rename_i hm; exact .relapses hm
  · rename_i hm; exact .prolongs hm

theorem takes_record (b : Breaker) (now : Instant) (succeeded : Bool) :
    b.Takes now succeeded (b.record now succeeded).1 := by
  cases succeeded
  · exact takes_recordFailure b now
  · exact takes_recordSuccess b now

/-- A breaker reset by hand is closed and has seen nothing. -/
theorem reset_eq (b : Breaker) : b.reset.1 = { b with
    mode := .closed, published := if b.mode = .closed then b.published else .closed,
    failures := 0, trials := 0, lastFailure := none } := by
  unfold reset
  by_cases hm : b.mode = .closed
  · simp [hm]
  · simp only [hm, if_false]; rfl

/-! ## Admission -/

theorem allow_of_not_opened (h : b.mode ≠ .opened) : b.allow now = (true, b, []) := by
  unfold allow; rw [if_neg h]

theorem allow_of_cooled (h : b.mode = .opened) (hc : b.cooled now = true) :
    (b.allow now).1 = true ∧
      (b.allow now).2.1 = { b with mode := .halfOpen, published := .halfOpen, trials := 0 } := by
  unfold allow; rw [if_pos h, if_pos hc]; exact ⟨rfl, rfl⟩

theorem allow_of_not_cooled (h : b.mode = .opened) (hc : b.cooled now = false) :
    b.allow now = (false, b, [.count Family.rejections [("breaker", b.name)]]) := by
  unfold allow; rw [if_pos h, hc]; rfl

end Breaker

namespace BreakerSession

variable {s s' t : BreakerSession} {id : String} {now : Instant}

/-! ## Events -/

/-- What may happen to a session. A call that gives up before it is let through is abandoned, too. -/
inductive Event where
  | start (id : String) (now : Instant)
  | finish (id : String) (now : Instant) (succeeded : Bool)
  | abandon (id : String)
  | reset
deriving Repr, DecidableEq

/-- The session after an event. -/
def after (s : BreakerSession) : Event → BreakerSession
  | .start id now => (s.start id now).2.1
  | .finish id now succeeded => (s.finish id now succeeded).1
  | .abandon id => s.abandon id
  | .reset => s.reset.1

/-- The session with a further call in flight, behind a breaker that let it through. -/
def letIn (s : BreakerSession) (id : String) (b : Breaker) : BreakerSession := ⟨b, id :: s.inFlight, s.begun + 1⟩

/-- What an event does to a session. -/
inductive Effect (s : BreakerSession) : Event → BreakerSession → Prop
  | admitted {id : String} {now : Instant} : s.breaker.mode ≠ .opened →
      Effect s (.start id now) (s.letIn id s.breaker)
  | probes {id : String} {now : Instant} : s.breaker.mode = .opened → s.breaker.cooled now = true →
      Effect s (.start id now)
        (s.letIn id { s.breaker with mode := .halfOpen, published := .halfOpen, trials := 0 })
  | rejected {id : String} {now : Instant} : s.breaker.mode = .opened → s.breaker.cooled now = false →
      Effect s (.start id now) s
  | records {id : String} {now : Instant} {succeeded : Bool} {b : Breaker} : s.holds id = true →
      s.breaker.Takes now succeeded b →
      Effect s (.finish id now succeeded) { s with breaker := b, inFlight := s.inFlight.erase id }
  | unknown {id : String} {now : Instant} {succeeded : Bool} : s.holds id = false →
      Effect s (.finish id now succeeded) s
  | abandons {id : String} : Effect s (.abandon id) (s.abandon id)
  | resets : Effect s .reset { s with breaker := s.breaker.reset.1 }

theorem start_of_not_opened (h : s.breaker.mode ≠ .opened) :
    s.start id now = (true, s.letIn id s.breaker, []) := by
  unfold start; rw [Breaker.allow_of_not_opened h]; rfl

theorem start_of_cooled (h : s.breaker.mode = .opened) (hc : s.breaker.cooled now = true) :
    (s.start id now).1 = true ∧ (s.start id now).2.1 =
      s.letIn id { s.breaker with mode := .halfOpen, published := .halfOpen, trials := 0 } := by
  obtain ⟨h1, h2⟩ := Breaker.allow_of_cooled h hc
  unfold start
  rcases ha : s.breaker.allow now with ⟨ok, b, samples⟩
  rw [ha] at h1 h2
  simp only at h1 h2
  subst h1 h2
  exact ⟨rfl, rfl⟩

theorem start_of_not_cooled (id : String) (h : s.breaker.mode = .opened) (hc : s.breaker.cooled now = false) :
    s.start id now = (false, s, [.count Family.rejections [("breaker", s.breaker.name)]]) := by
  unfold start; rw [Breaker.allow_of_not_cooled h hc]

theorem after_start_of_allow (id : String) (h : (s.breaker.allow now).1 = true) :
    s.after (.start id now) = s.letIn id (s.breaker.allow now).2.1 := by
  show (s.start id now).2.1 = _
  unfold start
  rcases ha : s.breaker.allow now with ⟨ok, b, samples⟩
  rw [ha] at h
  cases h
  rfl

theorem after_start_of_not_allow (id : String) (h : (s.breaker.allow now).1 = false) :
    s.after (.start id now) = { s with breaker := (s.breaker.allow now).2.1 } := by
  show (s.start id now).2.1 = _
  unfold start
  rcases ha : s.breaker.allow now with ⟨ok, b, samples⟩
  rw [ha] at h
  cases h
  rfl

theorem after_finish_of_holds (now : Instant) (succeeded : Bool) (h : s.holds id = true) :
    s.after (.finish id now succeeded) =
      { s with breaker := (s.breaker.record now succeeded).1, inFlight := s.inFlight.erase id } := by
  show (s.finish id now succeeded).1 = _
  unfold finish
  rw [if_pos h]

theorem effect_start (s : BreakerSession) (id : String) (now : Instant) :
    Effect s (.start id now) (s.after (.start id now)) := by
  show Effect s (.start id now) (s.start id now).2.1
  by_cases hm : s.breaker.mode = .opened
  · cases hc : s.breaker.cooled now with
    | false => rw [start_of_not_cooled id hm hc]; exact .rejected hm hc
    | true => rw [(start_of_cooled hm hc).2]; exact .probes hm hc
  · rw [start_of_not_opened hm]; exact .admitted hm

theorem effect_finish (s : BreakerSession) (id : String) (now : Instant) (succeeded : Bool) :
    Effect s (.finish id now succeeded) (s.after (.finish id now succeeded)) := by
  show Effect s (.finish id now succeeded) (s.finish id now succeeded).1
  unfold finish
  cases hh : s.holds id with
  | false => exact .unknown hh
  | true => exact .records hh (Breaker.takes_record s.breaker now succeeded)

/-- Every event has one of the listed effects. -/
theorem effect_after (s : BreakerSession) (event : Event) : Effect s event (s.after event) := by
  cases event with
  | start id now => exact effect_start s id now
  | finish id now succeeded => exact effect_finish s id now succeeded
  | abandon id => exact .abandons
  | reset => exact .resets

/-! ## Runs -/

/-- An event that has happened, with the session before and after it. -/
structure Entry where
  event : Event
  before : BreakerSession
  after : BreakerSession
deriving DecidableEq

/-- The outcome that the breaker was told with an entry; only a call in flight has one. -/
def Entry.outcome? (e : Entry) : Option Bool :=
  match e.event with
  | .finish id _ succeeded => if e.before.holds id then some succeeded else none
  | _ => none

/-- `Run s₀ past s`: the events of `past`, newest first, lead from `s₀` to `s`. -/
inductive Run (s₀ : BreakerSession) : List Entry → BreakerSession → Prop
  | nil : Run s₀ [] s₀
  | step {past : List Entry} {s : BreakerSession} : Run s₀ past s → (event : Event) →
      Run s₀ (⟨event, s, s.after event⟩ :: past) (s.after event)

/-- The entries of events that happen one after another, newest first, before those of `past`. -/
def entries (s : BreakerSession) (past : List Entry) : List Event → List Entry
  | [] => past
  | event :: later => (s.after event).entries (⟨event, s, s.after event⟩ :: past) later

/-- Any events in any order are a run. -/
theorem Run.of_events {s₀ : BreakerSession} {past : List Entry} :
    ∀ (events : List Event) {s : BreakerSession}, Run s₀ past s →
      Run s₀ (s.entries past events) (events.foldl after s)
  | [], _, h => h
  | event :: later, _, h => Run.of_events later (h.step event)

end BreakerSession
end MailReconciler
