/-
What the samples of a breaker tell of it. A breaker says its state when it is made, every change of its state together
with the state that it enters, and every call that it rejects; nothing else that happens to it leaves a sample. So the
changes that were sampled are a chain from the closed state to the present one, and the latest state is the present one
(`Tells`).
-/
import MailReconciler.Metrics.Recording
import MailReconciler.Proofs.Breaker.Run

namespace MailReconciler

/-! ## Reading samples -/

/-- A change of state: the state that is left, and the one that is entered. -/
abbrev Edge := BreakerMode × BreakerMode

def BreakerMode.ofLabel? (label : String) : Option BreakerMode :=
  [.closed, .opened, .halfOpen].find? (·.label == label)

/-- The change of state that the labels of a sample tell. -/
def Sample.edge? (s : Sample) : Option Edge := do
  let before ← BreakerMode.ofLabel? (← s.label? "from")
  let after ← BreakerMode.ofLabel? (← s.label? "to")
  return (before, after)

/-- The state after changes that happen one after the other, each from the state that the one before has left. -/
def replay : BreakerMode → List Edge → Option BreakerMode
  | mode, [] => some mode
  | mode, (before, after) :: edges => if before = mode then replay after edges else none

theorem replay_concat {start mode : BreakerMode} {edges : List Edge} (h : replay start edges = some mode)
    (after : BreakerMode) : replay start (edges ++ [(mode, after)]) = some after := by
  induction edges generalizing start with
  | nil =>
    obtain rfl := Option.some.inj h
    simp [replay]
  | cons e edges ih =>
    obtain ⟨before, next⟩ := e
    simp only [replay, List.cons_append] at h ⊢
    split at h
    · rename_i hb
      rw [if_pos hb]
      exact ih h
    · cases h

def stateSample (name : String) (mode : BreakerMode) : Sample :=
  .gauge Family.breakerState mode.code [("breaker", name)]

def changeSample (name : String) (e : Edge) : Sample :=
  .count Family.transitions [("breaker", name), ("from", e.1.label), ("to", e.2.label)]

def rejectionSample (name : String) : Sample := .count Family.rejections [("breaker", name)]

theorem edge?_changeSample (name : String) (e : Edge) : (changeSample name e).edge? = some e := by
  obtain ⟨before, after⟩ := e
  cases before <;> cases after <;> rfl

namespace Breaker

variable {b b' : Breaker} {now : Instant} {new : List Sample} {edges : List Edge}

/-! ## What a breaker says -/

/-- The changes of state that calls make. -/
def callEdges : List Edge :=
  [(.closed, .opened), (.opened, .halfOpen), (.halfOpen, .opened), (.halfOpen, .closed)]

/-- The changes of state that a reset makes. -/
def resetEdges : List Edge := [(.opened, .closed), (.halfOpen, .closed)]

/-- What a breaker says when it keeps its state, and when it changes it along one of some edges. -/
inductive Utters (edges : List Edge) (b : Breaker) : List Sample → Breaker → Prop
  | keeps {b' : Breaker} : b'.mode = b.mode → b'.published = b.published → b'.name = b.name → Utters edges b [] b'
  | enters {b' : Breaker} : (b.mode, b'.mode) ∈ edges → b'.published = b'.mode → b'.name = b.name →
      Utters edges b [changeSample b.name (b.mode, b'.mode), stateSample b.name b'.mode] b'

theorem utters_refl (edges : List Edge) (b : Breaker) : Utters edges b [] b := .keeps rfl rfl rfl

theorem Utters.name_eq (h : Utters edges b new b') : b'.name = b.name := by
  cases h with
  | keeps _ _ hn | enters _ _ hn => exact hn

theorem Utters.published_eq (h : Utters edges b new b') (hb : b.published = b.mode) : b'.published = b'.mode := by
  cases h with
  | keeps hm hp _ => rw [hp, hb, hm]
  | enters _ hp _ => exact hp

theorem Utters.rejections_eq (h : Utters edges b new b') : Recording.samplesOf new .counter Family.rejections = [] := by
  cases h with
  | keeps _ _ _ | enters _ _ _ => rfl

theorem Utters.edge_mem {s : Sample} (h : Utters edges b new b') (hin : s ∈ new)
    (hs : s.isOf .counter Family.transitions = true) : ∃ e ∈ edges, s.edge? = some e := by
  cases h with
  | keeps _ _ _ => cases hin
  | enters he _ _ =>
    rcases List.mem_cons.1 hin with rfl | hin
    · exact ⟨_, he, edge?_changeSample _ _⟩
    · obtain rfl := List.mem_singleton.1 hin
      cases hs

theorem utters_enter {mode : BreakerMode} (h : (b.mode, mode) ∈ edges) :
    Utters edges b (b.enter mode).2 (b.enter mode).1 := by
  cases mode with
  | closed => exact @Utters.enters edges b (b.enter .closed).1 h rfl rfl
  | opened => exact @Utters.enters edges b (b.enter .opened).1 h rfl rfl
  | halfOpen => exact @Utters.enters edges b (b.enter .halfOpen).1 h rfl rfl

/-- What is not shown of a breaker does not change what it says. -/
theorem Utters.of_same {a : Breaker} (h : Utters edges a new b') (hm : a.mode = b.mode) (hp : a.published = b.published)
    (hn : a.name = b.name) : Utters edges b new b' := by
  cases h with
  | keeps hm' hp' hn' => exact .keeps (hm'.trans hm) (hp'.trans hp) (hn'.trans hn)
  | enters he hp' hn' =>
    -- the samples hold the name and the state, so both are rewritten in them too
    rw [hm] at he ⊢
    rw [hn] at hn' ⊢
    exact .enters he hp' hn'

theorem utters_recordSuccess (b : Breaker) : Utters callEdges b b.recordSuccess.2 b.recordSuccess.1 := by
  unfold recordSuccess
  split
  · exact .keeps rfl rfl rfl
  · rename_i hm
    have he : (b.mode, BreakerMode.closed) ∈ callEdges := by rw [hm]; decide
    dsimp only
    split
    · exact (@utters_enter { b with trials := b.trials + 1 } _ _ he).of_same rfl rfl rfl
    · exact .keeps rfl rfl rfl
  · exact utters_refl _ b

theorem utters_recordFailure (b : Breaker) (now : Instant) :
    Utters callEdges b (b.recordFailure now).2 (b.recordFailure now).1 := by
  rw [recordFailure_eq]
  have hopens (he : (b.mode, BreakerMode.opened) ∈ callEdges) :
      Utters callEdges b ((b.noteFailure now).enter .opened).2 ((b.noteFailure now).enter .opened).1 :=
    (@utters_enter (b.noteFailure now) _ _ he).of_same rfl rfl rfl
  cases hm : b.mode with
  | closed =>
    dsimp only
    split
    · exact hopens (by rw [hm]; decide)
    · exact .keeps rfl rfl rfl
  | opened => exact .keeps rfl rfl rfl
  | halfOpen => exact hopens (by rw [hm]; decide)

theorem utters_record (b : Breaker) (now : Instant) (succeeded : Bool) :
    Utters callEdges b (b.record now succeeded).2 (b.record now succeeded).1 := by
  cases succeeded with
  | true => exact utters_recordSuccess b
  | false => exact utters_recordFailure b now

/-- A breaker that admits a call may say that it has become half open. -/
theorem utters_allow (h : (b.allow now).1 = true) : Utters callEdges b (b.allow now).2.2 (b.allow now).2.1 := by
  unfold allow at h ⊢
  by_cases hm : b.mode = .opened
  · rw [if_pos hm] at h ⊢
    split at h
    · rename_i hc
      rw [if_pos hc]
      exact utters_enter (by rw [hm]; decide)
    · cases h
  · rw [if_neg hm]
    exact utters_refl _ b

/-- A breaker that rejects a call says so, and stays as it is. -/
theorem allow_of_rejected (h : (b.allow now).1 = false) : b.allow now = (false, b, [rejectionSample b.name]) := by
  by_cases hm : b.mode = .opened
  · cases hc : b.cooled now with
    | false => exact allow_of_not_cooled hm hc
    | true => rw [(allow_of_cooled hm hc).1] at h; cases h
  · rw [allow_of_not_opened hm] at h
    cases h

theorem utters_reset (b : Breaker) : Utters resetEdges b b.reset.2 b.reset.1 := by
  unfold reset
  dsimp only
  split
  · exact .keeps rfl rfl rfl
  · rename_i hm
    have he : (b.mode, BreakerMode.closed) ∈ resetEdges := by
      cases hb : b.mode with
      | closed => exact absurd hb hm
      | opened => decide
      | halfOpen => decide
    exact (@utters_enter { b with failures := 0, trials := 0, lastFailure := none } _ _ he).of_same rfl rfl rfl

end Breaker

/-! ## The whole log -/

open Recording

/-- Every sampled change of state is followed at once by the state that it enters. -/
def Followed (name : String) (samples : List Sample) : Prop :=
  ∀ (i : Nat) s, samples[i]? = some s → s.isOf .counter Family.transitions = true →
    ∃ e, s.edge? = some e ∧ samples[i + 1]? = some (stateSample name e.2)

theorem followed_singleton {s : Sample} (name : String) (h : s.isOf .counter Family.transitions = false) :
    Followed name [s] := by
  intro i s' hi hs
  obtain rfl := List.mem_singleton.1 (List.mem_of_getElem? hi)
  rw [h] at hs
  cases hs

theorem followed_change (name : String) (e : Edge) : Followed name [changeSample name e, stateSample name e.2] := by
  intro i s hi hs
  match i with
  | 0 => cases hi; exact ⟨e, edge?_changeSample name e, rfl⟩
  | 1 => cases hi; cases hs
  | i + 2 => cases hi

theorem Followed.append {name : String} {samples new : List Sample} (h : Followed name samples)
    (hn : Followed name new) : Followed name (samples ++ new) := by
  intro i s hi hs
  rw [List.getElem?_append] at hi
  split at hi
  · obtain ⟨e, he, hnext⟩ := h i s hi hs
    have hlt : i + 1 < samples.length := (List.getElem?_eq_some_iff.1 hnext).1
    exact ⟨e, he, (List.getElem?_append_left hlt).trans hnext⟩
  · rename_i hle
    obtain ⟨e, he, hnext⟩ := hn _ s hi hs
    refine ⟨e, he, ?_⟩
    have hsub : i + 1 - samples.length = i - samples.length + 1 := by omega
    rw [List.getElem?_append_right (by omega), hsub]
    exact hnext

/-- What the samples of a breaker tell of the changes of its state, from its making on. -/
structure Tells (name : String) (samples : List Sample) (edges : List Edge) (mode : BreakerMode) : Prop where
  /-- The first sample is the closed state that the breaker is made in. -/
  first : samples.head? = some (stateSample name .closed)
  /-- The sampled changes are the edges, -/
  changes : (samplesOf samples .counter Family.transitions).map Sample.edge? = edges.map some
  /-- which lead one after the other from the closed state to the present one. -/
  chain : replay .closed edges = some mode
  /-- Each is one that a call makes, or a reset of an open breaker. -/
  lawful : ∀ e ∈ edges, e ∈ Breaker.callEdges ∨ e = (.opened, .closed)
  /-- The state that it enters follows at once, -/
  followed : Followed name samples
  /-- no other state is sampled than these and the first, -/
  states : samplesOf samples .gauge Family.breakerState = stateSample name .closed :: edges.map (stateSample name ·.2)
  /-- and the latest is the present one. -/
  latest : lastGauge? samples Family.breakerState [("breaker", name)] = some mode.code

theorem samplesOf_append (samples new : List Sample) (kind : SampleKind) (family : String) :
    samplesOf (samples ++ new) kind family = samplesOf samples kind family ++ samplesOf new kind family :=
  List.filter_append ..

theorem lastGauge?_append {name : String} {mode : BreakerMode} {new : List Sample} (samples : List Sample)
    (h : samplesOf new .gauge Family.breakerState = [stateSample name mode]) :
    lastGauge? (samples ++ new) Family.breakerState [("breaker", name)] = some mode.code := by
  have hcarries : (stateSample name mode).carries [("breaker", name)] = true := by
    simp [stateSample, Sample.gauge, Sample.carries, Sample.label?]
  unfold lastGauge?
  rw [samplesOf_append, h, List.reverse_append, List.reverse_singleton, List.singleton_append, List.find?_cons,
    hcarries]
  rfl

namespace Tells

variable {name : String} {samples : List Sample} {edges : List Edge} {mode : BreakerMode} {e : Edge}

theorem created (name : String) : Tells name [stateSample name .closed] [] .closed where
  first := rfl
  changes := rfl
  chain := rfl
  lawful _ h := by cases h
  followed := followed_singleton name rfl
  states := rfl
  latest := lastGauge?_append [] rfl

theorem rejected (h : Tells name samples edges mode) : Tells name (samples ++ [rejectionSample name]) edges mode where
  first := by rw [List.head?_append, h.first]; rfl
  changes := by
    rw [samplesOf_append, List.map_append, h.changes]
    exact List.append_nil _
  chain := h.chain
  lawful := h.lawful
  followed := h.followed.append (followed_singleton name rfl)
  states := by
    rw [samplesOf_append, h.states]
    exact List.append_nil _
  latest := by
    unfold lastGauge?
    rw [samplesOf_append]
    -- a rejection is no gauge
    show ((samplesOf samples .gauge Family.breakerState ++ []).reverse.find? _).map _ = _
    rw [List.append_nil]
    exact h.latest

theorem changed (h : Tells name samples edges mode) {after : BreakerMode}
    (he : (mode, after) ∈ Breaker.callEdges ∨ (mode, after) = (.opened, .closed)) :
    Tells name (samples ++ [changeSample name (mode, after), stateSample name after]) (edges ++ [(mode, after)])
      after where
  first := by rw [List.head?_append, h.first]; rfl
  changes := by
    rw [samplesOf_append, List.map_append, h.changes, List.map_append]
    show _ ++ [(changeSample name (mode, after)).edge?] = _
    rw [edge?_changeSample]
    rfl
  chain := replay_concat h.chain after
  lawful e hin := by
    rcases List.mem_append.1 hin with hin | hin
    · exact h.lawful e hin
    · obtain rfl := List.mem_singleton.1 hin
      exact he
  followed := h.followed.append (followed_change name (mode, after))
  states := by
    rw [samplesOf_append, h.states, List.map_append]
    rfl
  latest := lastGauge?_append samples rfl

/-- A log goes on with what its breaker says of its state. -/
theorem utters {b b' : Breaker} {new : List Sample} {along : List Edge} (h : Tells b.name samples edges b.mode)
    (hs : Breaker.Utters along b new b') (hsub : ∀ e ∈ along, e ∈ Breaker.callEdges ∨ e = (.opened, .closed)) :
    ∃ edges', Tells b'.name (samples ++ new) edges' b'.mode := by
  rw [hs.name_eq]
  cases hs with
  | keeps hm _ _ =>
    rw [hm, List.append_nil]
    exact ⟨edges, h⟩
  | enters he _ _ => exact ⟨_, h.changed (hsub _ he)⟩

end Tells
end MailReconciler
