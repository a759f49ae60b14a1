/-
The account of calls through one breaker, side by side. A ledger is a crowd of watched calls with a record of every
change that they make. Its calls go on in any order; one that has not had its turn at the breaker yet may be ended by
its scope, and none is dropped. By its result a call tells what it did: an operation that completed was begun once and
its outcome recorded once, a call that the breaker rejected or the scope ended recorded nothing. So the recorded
outcomes, the completed operations and the calls that return a result of their operation are the same.
-/
import MailReconciler.Proofs.Breaker.Crowd
import MailReconciler.Proofs.Breaker.Watch

namespace MailReconciler

/-- What is left of a watched call. -/
abbrev Remains (ρ ε α : Type) := Work (World (Watched ρ ε α)) (Except (BreakerFailure ε) α)

/-- A crowd of watched calls, with the calls as they were made and what each of them changed, newest first. -/
structure Ledger (ρ ε α : Type) extends Crowd (Watched ρ ε α) ε α where
  made : List (Scope × Work ρ (Except ε α))
  past : Journal Deed

namespace Ledger

variable {ρ ε α : Type}

/-- The marks of a call's operation, newest first. -/
def marks (l : Ledger ρ ε α) (i : Nat) : List (Mark ε α) := Journal.of i l.world.state.remote.2

/-- What a call did to the breaker, newest first. -/
def touches (l : Ledger ρ ε α) (i : Nat) : List Touch := ((Journal.of i l.past).map (·.touch)).filter (· ≠ .leaves)

/-- One step of a ledger. -/
inductive Step (l : Ledger ρ ε α) : Ledger ρ ε α → Prop
  /-- A further call is made. -/
  | joins (scope : Scope) (op : Work ρ (Except ε α)) : Step l { l with
      calls := l.calls ++ [throughBreaker scope (watched l.made.length op)], made := l.made ++ [(scope, op)] }
  /-- A call changes the world and goes on. -/
  | acts {i : Nat} {change : Instant → World (Watched ρ ε α) → World (Watched ρ ε α)}
      {next : Instant → World (Watched ρ ε α) → Remains ρ ε α} {touch : Touch} :
      l.calls[i]? = some (.act change next) → touch.Describes change l.now l.world → Step l { l with
      calls := l.calls.set i (next l.now l.world)
      world := change l.now l.world
      past := (i, ⟨touch, l.world.state.breaker, (change l.now l.world).state.breaker⟩) :: l.past }
  /-- A call has waited long enough. -/
  | wakes {i : Nat} {wake : Instant} {next : Remains ρ ε α} : l.calls[i]? = some (.wait wake next) → wake ≤ l.now →
      Step l { l with calls := l.calls.set i next }
  /-- A call waits for its turn at the breaker, and its scope ends before. -/
  | interrupts {i : Nat} {scope : Scope} {op : Work ρ (Except ε α)} {reason : EndReason}
      {change : Instant → World (Watched ρ ε α) → World (Watched ρ ε α)}
      {next : Instant → World (Watched ρ ε α) → Remains ρ ε α} :
      l.made[i]? = some (scope, op) → l.calls[i]? = some (.act change next) → l.touches i = [] →
      scope.reason? l.now = some reason → Step l { l with
      calls := l.calls.set i (.done (.error (.interrupted l.world.state.breaker.name reason))) }
  | passes {later : Instant} : l.now ≤ later → Step l { l with now := later }
  | sets (clock : BreakerClock) : Step l { l with world := Crowd.setClock clock l.world }
  | resets : Step l { l with world := l.world.reset }

/-- A ledger goes on as its crowd does, but that calls may be ended before their turn at the breaker. -/
theorem Step.crowd {l l' : Ledger ρ ε α} (h : Step l l') : Crowd.Step l.toCrowd l'.toCrowd ∨ ∃ i name reason,
    l'.toCrowd = { l.toCrowd with calls := l.calls.set i (.done (.error (.interrupted name reason))) } := by
  cases h with
  | joins scope op => exact .inl (.joins scope _)
  | acts hc _ => exact .inl (.acts hc)
  | wakes hc hw => exact .inl (.wakes hc hw)
  | interrupts _ _ _ _ => exact .inr ⟨_, _, _, rfl⟩
  | passes hle => exact .inl (.passes hle)
  | sets clock => exact .inl (.sets clock)
  | resets => exact .inl .resets

/-- The ledger of a world without calls. -/
def opening (w : World ρ) (now : Instant) : Ledger ρ ε α :=
  ⟨⟨[], now, ⟨w.samples, w.random, ⟨w.state.breaker, w.state.clock, w.state.remote, []⟩⟩⟩, [], []⟩

/-- A ledger that comes of a world without calls. -/
def Reachable (w : World ρ) (now : Instant) (l : Ledger ρ ε α) : Prop := Relation.ReflTransGen Step (opening w now) l

/-! ## Accounts -/

/-- The marks of an operation that was begun and has not completed. -/
def begunMarks (waits : List (Option Instant)) : List (Mark ε α) := waits.map .waits ++ [.begun]

/-- What a call has done when it has ended, by its result: the marks of its operation and its touches of the
breaker. -/
inductive Accounted (scope : Scope) (op : Work ρ (Except ε α)) (now : Instant) :
    List (Mark ε α) → List Touch → Except (BreakerFailure ε) α → Prop
  /-- The operation was begun once and completed once, its outcome was recorded once, and its result is the answer. -/
  | completed {result : Except ε α} (waits : List (Option Instant)) : op.LeadsTo (.done result) →
      Accounted scope op now (.completed result :: begunMarks waits) [.records result.isOk, .asks true]
        (result.mapError .operation)
  /-- The operation was not begun, and nothing was recorded. -/
  | rejected (name : String) : Accounted scope op now [] [.asks false] (.error (.rejected name))
  /-- The scope ended before the call had its turn at the breaker. -/
  | notAsked {at' : Instant} {reason : EndReason} (name : String) : at' ≤ now → scope.reason? at' = some reason →
      Accounted scope op now [] [] (.error (.interrupted name reason))
  /-- The scope ended while the operation waited for a later instant, and nothing was recorded. -/
  | inFlight {at' : Instant} {reason : EndReason} {wake : Option Instant} (name : String)
      (waits : List (Option Instant)) : at' ≤ now → scope.reason? at' = some reason → scope.EndsBefore wake →
      Accounted scope op now (begunMarks (wake :: waits)) [.asks true] (.error (.interrupted name reason))

/-- What is left of a call, by the marks of its operation and its touches of the breaker. -/
inductive Stands (i : Nat) (scope : Scope) (op : Work ρ (Except ε α)) (now : Instant) :
    List (Mark ε α) → List Touch → Remains ρ ε α → Prop
  | begins : Stands i scope op now [] [] (throughBreaker scope (watched i op))
  | asks (name : String) : Stands i scope op now [] [] (askBreaker name scope (watched i op))
  | enters (name : String) : Stands i scope op now [] [.asks true] (underWay name scope (watched i op))
  | works {left : Work ρ (Except ε α)} (name : String) (waits : List (Option Instant)) : op.LeadsTo left →
      Stands i scope op now (begunMarks waits) [.asks true] (underWay name scope (watchedFrom i left))
  | looks {left : Work ρ (Except ε α)} (name : String) (wake : Option Instant) (waits : List (Option Instant)) :
      op.LeadsTo left → Stands i scope op now (begunMarks (wake :: waits)) [.asks true]
        (underWay name scope (.waitFor wake (watchedFrom i left)))
  | sleeps {left : Work ρ (Except ε α)} {wake : Option Instant} (name : String) (waits : List (Option Instant)) :
      op.LeadsTo left → ¬ scope.EndsBefore wake →
      Stands i scope op now (begunMarks (wake :: waits)) [.asks true]
        (.waitFor wake (underWay name scope (watchedFrom i left)))
  | limited {stop : Instant} {wake : Option Instant} (name : String) (waits : List (Option Instant)) :
      scope.EndsBefore wake → scope.endsAt = some stop →
      Stands i scope op now (begunMarks (wake :: waits)) [.asks true] (.wait stop (cutShort name scope))
  | stopped {stop : Instant} {wake : Option Instant} (name : String) (waits : List (Option Instant)) :
      scope.EndsBefore wake → scope.endsAt = some stop → stop ≤ now →
      Stands i scope op now (begunMarks (wake :: waits)) [.asks true] (cutShort name scope)
  | completes {result : Except ε α} (waits : List (Option Instant)) : op.LeadsTo (.done result) →
      Stands i scope op now (.completed result :: begunMarks waits) [.asks true] (recording result)
  | ends {marks : List (Mark ε α)} {touches : List Touch} {result : Except (BreakerFailure ε) α} :
      Accounted scope op now marks touches result → Stands i scope op now marks touches (.done result)

variable {i : Nat} {scope : Scope} {op : Work ρ (Except ε α)} {now later : Instant} {marks : List (Mark ε α)}
  {touches : List Touch} {result : Except (BreakerFailure ε) α}

theorem Accounted.mono (h : Accounted scope op now marks touches result) (hle : now ≤ later) :
    Accounted scope op later marks touches result := by
  cases h with
  | completed waits hl => exact .completed waits hl
  | rejected name => exact .rejected name
  | notAsked name hat hr => exact .notAsked name (Nat.le_trans hat hle) hr
  | inFlight name waits hat hr hb => exact .inFlight name waits (Nat.le_trans hat hle) hr hb

theorem Stands.mono {work : Remains ρ ε α} (h : Stands i scope op now marks touches work) (hle : now ≤ later) :
    Stands i scope op later marks touches work := by
  cases h with
  | begins => exact .begins
  | asks name => exact .asks name
  | enters name => exact .enters name
  | works name waits hl => exact .works name waits hl
  | looks name wake waits hl => exact .looks name wake waits hl
  | sleeps name waits hl hb => exact .sleeps name waits hl hb
  | limited name waits hb hs => exact .limited name waits hb hs
  | stopped name waits hb hs hn => exact .stopped name waits hb hs (Nat.le_trans hn hle)
  | completes waits hl => exact .completes waits hl
  | ends ha => exact .ends (ha.mono hle)

/-- A call that looks at the present instant goes on working, goes on waiting, or is ended by its scope. -/
theorem stands_of_looks {name : String} {wake : Option Instant} {left : Work ρ (Except ε α)} {work : Remains ρ ε α}
    (hl : op.LeadsTo left) (h : Looks name scope wake (watchedFrom i left) now work) (waits : List (Option Instant)) :
    Stands i scope op now (begunMarks (wake :: waits)) [.asks true] work := by
  cases h with
  | goes _ _ => exact .works name (wake :: waits) hl
  | waits hb => exact .sleeps name waits hl hb
  | stops hb hr => exact .ends (.inFlight name waits (Nat.le_refl _) hr hb)
  | limits hb hs => exact .limited name waits hb hs

/-- The next change of a call: what it means to the breaker, what it writes down, and how the call stands behind it. -/
theorem Stands.act {change : Instant → World (Watched ρ ε α) → World (Watched ρ ε α)}
    {next : Instant → World (Watched ρ ε α) → Remains ρ ε α}
    (h : Stands i scope op now marks touches (.act change next)) (w : World (Watched ρ ε α)) :
    ∃ touch written, touch.Describes change now w ∧
      (change now w).state.remote.2 = written.map (i, ·) ++ w.state.remote.2 ∧
      Stands i scope op now (written ++ marks) ([touch].filter (· ≠ .leaves) ++ touches) (next now w) := by
  generalize hwork : Work.act change next = work at h
  cases h with
  | begins =>
    rw [throughBreaker_eq] at hwork
    cases hwork
    exact ⟨.leaves, [], fun _ _ => rfl, rfl, .asks _⟩
  | asks name =>
    unfold askBreaker at hwork
    cases hwork
    refine ⟨.asks (World.allow now w).1, [], ⟨rfl, rfl⟩, rfl, ?_⟩
    dsimp only
    cases ha : (World.allow now w).1 with
    | true => exact .enters name
    | false => exact .ends (.rejected name)
  | enters name =>
    cases hwork
    exact ⟨.leaves, [.begun], fun _ _ => rfl, rfl, .works name [] .refl⟩
  | @works left name waits hl =>
    cases left with
    | done result =>
      cases hwork
      refine ⟨.leaves, [.completed result], fun _ _ => rfl, rfl, ?_⟩
      have hstands : Stands i scope op now (.completed result :: begunMarks waits) [.asks true] (recording result) :=
        .completes waits hl
      rw [← underWay_done name scope result] at hstands
      exact hstands
    | act change' next' =>
      cases hwork
      exact ⟨.leaves, [], fun _ _ => rfl, rfl, .works name waits (hl.tail (.act change' next' now w.state.remote.1))⟩
    | wait wake next' =>
      cases hwork
      exact ⟨.leaves, [.waits (some wake)], fun _ _ => rfl, rfl, .looks name _ waits (hl.tail (.wait wake next'))⟩
    | never =>
      cases hwork
      exact ⟨.leaves, [.waits none], fun _ _ => rfl, rfl, .looks name none waits hl⟩
  | looks name wake waits hl =>
    obtain ⟨look, hlook, hlooks⟩ := underWay_waitFor name scope wake (watchedFrom i _)
    rw [hlook] at hwork
    cases hwork
    exact ⟨.leaves, [], fun _ _ => rfl, rfl, stands_of_looks hl (hlooks now w) waits⟩
  | @sleeps left wake name waits hl hb => cases wake <;> cases hwork
  | limited name waits hb hs => cases hwork
  | stopped name waits hb hs hn =>
    cases hwork
    obtain ⟨reason, hr⟩ := Option.isSome_iff_exists.1 (Scope.reason?_isSome_iff.2 ⟨_, hs, hn⟩)
    refine ⟨.leaves, [], fun _ _ => rfl, rfl, .ends ?_⟩
    rw [hr]
    exact .inFlight name waits (Nat.le_refl _) hr hb
  | completes waits hl =>
    cases hwork
    exact ⟨.records _, [], rfl, rfl, .ends (.completed waits hl)⟩
  | ends ha => cases hwork

theorem Stands.wake {wake : Instant} {next : Remains ρ ε α}
    (h : Stands i scope op now marks touches (.wait wake next)) (hw : wake ≤ now) :
    Stands i scope op now marks touches next := by
  generalize hwork : Work.wait wake next = work at h
  cases h with
  | @sleeps left due name waits hl hb =>
    cases due with
    | none => cases hwork
    | some due => cases hwork; exact .works name (some wake :: waits) hl
  | limited name waits hb hs => cases hwork; exact .stopped name waits hb hs hw
  | begins => rw [throughBreaker_eq] at hwork; cases hwork
  | asks name => unfold askBreaker at hwork; cases hwork
  | enters name => cases hwork
  | @works left name waits hl => cases left <;> cases hwork
  | looks name due waits hl =>
    obtain ⟨look, hlook, -⟩ := underWay_waitFor name scope due (watchedFrom i _)
    rw [hlook] at hwork
    cases hwork
  | stopped name waits hb hs hn => cases hwork
  | completes waits hl => cases hwork
  | ends ha => cases hwork

/-- A call that has not asked the breaker yet has not begun its operation. -/
theorem Stands.marks_eq_nil {change : Instant → World (Watched ρ ε α) → World (Watched ρ ε α)}
    {next : Instant → World (Watched ρ ε α) → Remains ρ ε α}
    (h : Stands i scope op now marks [] (.act change next)) : marks = [] := by
  generalize ht : ([] : List Touch) = touches at h
  generalize hwork : Work.act change next = work at h
  cases h with
  | begins | asks _ => rfl
  | ends _ => cases hwork
  | enters _ | works _ _ _ | looks _ _ _ _ | sleeps _ _ _ _ | limited _ _ _ _ | stopped _ _ _ _ _ | completes _ _ =>
    cases ht

/-! ## Ledgers that are kept -/

/-- Every call stands as its marks and touches say, and every change did to the breaker what it may do. -/
structure Kept (l : Ledger ρ ε α) : Prop where
  length : l.made.length = l.calls.length
  stands : ∀ i scope op work, l.made[i]? = some (scope, op) → l.calls[i]? = some work →
    Stands i scope op l.now (l.marks i) (l.touches i) work
  ahead : ∀ i, l.calls.length ≤ i → l.marks i = [] ∧ l.touches i = []
  lawful : ∀ i d, (i, d) ∈ l.past → d.Lawful

variable {l l' : Ledger ρ ε α}

theorem Kept.exists_made (h : Kept l) (hi : i < l.calls.length) : ∃ scope op, l.made[i]? = some (scope, op) := by
  rw [← h.length] at hi
  exact ⟨_, _, List.getElem?_eq_getElem hi⟩

/-- One call goes on, and the other calls are left alone. -/
theorem Kept.set {work : Remains ρ ε α} {world : World (Watched ρ ε α)} {past : Journal Deed}
    (h : Kept l) (hi : i < l.calls.length)
    (hl : l' = { l with calls := l.calls.set i work, world := world, past := past })
    (hothers : ∀ j, j ≠ i → l'.marks j = l.marks j ∧ l'.touches j = l.touches j)
    (hstands : ∀ scope op, l.made[i]? = some (scope, op) → Stands i scope op l.now (l'.marks i) (l'.touches i) work)
    (hlawful : ∀ j d, (j, d) ∈ past → d.Lawful) : Kept l' := by
  have hcalls : l'.calls = l.calls.set i work := by rw [hl]
  have hmade : l'.made = l.made := by rw [hl]
  have hnow : l'.now = l.now := by rw [hl]
  refine ⟨by rw [hcalls, hmade, List.length_set]; exact h.length, fun j scope op v hm hc => ?_, fun j hj => ?_,
    by rw [hl]; exact hlawful⟩
  · rw [hmade] at hm
    rw [hcalls, List.getElem?_set] at hc
    rw [hnow]
    by_cases hj : i = j
    · subst hj
      rw [if_pos rfl, if_pos hi] at hc
      cases hc
      exact hstands scope op hm
    · rw [if_neg hj] at hc
      obtain ⟨hmarks, htouches⟩ := hothers j (Ne.symm hj)
      rw [hmarks, htouches]
      exact h.stands j scope op v hm hc
  · rw [hcalls, List.length_set] at hj
    obtain ⟨hmarks, htouches⟩ := hothers j (by omega)
    rw [hmarks, htouches]
    exact h.ahead j hj

theorem Step.kept (hs : Step l l') (h : Kept l) : Kept l' := by
  cases hs with
  | joins scope op =>
    refine ⟨?_, fun i scope' op' work hm hc => ?_, fun i hi => ?_, h.lawful⟩
    · rw [List.length_append, List.length_append, h.length]; rfl
    · rw [List.getElem?_append] at hm hc
      rw [h.length] at hm
      by_cases hlt : i < l.calls.length
      · rw [if_pos hlt] at hm hc
        exact h.stands i scope' op' work hm hc
      · -- the new call is the last one, and nothing is known of it yet
        rw [if_neg hlt] at hm hc
        obtain ⟨hmarks, htouches⟩ := h.ahead i (Nat.le_of_not_lt hlt)
        have hw := List.mem_singleton.1 (List.mem_of_getElem? hc)
        have hp := List.mem_singleton.1 (List.mem_of_getElem? hm)
        have hlast : i = l.made.length := by
          have := (List.getElem?_eq_some_iff.1 hc).1
          simp only [List.length_singleton] at this
          rw [h.length]; omega
        cases hp
        show Stands i scope op l.now (l.marks i) (l.touches i) work
        rw [hmarks, htouches, hw, ← hlast]
        exact .begins
    · rw [List.length_append] at hi
      exact h.ahead i (Nat.le_trans (Nat.le_add_right ..) hi)
  | @acts i change next touch hc hd =>
    have hi : i < l.calls.length := (List.getElem?_eq_some_iff.1 hc).1
    obtain ⟨scope, op, hm⟩ := h.exists_made hi
    obtain ⟨touch', written, hd', hjournal, hstands⟩ := (h.stands i scope op _ hm hc).act l.world
    obtain rfl := hd.unique hd'
    refine h.set hi rfl (fun j hj => ⟨?_, ?_⟩) (fun scope' op' hm' => ?_) fun j d hin => ?_
    · unfold Ledger.marks
      rw [hjournal, Journal.of_append_map_ne (Ne.symm hj)]
    · unfold Ledger.touches
      rw [Journal.of_cons_ne (Ne.symm hj)]
    · obtain ⟨rfl, rfl⟩ := Prod.mk.inj (Option.some.inj (hm.symm.trans hm'))
      unfold Ledger.marks Ledger.touches
      rw [hjournal, Journal.of_append_map_self, Journal.of_cons_self, List.map_cons, ← List.singleton_append,
        List.filter_append]
      exact hstands
    · rcases List.mem_cons.1 hin with he | hin
      · cases he; exact hd.lawful
      · exact h.lawful j d hin
  | @wakes i wake next hc hw =>
    have hi : i < l.calls.length := (List.getElem?_eq_some_iff.1 hc).1
    exact h.set hi rfl (fun _ _ => ⟨rfl, rfl⟩) (fun scope op hm => (h.stands i scope op _ hm hc).wake hw) h.lawful
  | @interrupts i scope op reason change next hm hc ht hr =>
    have hi : i < l.calls.length := (List.getElem?_eq_some_iff.1 hc).1
    refine h.set hi rfl (fun _ _ => ⟨rfl, rfl⟩) (fun scope' op' hm' => ?_) h.lawful
    obtain ⟨rfl, rfl⟩ := Prod.mk.inj (Option.some.inj (hm.symm.trans hm'))
    have hstands := h.stands i scope op _ hm hc
    show Stands i scope op l.now (l.marks i) (l.touches i) _
    rw [ht] at hstands ⊢
    rw [hstands.marks_eq_nil]
    exact .ends (.notAsked _ (Nat.le_refl _) hr)
  | passes hle =>
    exact ⟨h.length, fun i scope op work hm hc => (h.stands i scope op work hm hc).mono hle, h.ahead, h.lawful⟩
  | sets clock => exact ⟨h.length, h.stands, h.ahead, h.lawful⟩
  | resets => exact ⟨h.length, h.stands, h.ahead, h.lawful⟩

theorem kept_opening (w : World ρ) (now : Instant) : Kept (opening w now : Ledger ρ ε α) where
  length := rfl
  stands _ _ _ _ hm _ := by cases hm
  ahead _ _ := ⟨rfl, rfl⟩
  lawful _ _ hd := by cases hd

theorem Reachable.kept {w : World ρ} {start : Instant} (h : Reachable w start l) : Kept l := by
  induction h with
  | refl => exact kept_opening w start
  | tail _ hs ih => exact hs.kept ih

/-! ## Shapes of calls -/

@[simp] theorem filterMap_begunMarks (waits : List (Option Instant)) :
    (begunMarks waits : List (Mark ε α)).filterMap Mark.result? = [] := by
  induction waits with
  | nil => rfl
  | cons wake waits ih => exact ih

/-- What a call is about to do, by its marks and touches. -/
inductive Shape (scope : Scope) (op : Work ρ (Except ε α)) (now : Instant) :
    List (Mark ε α) → List Touch → Remains ρ ε α → Prop
  | ended {marks : List (Mark ε α)} {touches : List Touch} {result : Except (BreakerFailure ε) α} :
      Accounted scope op now marks touches result → Shape scope op now marks touches (.done result)
  | records {result : Except ε α} (waits : List (Option Instant)) : op.LeadsTo (.done result) →
      Shape scope op now (.completed result :: begunMarks waits) [.asks true]
        (.act (World.record result.isOk) fun _ _ => .done (result.mapError .operation))
  | acts {marks : List (Mark ε α)} {touches : List Touch}
      {change : Instant → World (Watched ρ ε α) → World (Watched ρ ε α)}
      {next : Instant → World (Watched ρ ε α) → Remains ρ ε α} :
      marks.filterMap Mark.result? = [] → touches.filterMap Touch.outcome? = [] →
      Shape scope op now marks touches (.act change next)
  | waits {marks : List (Mark ε α)} {touches : List Touch} {wake : Instant} {next : Remains ρ ε α} :
      marks.filterMap Mark.result? = [] → touches.filterMap Touch.outcome? = [] →
      Shape scope op now marks touches (.wait wake next)
  | parked (waits : List (Option Instant)) : scope.endsAt = none →
      Shape scope op now (begunMarks (none :: waits)) [.asks true] .never

theorem Stands.shape {work : Remains ρ ε α} (h : Stands i scope op now marks touches work) :
    Shape scope op now marks touches work := by
  cases h with
  | begins => exact .acts rfl rfl
  | asks name => exact .acts rfl rfl
  | enters name => exact .acts rfl rfl
  | @works left name waits hl => cases left <;> exact .acts (filterMap_begunMarks waits) rfl
  | looks name wake waits hl =>
    obtain ⟨look, hlook, -⟩ := underWay_waitFor name scope wake (watchedFrom i _)
    rw [hlook]
    exact .acts (filterMap_begunMarks (wake :: waits)) rfl
  | @sleeps left wake name waits hl hb =>
    cases wake with
    | some wake => exact .waits (filterMap_begunMarks (some wake :: waits)) rfl
    | none =>
      refine .parked waits ?_
      cases hs : scope.endsAt with
      | none => rfl
      | some stop => exact absurd ⟨stop, hs, nofun⟩ hb
  | @limited stop wake name waits _ _ => exact .waits (filterMap_begunMarks (wake :: waits)) rfl
  | @stopped stop wake name waits _ _ _ => exact .acts (filterMap_begunMarks (wake :: waits)) rfl
  | completes waits hl => exact .records waits hl
  | ends ha => exact .ended ha

/-! ## Totals -/

/-- The result of its operation that a call returned. -/
def returned? : Remains ρ ε α → Option (Except ε α)
  | .done (.ok value) => some (.ok value)
  | .done (.error (.operation e)) => some (.error e)
  | _ => none

theorem returned?_done (result : Except ε α) :
    returned? (.done (result.mapError .operation) : Remains ρ ε α) = some result := by
  cases result <;> rfl

/-- The outcomes that were recorded, with their calls. -/
def recorded (l : Ledger ρ ε α) : Journal Bool := Journal.pick (·.touch.outcome?) l.past

/-- The results of the operations that completed, with their calls. -/
def completed (l : Ledger ρ ε α) : Journal (Except ε α) := Journal.pick Mark.result? l.world.state.remote.2

/-- The results of their operations that calls returned. -/
def returned (l : Ledger ρ ε α) : Journal (Except ε α) := Journal.pick returned? (l.calls.zipIdx.map Prod.swap)

/-- A call that has ended, or that waits for ever. -/
def Over (work : Remains ρ ε α) : Prop := (∃ result, work = .done result) ∨ work = .never

theorem of_returned (l : Ledger ρ ε α) (i : Nat) :
    Journal.of i l.returned = (l.calls[i]?.bind returned?).toList := by
  unfold returned
  rw [Journal.of_pick, Journal.of_zipIdx, if_neg (Nat.not_lt_zero i), Nat.sub_zero]
  cases l.calls[i]? with
  | none => rfl
  | some work => cases hr : returned? work <;> simp [hr]

theorem of_recorded (l : Ledger ρ ε α) (i : Nat) :
    Journal.of i l.recorded = (l.touches i).filterMap Touch.outcome? := by
  unfold recorded touches
  rw [Journal.of_pick, List.filterMap_filter, List.filterMap_map]
  refine congrArg (List.filterMap · _) (funext fun d => ?_)
  show d.touch.outcome? = if decide (d.touch ≠ .leaves) = true then d.touch.outcome? else none
  cases d.touch <;> rfl

variable {work : Remains ρ ε α}

theorem Shape.outcomes (h : Shape scope op now marks touches work) :
    touches.filterMap Touch.outcome? = ((returned? work).map Except.isOk).toList := by
  cases h with
  | ended ha =>
    cases ha with
    | completed waits hl => rw [returned?_done]; rfl
    | rejected _ | notAsked _ _ _ | inFlight _ _ _ _ _ => rfl
  | records waits hl => rfl
  | acts _ ht => exact ht
  | waits _ ht => exact ht
  | parked waits hs => rfl

theorem Shape.results (h : Shape scope op now marks touches work) (ho : Over work) :
    marks.filterMap Mark.result? = (returned? work).toList := by
  cases h with
  | ended ha =>
    cases ha with
    | completed waits hl =>
      rw [returned?_done, List.filterMap_cons]
      simp [Mark.result?]
    | rejected _ | notAsked _ _ _ => rfl
    | inFlight _ waits _ _ _ => exact filterMap_begunMarks _
  | parked waits hs => exact filterMap_begunMarks _
  | records _ _ | acts _ _ | waits _ _ => rcases ho with ⟨_, ho⟩ | ho <;> cases ho

/-- Every call has the shape that its marks and touches tell. -/
theorem Kept.shape (h : Kept l) (hc : l.calls[i]? = some work) :
    ∃ scope op, l.made[i]? = some (scope, op) ∧ Shape scope op l.now (l.marks i) (l.touches i) work := by
  obtain ⟨scope, op, hm⟩ := h.exists_made (List.getElem?_eq_some_iff.1 hc).1
  exact ⟨scope, op, hm, (h.stands i scope op work hm hc).shape⟩

theorem Kept.recorded_perm (h : Kept l) : l.recorded.Perm (l.returned.map fun e => (e.1, e.2.isOk)) := by
  refine Journal.perm_of_forall_of fun i => .of_eq ?_
  rw [Journal.of_map, of_returned, of_recorded]
  cases hc : l.calls[i]? with
  | none => rw [(h.ahead i (List.getElem?_eq_none_iff.1 hc)).2]; rfl
  | some work =>
    obtain ⟨scope, op, -, hs⟩ := h.shape hc
    rw [hs.outcomes, Option.bind_some]
    cases returned? work <;> rfl

theorem Kept.completed_perm (h : Kept l) (ho : ∀ work ∈ l.calls, Over work) : l.completed.Perm l.returned := by
  refine Journal.perm_of_forall_of fun i => .of_eq ?_
  rw [of_returned, completed, Journal.of_pick]
  show (l.marks i).filterMap Mark.result? = _
  cases hc : l.calls[i]? with
  | none => rw [(h.ahead i (List.getElem?_eq_none_iff.1 hc)).1]; rfl
  | some work =>
    obtain ⟨scope, op, -, hs⟩ := h.shape hc
    rw [hs.results (ho work (List.mem_of_getElem? hc)), Option.bind_some]

/-! ## Progress -/

/-- A call that has ended stays as it is. -/
theorem Step.getElem?_done (h : Step l l') (hc : l.calls[i]? = some (.done result)) :
    l'.calls[i]? = some (.done result) := by
  have hset : ∀ {j : Nat} {v work : Remains ρ ε α},
      l.calls[j]? = some v → v ≠ .done result → (l.calls.set j work)[i]? = some (.done result) := by
    intro j v work hv hne
    have hj : j ≠ i := by
      rintro rfl
      rw [hc] at hv
      exact hne (Option.some.inj hv).symm
    rw [List.getElem?_set_ne hj, hc]
  cases h with
  | joins scope op =>
    exact (List.getElem?_append_left (List.getElem?_eq_some_iff.1 hc).1).trans hc
  | acts hv _ => exact hset hv nofun
  | wakes hv _ => exact hset hv nofun
  | interrupts _ hv _ _ => exact hset hv nofun
  | passes _ | sets _ | resets => exact hc

/-- The calls can go on until each of them has ended or waits for ever. -/
theorem Kept.exists_over (h : Kept l) :
    ∃ l', Relation.ReflTransGen Step l l' ∧ l'.made = l.made ∧ ∀ work ∈ l'.calls, Over work := by
  induction hcalls : l.calls using (ShrinksAt.wf Work.Follows.wf).induction generalizing l with
  | _ calls ih =>
    subst hcalls
    by_cases ho : ∀ work ∈ l.calls, Over work
    · exact ⟨l, .refl, rfl, ho⟩
    · obtain ⟨work, hin, hwork⟩ : ∃ work ∈ l.calls, ¬ Over work := by simpa using ho
      obtain ⟨i, hi⟩ := List.getElem?_of_mem hin
      cases work with
      | done result => exact absurd (.inl ⟨result, rfl⟩) hwork
      | never => exact absurd (.inr rfl) hwork
      | act change next =>
        obtain ⟨scope, op, hm⟩ := h.exists_made (List.getElem?_eq_some_iff.1 hi).1
        obtain ⟨touch, _, hd, -⟩ := (h.stands i scope op _ hm hi).act l.world
        have hs : Step l _ := .acts hi hd
        obtain ⟨l', hl', hmade, ho'⟩ := ih _ (ShrinksAt.set hi (.act change next l.now l.world)) (hs.kept h) rfl
        exact ⟨l', .head hs hl', hmade, ho'⟩
      | wait wake next =>
        have hp : Step l { l with now := max l.now wake } := .passes (Nat.le_max_left ..)
        have hs : Step { l with now := max l.now wake } _ := .wakes hi (Nat.le_max_right ..)
        obtain ⟨l', hl', hmade, ho'⟩ := ih _ (ShrinksAt.set hi (.wait wake next)) (hs.kept (hp.kept h)) rfl
        exact ⟨l', .head hp (.head hs hl'), hmade, ho'⟩

/-! ## The account -/

theorem Shape.accounted (h : Shape scope op now marks touches (.done result : Remains ρ ε α)) :
    Accounted scope op now marks touches result := by
  cases h with
  | ended ha => exact ha

theorem Shape.finishes {value : Except ε α} (h : Shape scope op now marks touches work)
    (hin : .completed value ∈ marks) : work = recording value ∨ work = .done (value.mapError .operation) := by
  have hunique : ∀ {waits : List (Option Instant)} {value' : Except ε α},
      .completed value ∈ Mark.completed value' :: begunMarks waits → value = value' := by
    intro waits value' hin
    rcases List.mem_cons.1 hin with he | hin
    · cases he; rfl
    · simp [begunMarks] at hin
  have hnone : marks.filterMap Mark.result? ≠ [] := List.ne_nil_of_mem (List.mem_filterMap.2 ⟨_, hin, rfl⟩)
  cases h with
  | records waits value' => obtain rfl := hunique hin; exact .inl rfl
  | acts hm _ | waits hm _ => exact absurd hm hnone
  | parked waits _ => exact absurd (filterMap_begunMarks _) hnone
  | ended ha =>
    cases ha with
    | completed waits value' => obtain rfl := hunique hin; exact .inr rfl
    | rejected _ | notAsked _ _ _ => cases hin
    | inFlight _ waits _ _ _ => exact absurd (filterMap_begunMarks _) hnone

theorem Shape.goesOn (h : Shape scope op now marks touches work) (hne : ∀ result, work ≠ .done result) :
    (∃ change next, work = .act change next) ∨ (∃ wake next, work = .wait wake next) ∨
    (work = .never ∧ scope.endsAt = none ∧ ∃ waits, marks = begunMarks (none :: waits)) := by
  cases h with
  | ended _ => exact absurd rfl (hne _)
  | records _ _ | acts _ _ => exact .inl ⟨_, _, rfl⟩
  | waits _ _ => exact .inr (.inl ⟨_, _, rfl⟩)
  | parked waits hs => exact .inr (.inr ⟨rfl, hs, waits, rfl⟩)

theorem Accounted.touches_of_rejected {name : String}
    (h : Accounted scope op now marks touches (.error (.rejected name))) : touches = [.asks false] := by
  generalize hr : (Except.error (BreakerFailure.rejected name) : Except (BreakerFailure ε) α) = result at h
  cases h with
  | @completed value _ _ => cases value <;> cases hr
  | rejected _ => rfl
  | notAsked _ _ _ | inFlight _ _ _ _ _ => cases hr

theorem Accounted.touches_of_interrupted {name : String} {reason : EndReason} {touch : Touch}
    (h : Accounted scope op now marks touches (.error (.interrupted name reason)))
    (hin : touch ∈ touches) : touch = .asks true := by
  generalize hr : (Except.error (BreakerFailure.interrupted name reason) : Except (BreakerFailure ε) α) = result at h
  cases h with
  | @completed value _ _ => cases value <;> cases hr
  | rejected _ => cases hr
  | notAsked _ _ _ => cases hin
  | inFlight _ _ _ _ _ => exact List.mem_singleton.1 hin

/-- What a ledger says of its calls. -/
structure Balanced (l : Ledger ρ ε α) : Prop where
  /-- A call that has ended did what its result tells, -/
  ended : ∀ i scope op result, l.made[i]? = some (scope, op) → l.calls[i]? = some (.done result) →
    Accounted scope op l.now (l.marks i) (l.touches i) result
  /-- and goes on having ended. -/
  stays : ∀ (i : Nat) result l', Step l l' → l.calls[i]? = some (.done result) → l'.calls[i]? = some (.done result)
  /-- One that was rejected did nothing to the breaker. -/
  rejected : ∀ i name, l.calls[i]? = some (.done (.error (.rejected name))) →
    ∀ d ∈ Journal.of i l.past, d.after = d.before
  /-- One that its scope ended made the breaker half open by asking it, or did nothing to it. -/
  interrupted : ∀ i name reason, l.calls[i]? = some (.done (.error (.interrupted name reason))) →
    ∀ d ∈ Journal.of i l.past, d.after = d.before ∨ (d.touch = .asks true ∧ d.Probes)
  /-- Once its operation has completed, all that a call does is to record the outcome and to return the result. -/
  finishes : ∀ i result, .completed result ∈ l.marks i →
    l.calls[i]? = some (recording result) ∨ l.calls[i]? = some (.done (result.mapError .operation))
  /-- A call that has not ended changes the world or waits for an instant. If it waits for ever, so does its operation,
  and its scope does not end. -/
  goesOn : ∀ i scope op work, l.made[i]? = some (scope, op) → l.calls[i]? = some work →
    (∀ result, work ≠ .done result) →
    (∃ change next, work = .act change next) ∨ (∃ wake next, work = .wait wake next) ∨
    (work = .never ∧ scope.endsAt = none ∧ ∃ waits, l.marks i = begunMarks (none :: waits))
  /-- The calls can go on until each of them has ended or waits for ever. -/
  settles : ∃ l', Relation.ReflTransGen Step l l' ∧ l'.made = l.made ∧ ∀ work ∈ l'.calls, Over work
  /-- The recorded outcomes are those of the calls that returned the result of their operation, -/
  recorded : l.recorded.Perm (l.returned.map fun e => (e.1, e.2.isOk))
  /-- and so are the operations that completed, once no call goes on. -/
  completed : (∀ work ∈ l.calls, Over work) → l.completed.Perm l.returned

/-- A change of a call left the breaker alone or is one of its touches. -/
theorem touch_of_mem {d : Deed} (hd : d ∈ Journal.of i l.past) : d.touch = .leaves ∨ d.touch ∈ l.touches i := by
  by_cases hl : d.touch = .leaves
  · exact .inl hl
  · exact .inr (List.mem_filter.2 ⟨List.mem_map.2 ⟨d, hd, rfl⟩, decide_eq_true hl⟩)

/-- Whatever calls go through a breaker, in whatever order, and whenever their scopes end, their ledger is balanced. -/
theorem calls_balance {w : World ρ} {start : Instant} (h : Reachable w start l) : Balanced l := by
  have hk := h.kept
  have haccounted : ∀ i scope op result, l.made[i]? = some (scope, op) → l.calls[i]? = some (.done result) →
      Accounted scope op l.now (l.marks i) (l.touches i) result :=
    fun i scope op result hm hc => (hk.stands i scope op _ hm hc).shape.accounted
  refine ⟨haccounted, fun i result l' hs => hs.getElem?_done, fun i name hc d hd => ?_,
    fun i name reason hc d hd => ?_, fun i result hin => ?_,
    fun i scope op work hm hc => (hk.stands i scope op work hm hc).shape.goesOn, hk.exists_over, hk.recorded_perm,
    hk.completed_perm⟩
  · obtain ⟨scope, op, -, hs⟩ := hk.shape hc
    have hlawful := hk.lawful i d (Journal.mem_of.1 hd)
    rcases touch_of_mem hd with ht | ht
    · unfold Deed.Lawful at hlawful; rw [ht] at hlawful; exact hlawful
    · rw [hs.accounted.touches_of_rejected, List.mem_singleton] at ht
      unfold Deed.Lawful at hlawful; rw [ht] at hlawful; exact hlawful
  · obtain ⟨scope, op, -, hs⟩ := hk.shape hc
    have hlawful := hk.lawful i d (Journal.mem_of.1 hd)
    rcases touch_of_mem hd with ht | ht
    · unfold Deed.Lawful at hlawful; rw [ht] at hlawful; exact .inl hlawful
    · have ht := hs.accounted.touches_of_interrupted ht
      unfold Deed.Lawful at hlawful; rw [ht] at hlawful
      exact hlawful.imp_right fun hp => ⟨ht, hp⟩
  · cases hc : l.calls[i]? with
    | none => rw [(hk.ahead i (List.getElem?_eq_none_iff.1 hc)).1] at hin; cases hin
    | some work =>
      obtain ⟨scope, op, -, hs⟩ := hk.shape hc
      exact (hs.finishes hin).imp (congrArg some) (congrArg some)

/-- An operation that ends after five nanoseconds. -/
def brief : Work Unit (Except String Unit) := .wait 5 (.done (.ok ()))

/-- An operation that ends when its scope does has completed, and its outcome is recorded though the scope has ended by
then. -/
theorem tie_recorded : ∃ l : Ledger Unit String Unit, Reachable Crowd.touchyWorld 0 l ∧ l.now = 9 ∧
    l.made = [(⟨none, some 5⟩, brief)] ∧ l.calls = [.done (.ok ())] ∧ l.recorded = [(0, true)] ∧
    l.completed.Perm l.returned := by
  obtain ⟨l, h, hnow, hmade, hcalls, hrecorded⟩ : ∃ l : Ledger Unit String Unit, Reachable Crowd.touchyWorld 0 l ∧
      l.now = 9 ∧ l.made = [(⟨none, some 5⟩, brief)] ∧ l.calls = [.done (.ok ())] ∧ l.recorded = [(0, true)] := by
    have empty : Reachable Crowd.touchyWorld 0 (opening Crowd.touchyWorld 0 : Ledger Unit String Unit) := .refl
    have joined := empty.tail (.joins ⟨none, some 5⟩ brief)
    have asking := joined.tail (@Step.acts _ _ _ _ 0 _ _ .leaves rfl fun _ _ => rfl)
    have admitted := asking.tail (@Step.acts _ _ _ _ 0 _ _ (.asks true) rfl ⟨rfl, rfl⟩)
    have begun := admitted.tail (@Step.acts _ _ _ _ 0 _ _ .leaves rfl fun _ _ => rfl)
    have looking := begun.tail (@Step.acts _ _ _ _ 0 _ _ .leaves rfl fun _ _ => rfl)
    have waiting := looking.tail (@Step.acts _ _ _ _ 0 _ _ .leaves rfl fun _ _ => rfl)
    have due := waiting.tail (@Step.passes _ _ _ _ 5 (by decide))
    have woken := due.tail (@Step.wakes _ _ _ _ 0 _ _ rfl (by decide))
    have completed := woken.tail (@Step.acts _ _ _ _ 0 _ _ .leaves rfl fun _ _ => rfl)
    have late := completed.tail (@Step.passes _ _ _ _ 9 (by decide))
    exact ⟨_, late.tail (@Step.acts _ _ _ _ 0 _ _ (.records true) rfl rfl), rfl, rfl, rfl, rfl⟩
  refine ⟨l, h, hnow, hmade, hcalls, hrecorded, (calls_balance h).completed fun work hin => ?_⟩
  rw [hcalls, List.mem_singleton] at hin
  exact .inl ⟨_, hin⟩

end Ledger
end MailReconciler
