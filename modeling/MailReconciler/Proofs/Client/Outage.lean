/-
Guarded calls of a dependency that is down. Every attempt of such a call fails with an error worth another, so the
retries count attempts while the breaker counts failures, and the call ends where the first of the two counts is full:
with the last attempt, or at the breaker that has opened before it. Others may do what they like to the remote state
meanwhile, and may move the breaker's clock. Its operations write down what they do, and the journal is the view through
which the call is followed.
-/
import MailReconciler.Proofs.Breaker.Watch
import MailReconciler.Proofs.Client.Failing

namespace MailReconciler

/-! ## What others do -/

section Outage

variable {ρ α : Type}

/-- The world of a call whose operations write down what they do. -/
abbrev NotedWorld (ρ α : Type) := World (Watched ρ ApiFailure α)

/-- The attempts whose operation was begun, the latest first. -/
def reached (w : NotedWorld ρ α) : List Nat :=
  w.state.remote.2.filterMap fun
    | (attempt, .begun) => some attempt
    | _ => none

/-- What the operations came to that ended, with their attempts, the latest first. -/
def outcomes (w : NotedWorld ρ α) : Journal (Except ApiFailure α) := Journal.pick Mark.result? w.state.remote.2

/-- What others may do beside a call that has the breaker to itself: they leave the breaker and the journal of the
call alone, and while the breaker is open they do not let its clock run on by more than the quiet time. -/
structure Aside (now : Instant) (w w' : NotedWorld ρ α) : Prop where
  breaker : w'.state.breaker = w.state.breaker
  journal : w'.state.remote.2 = w.state.remote.2
  clock : w.state.breaker.mode = .opened → ∀ last, w.state.breaker.lastFailure = some last →
    w'.read now ≤ last + w.state.breaker.settings.resetTimeout.nanos

variable {policy : Policy} {scope : Scope} {operation : String} {op : Nat → Work ρ (Except ApiFailure α)}
  {attempt spare left : Nat} {now : Instant} {w w₁ w' : NotedWorld ρ α}

/-! ## What is written down -/

/-- What the journal of a call tells: the attempts that have begun, and what they came to. -/
def noted (s : Watched ρ ApiFailure α) : List Nat × Journal (Except ApiFailure α) :=
  (s.2.filterMap fun
    | (attempt, .begun) => some attempt
    | _ => none, Journal.pick Mark.result? s.2)

/-- What is written down of an attempt that fails. -/
def noteError (attempt : Nat) (e : ApiFailure) (notes : List Nat × Journal (Except ApiFailure α)) :
    List Nat × Journal (Except ApiFailure α) :=
  (attempt :: notes.1, (attempt, .error e) :: notes.2)

theorem noted_remote (w : NotedWorld ρ α) : noted w.state.remote = (reached w, outcomes w) := rfl

theorem Aside.beside (h : Aside now w w') : Beside noted (fun _ => True) now w w' := by
  refine ⟨h.breaker, ⟨?_, trivial⟩, h.clock⟩
  unfold noted
  rw [h.journal]

/-- What is left of an operation under way writes its outcome down. -/
theorem endsAmid_watchedFrom (attempt : Nat) {post : Except ApiFailure α → Instant → Prop} :
    ∀ (work : Work ρ (Except ApiFailure α)) (now : Instant) (s : Watched ρ ApiFailure α), work.Ends post now →
      (watchedFrom attempt work).EndsAmid (fun _ => Aloof noted fun _ => True) (fun outcome t s' => post outcome t ∧
        noted s' = ((noted s).1, (attempt, outcome) :: (noted s).2)) now s
  | .done outcome, _, s, h => by
    intro s₁ h₁
    rw [← h₁.seen]
    exact ⟨h, rfl⟩
  | .act change next, now, s, h => by
    intro s₁ h₁
    rw [← h₁.seen]
    exact endsAmid_watchedFrom attempt (next now s₁.1) now (change now s₁.1, s₁.2) (h s₁.1)
  | .wait wake next, now, s, h => by
    intro s₁ h₁
    rw [← h₁.seen]
    -- that it waits is written down too, but not told
    exact endsAmid_watchedFrom attempt next (max now wake) (s₁.write attempt (.waits (some wake))) h
  | .never, _, _, h => h.elim

theorem failsEach_watched
    (hop : ∀ k t, (op k).Ends (fun outcome _ => ∃ e, outcome = .error e ∧ policy.retries e = true) t) :
    FailsEach policy noted (fun _ => True) noteError fun k => watched k (op k) := by
  intro k now s s₁ h₁
  refine (endsAmid_watchedFrom k (op k) now _ (hop k now)).mono ?_
  rintro _ _ s' ⟨⟨e, rfl, he⟩, hs'⟩
  refine ⟨e, rfl, he, ?_⟩
  rw [hs', ← h₁.seen]
  rfl

/-! ## Whole calls -/

/-- How a call ends that comes to an attempt with some further attempts to spare, at a breaker that bears some
failures. -/
structure Spent (operation : String) (spare attempt left : Nat) (w : NotedWorld ρ α) (run : CallRun α)
    (w' : NotedWorld ρ α) : Prop where
  reached : reached w' = (List.range' attempt (min (spare + 1) left)).reverse ++ reached w
  exhausted : spare < left → ∃ e, run = ⟨attempt + spare, .error (.exhausted operation (attempt + spare) e)⟩ ∧
    (outcomes w').head? = some (attempt + spare, .error e)
  rejected : left ≤ spare → run = ⟨attempt + left, .error (.rejected operation w.state.breaker.name)⟩
  opened : w'.state.breaker.mode = .opened ↔ left ≤ spare + 1

theorem afterErrors_noteError_fst (errors : List ApiFailure) (attempt : Nat)
    (notes : List Nat × Journal (Except ApiFailure α)) :
    (afterErrors noteError attempt errors notes).1 = (List.range' attempt errors.length).reverse ++ notes.1 := by
  induction errors generalizing attempt notes with
  | nil => rfl
  | cons e errors ih =>
    rw [afterErrors, ih, List.length_cons, List.range'_succ, List.reverse_cons, List.append_assoc]
    rfl

theorem head?_afterErrors_noteError {n : Nat} {last : ApiFailure} (errors : List ApiFailure) (attempt : Nat)
    (notes : List Nat × Journal (Except ApiFailure α)) (hlength : errors.length = n + 1)
    (hlast : errors.getLast? = some last) :
    (afterErrors noteError attempt errors notes).2.head? = some (attempt + n, .error last) := by
  induction errors generalizing attempt n notes with
  | nil => cases hlast
  | cons e errors ih =>
    cases n with
    | zero =>
      obtain rfl : errors = [] := List.eq_nil_of_length_eq_zero (Nat.succ.inj hlength)
      cases hlast
      rfl
    | succ n =>
      have hrest : errors.length = n + 1 := Nat.succ.inj hlength
      obtain ⟨e', rest, rfl⟩ := List.exists_cons_of_length_eq_add_one hrest
      rw [List.getLast?_cons_cons] at hlast
      rw [afterErrors, ih (attempt + 1) _ hrest hlast, Nat.add_right_comm]
      rfl

theorem Worn.spent {errors : List ApiFailure} {run : CallRun α}
    (h : Worn noted noteError operation spare attempt left w errors run w') :
    Spent operation spare attempt left w run w' := by
  have hseen := h.seen
  rw [noted_remote, noted_remote] at hseen
  refine ⟨?_, fun hlt => ?_, h.rejected, h.opened⟩
  · rw [← h.length]
    exact (congrArg Prod.fst hseen).trans (afterErrors_noteError_fst errors attempt _)
  · obtain ⟨e, hlast, hrun⟩ := h.exhausted hlt
    have hlength : errors.length = spare + 1 := h.length.trans (Nat.min_eq_left hlt)
    refine ⟨e, hrun, ?_⟩
    exact (congrArg (List.head? ·.2) hseen).trans (head?_afterErrors_noteError errors attempt _ hlength hlast)

theorem endsAmid_callFrom (hscope : scope.endsAt = none)
    (hop : ∀ k t, (op k).Ends (fun outcome _ => ∃ e, outcome = .error e ∧ policy.retries e = true) t) (spare : Nat)
    (attempt left : Nat) (now : Instant) (w : NotedWorld ρ α)
    (hrejection : policy.retries (.rejected w.state.breaker.name : BreakerFailure ApiFailure) = false)
    (hb : w.state.breaker.Bears (left + 1)) :
    (callFrom policy scope operation (fun k => watched k (op k)) spare attempt).EndsAmid Aside
      (fun run _ w' => Spent operation spare attempt (left + 1) w run w') now w := by
  refine ((worn_callFrom hscope (failsEach_watched hop) spare attempt left now w hrejection hb).anti ?_).mono ?_
  · intro _ _ _ h
    exact h.beside
  · rintro run _ w' ⟨errors, h⟩
    exact h.spent

/-- Let every attempt of a call fail with an error worth another, at a closed breaker that `left` further failures open
and whose rejections are not worth another attempt. If the scope does not end and others leave the breaker to the call,
it reaches the API in exactly its first `min allowed left` attempts. It ends exhausted with the last error of the API
if the breaker does not open before, else with the rejection of the attempt after, and the breaker ends open exactly if
the failures suffice. -/
theorem failing_call_reaches {allowed : Nat} (hscope : scope.endsAt = none)
    (hallowed : policy.maxAttempts.toNat = allowed) (hpos : 0 < allowed)
    (hop : ∀ k t, (op k).Ends (fun outcome _ => ∃ e, outcome = .error e ∧ policy.retries e = true) t)
    (hmode : w.state.breaker.mode = .closed)
    (hleft : w.state.breaker.failures + left = w.state.breaker.settings.failureThreshold.toNat) (hfew : 0 < left)
    (hrejection : policy.retries (.rejected w.state.breaker.name : BreakerFailure ApiFailure) = false)
    (operation : String) (start : Instant) :
    (guarded policy scope operation fun k => watched k (op k)).EndsAmid Aside (fun run _ w' =>
      reached w' = (List.range' 1 (min allowed left)).reverse ++ reached w ∧
      (allowed ≤ left → ∃ e, run = ⟨allowed, .error (.exhausted operation allowed e)⟩ ∧
        (outcomes w').head? = some (allowed, .error e)) ∧
      (left < allowed → run = ⟨left + 1, .error (.rejected operation w.state.breaker.name)⟩) ∧
      (w'.state.breaker.mode = .opened ↔ left ≤ allowed)) start w := by
  obtain ⟨left, rfl⟩ : ∃ n, left = n + 1 := ⟨left - 1, by omega⟩
  have hspare : Retry.spare policy + 1 = allowed := by
    unfold Retry.spare
    omega
  rw [guarded_eq_callFrom]
  refine (endsAmid_callFrom hscope hop (Retry.spare policy) 1 left start w hrejection (.closed hmode hleft)).mono ?_
  rintro run _ w' ⟨hreached, hexhausted, hrejected, hopened⟩
  rw [Nat.add_comm 1, hspare] at hexhausted
  rw [hspare] at hreached hopened
  refine ⟨hreached, fun hle => hexhausted (by omega), fun hlt => ?_, hopened⟩
  rw [hrejected (by omega), Nat.add_comm 1]

/-- An API that answers after a while that it is busy. -/
def busy (_ : Nat) : Work Unit (Except ApiFailure Unit) :=
  .wait 7 (.done (.error (.status "GET" "/v4/domains/a.io" 503 "busy")))

/-- A world whose breaker has seen three of the five failures that open it. -/
def strainedWorld : NotedWorld Unit Unit :=
  ⟨[], .cycle [], ⟨"mailgun", {}, .closed, .closed, 3, 0, none⟩, .ofRun, ((), [])⟩

/-- A busy API is reached twice there, and the third of the five allowed attempts is rejected. -/
theorem busy_api_reached_twice : (Policy.api.maxAttempts.toNat = 5 ∧
    Policy.api.retries (.rejected "mailgun" : BreakerFailure ApiFailure) = false) ∧
    (guarded .api .endless "get_domain" fun k => watched k (busy k)).EndsAmid Aside (fun run _ w' =>
      reached w' = [2, 1] ∧ run = ⟨3, .error (.rejected "get_domain" "mailgun")⟩ ∧
      w'.state.breaker.mode = .opened) 0 strainedWorld := by
  have hrejection : Policy.api.retries (.rejected "mailgun" : BreakerFailure ApiFailure) = false := by decide +kernel
  have hbusy : Policy.api.retries (ApiFailure.status "GET" "/v4/domains/a.io" 503 "busy") = true := by decide +kernel
  have hop : ∀ k t, (busy k).Ends (fun outcome _ => ∃ e, outcome = .error e ∧ Policy.api.retries e = true) t :=
    fun _ _ => ⟨_, rfl, hbusy⟩
  have hscope : Scope.endless.endsAt = none := rfl
  have hleft : strainedWorld.state.breaker.failures + 2 =
      strainedWorld.state.breaker.settings.failureThreshold.toNat := rfl
  have h := failing_call_reaches hscope rfl (by decide) hop rfl hleft (by decide) hrejection "get_domain" 0
  refine ⟨⟨rfl, hrejection⟩, h.mono ?_⟩
  rintro run _ w' ⟨hreached, -, hrejected, hopened⟩
  exact ⟨hreached, hrejected (by decide), hopened.2 (by decide)⟩

end Outage
end MailReconciler
