/-
The failure of the API that a failed call carries. Every attempt that reaches the API writes its reply down, and the
failure of a call is made of what its last attempt came to: so it carries the reply of that attempt, if the attempt had
one. What the API said before is not kept: where the breaker rejects the last attempt, or the scope cuts it short, the
failure carries nothing, although the API may have been reached and have failed.
-/
import MailReconciler.Proofs.Client.Exhaustion
import MailReconciler.Proofs.Client.Outage
import MailReconciler.Proofs.Work.Spending

namespace MailReconciler

section LastReply

variable {ρ α : Type} {policy : Policy} {scope : Scope} {operation : String} {op : Nat → Work ρ (Except ApiFailure α)}
  {attempt spare : Nat} {now t : Instant} {w w' : NotedWorld ρ α}

/-! ## Replies -/

/-- Others leave alone what the operations of a call have replied. -/
def LeavesReplies (_ : Instant) (w w' : NotedWorld ρ α) : Prop := outcomes w' = outcomes w

/-- The replies of an operation that its scope may cut short. -/
def repliesOf (attempt : Nat) : Except EndReason (Except ApiFailure α) → Journal (Except ApiFailure α)
  | .ok reply => [(attempt, reply)]
  | .error _ => []

/-- An operation that the breaker lets through replies if it ends, and not if its scope ends before. -/
theorem endsOnly_insideBreaker : ∀ (work : Work ρ (Except ApiFailure α)) (now : Instant) (w : NotedWorld ρ α),
    (insideBreaker scope (watchedFrom attempt work)).EndsOnly LeavesReplies
      (fun ending _ w' => outcomes w' = repliesOf attempt ending ++ outcomes w) now w
  | .done reply, _, w => by
    intro w₁ h₁
    show (attempt, reply) :: outcomes w₁ = _
    rw [show outcomes w₁ = outcomes w from h₁]
    rfl
  | .act change next, now, w => by
    intro w₁ h₁
    refine (endsOnly_insideBreaker (next now w₁.state.remote.1) now _).mono ?_
    intro ending _ w' hw'
    rw [hw', ← show outcomes w₁ = outcomes w from h₁]
    rfl
  | .wait wake next, now, w => by
    -- that it waits is written down first, and then it looks whether its scope has ended
    intro w₁ h₁ w₂ h₂
    have hw₂ : outcomes w₂ = outcomes w := h₂.trans h₁
    have hnext : ∀ at', (insideBreaker scope (watchedFrom attempt next)).EndsOnly LeavesReplies
        (fun ending _ w' => outcomes w' = repliesOf attempt ending ++ outcomes w) at' w₂ := by
      intro at'
      rw [← hw₂]
      exact endsOnly_insideBreaker next at' w₂
    by_cases hw : wake ≤ now
    · simp only [hw, if_true]
      exact hnext now
    · simp only [hw, if_false]
      cases scope.reason? now with
      | some reason => exact hw₂
      | none =>
        cases scope.endsAt with
        | none => exact hnext (max now wake)
        | some stop =>
          by_cases hs : wake ≤ stop
          · simp only [hs, if_true]
            exact hnext (max now wake)
          · simp only [hs, if_false]
            intro w₃ h₃
            exact h₃.trans hw₂
  | .never, now, w => by
    intro w₁ h₁ w₂ h₂
    have hw₂ : outcomes w₂ = outcomes w := h₂.trans h₁
    dsimp only
    cases scope.reason? now with
    | some reason => exact hw₂
    | none =>
      cases scope.endsAt with
      | none => trivial
      | some stop =>
        intro w₃ h₃
        exact h₃.trans hw₂

/-- An attempt leaves its reply behind, if it has one. -/
theorem endsOnly_throughBreaker (work : Work ρ (Except ApiFailure α)) (now : Instant) (w : NotedWorld ρ α) :
    (throughBreaker scope (watched attempt work)).EndsOnly LeavesReplies
      (fun result _ w' => outcomes w' = (reply? result).toList.map (attempt, ·) ++ outcomes w) now w := by
  rw [throughBreaker_eq]
  intro w₁ h₁ w₂ h₂
  have hw₂ : outcomes w₂ = outcomes w := h₂.trans h₁
  cases ha : (World.allow now w₂).1 with
  | false =>
    simp only [ha, Bool.false_eq_true, if_false]
    exact hw₂
  | true =>
    simp only [ha, if_true]
    refine Work.endsOnly_bind.2 fun w₃ h₃ => ?_
    have hw₃ : outcomes w₃ = outcomes w := h₃.trans hw₂
    refine (endsOnly_insideBreaker work now _).mono ?_
    rintro (reason | e | value) t w₄ hw₄
    · exact hw₄.trans hw₃
    · intro w₅ h₅
      have hw₅ : outcomes w₅ = (attempt, .error e) :: outcomes w₃ := h₅.trans hw₄
      rw [hw₃] at hw₅
      exact hw₅
    · intro w₅ h₅
      have hw₅ : outcomes w₅ = (attempt, .ok value) :: outcomes w₃ := h₅.trans hw₄
      rw [hw₃] at hw₅
      exact hw₅

/-! ## Runs -/

/-- What the replies of a run tell that begins with some attempt, the latest reply first: only its last attempt can
have succeeded, and what that attempt replied is what its result is made of. -/
structure Recounts (attempt : Nat) (replies : Journal (Except ApiFailure α))
    (run : Retry.Run (BreakerFailure ApiFailure) α) : Prop where
  ordered : replies.Pairwise fun late early => early.1 < late.1
  numbered : ∀ n r, (n, r) ∈ replies → attempt ≤ n ∧ n ≤ run.attempts
  failed : ∀ n r, (n, r) ∈ replies → n < run.attempts → ∃ e, r = .error e
  last : ∀ r, (run.attempts, r) ∈ replies ↔ reply? (run.result.mapError RetryFailure.last) = some r

/-- A run that ends with an attempt tells what the attempt replied. -/
theorem recounts_last {result : Except (RetryFailure (BreakerFailure ApiFailure)) α} :
    Recounts attempt ((reply? (result.mapError RetryFailure.last)).toList.map (attempt, ·)) ⟨attempt, result⟩ := by
  generalize hr : reply? (result.mapError RetryFailure.last) = reply
  cases reply with
  | none =>
    refine ⟨.nil, ?_, ?_, ?_⟩
    · simp
    · simp
    · simp [hr]
  | some r =>
    refine ⟨List.pairwise_singleton _ _, ?_, ?_, ?_⟩
    · simp
    · simp
    · simp [hr, eq_comm]

/-- An attempt that is retried adds its reply to what the rest of the run tells. -/
theorem Recounts.cons {replies : Journal (Except ApiFailure α)} {run : Retry.Run (BreakerFailure ApiFailure) α}
    {e : BreakerFailure ApiFailure} (h : Recounts (attempt + 1) replies run) (hle : attempt + 1 ≤ run.attempts) :
    Recounts attempt (replies ++ (reply? (.error e : Except _ α)).toList.map (attempt, ·)) run := by
  have hnew : ∀ n r, (n, r) ∈ (reply? (.error e : Except _ α)).toList.map (attempt, ·) →
      n = attempt ∧ ∃ e, r = .error e := by
    intro n r hmem
    cases e with
    | operation e =>
      cases List.mem_singleton.1 hmem
      exact ⟨rfl, e, rfl⟩
    | rejected _ | interrupted _ _ => cases hmem
  refine ⟨?_, ?_, ?_, ?_⟩
  · refine List.pairwise_append.2 ⟨h.ordered, ?_, ?_⟩
    · cases e with
      | operation e => exact List.pairwise_singleton _ _
      | rejected _ | interrupted _ _ => exact .nil
    · rintro ⟨n, r⟩ hmem ⟨m, q⟩ hq
      obtain ⟨hlow, -⟩ := h.numbered n r hmem
      obtain ⟨rfl, -⟩ := hnew m q hq
      exact hlow
  · intro n r hmem
    rcases List.mem_append.1 hmem with hmem | hmem
    · obtain ⟨hlow, hhigh⟩ := h.numbered n r hmem
      exact ⟨by omega, hhigh⟩
    · obtain ⟨rfl, -⟩ := hnew n r hmem
      exact ⟨Nat.le_refl _, by omega⟩
  · intro n r hmem hlt
    rcases List.mem_append.1 hmem with hmem | hmem
    · exact h.failed n r hmem hlt
    · exact (hnew n r hmem).2
  · intro r
    rw [← h.last r, List.mem_append]
    constructor
    · rintro (hmem | hmem)
      · exact hmem
      · obtain ⟨heq, -⟩ := hnew _ r hmem
        omega
    · exact .inl

theorem endsOnly_finish (outcome : Retry.Outcome) (run : Retry.Run (BreakerFailure ApiFailure) α) (now : Instant)
    (w : NotedWorld ρ α) : (Retry.finish operation outcome run).EndsOnly LeavesReplies
      (fun run' _ w' => run' = run ∧ outcomes w' = outcomes w) now w :=
  fun _ h => ⟨rfl, h⟩

theorem endsOnly_pause (nanos : Nat) (now : Instant) (w : NotedWorld ρ α) :
    (Work.pause scope nanos).EndsOnly LeavesReplies (fun _ _ w' => outcomes w' = outcomes w) now w :=
  (Work.keeps_pause scope nanos).endsOnly fun _ _ _ h => h

theorem endsOnly_attemptFrom (spare : Nat) : ∀ (attempt : Nat) (now : Instant) (w : NotedWorld ρ α),
    (Retry.attemptFrom policy scope operation (fun k => throughBreaker scope (watched k (op k))) spare attempt).EndsOnly
      LeavesReplies (fun run _ w' => attempt ≤ run.attempts ∧
        ∃ replies, outcomes w' = replies ++ outcomes w ∧ Recounts attempt replies run) now w := by
  have hend : ∀ (attempt : Nat) (outcome : Retry.Outcome) (result : Except (RetryFailure (BreakerFailure ApiFailure)) α)
      (w w₁ : NotedWorld ρ α) (t : Instant), outcomes w₁ =
          (reply? (result.mapError RetryFailure.last)).toList.map (attempt, ·) ++ outcomes w →
      (Retry.finish operation outcome ⟨attempt, result⟩).EndsOnly LeavesReplies (fun run _ w' =>
        attempt ≤ run.attempts ∧
          ∃ replies, outcomes w' = replies ++ outcomes w ∧ Recounts attempt replies run) t w₁ := by
    intro attempt outcome result w w₁ t hw₁
    refine (endsOnly_finish outcome _ t w₁).mono ?_
    rintro _ _ w₂ ⟨rfl, hw₂⟩
    exact ⟨Nat.le_refl _, _, hw₂.trans hw₁, recounts_last⟩
  induction spare with
  | zero =>
    intro attempt now w
    rw [Retry.attemptFrom_eq]
    refine Work.endsOnly_bind.2 ((endsOnly_throughBreaker (op attempt) now w).mono ?_)
    rintro (e | value) t w₁ hw₁ w₂ h₂
    · exact hend attempt _ _ w w₂ t (h₂.trans hw₁)
    · exact hend attempt _ _ w w₂ t (h₂.trans hw₁)
  | succ spare ih =>
    intro attempt now w
    rw [Retry.attemptFrom_eq]
    refine Work.endsOnly_bind.2 ((endsOnly_throughBreaker (op attempt) now w).mono ?_)
    rintro (e | value) t w₁ hw₁ w₂ h₂
    · have hw₂ := h₂.trans hw₁
      cases hp : policy.retries e with
      | false =>
        rw [Retry.afterFailure_of_permanent hp]
        exact hend attempt _ _ w w₂ t hw₂
      | true =>
        rw [Retry.afterFailure_of_retries hp]
        intro w₃ h₃
        have hw₃ := h₃.trans hw₂
        show ((Work.pause scope _).bind _).EndsOnly _ _ t _
        refine Work.endsOnly_bind.2 ((endsOnly_pause _ t _).mono ?_)
        intro reason u w₄ hw₄
        have hw₄ := hw₄.trans hw₃
        cases reason with
        | some reason => exact hend attempt _ _ w w₄ u hw₄
        | none =>
          refine (ih (attempt + 1) u w₄).mono ?_
          rintro run _ w' ⟨hle, replies, hw', hrecounts⟩
          refine ⟨by omega, _, ?_, hrecounts.cons (e := e) hle⟩
          rw [hw', hw₄, List.append_assoc]
    · exact hend attempt _ _ w w₂ t (h₂.trans hw₁)

/-! ## Failed calls -/

theorem apiFailure?_ofRetry (failure : RetryFailure (BreakerFailure ApiFailure)) :
    (CallFailure.ofRetry failure).apiFailure? = failure.last.operation? := by
  cases failure with
  | exhausted _ _ last => cases last <;> rfl
  | permanent _ _ last => cases last <;> rfl
  | cancelled _ _ _ _ => rfl

theorem reply?_error (e : BreakerFailure ApiFailure) :
    reply? (.error e : Except _ α) = e.operation?.map .error := by
  cases e <;> rfl

theorem exists_errors {replies : Journal (Except ApiFailure α)} (h : ∀ n r, (n, r) ∈ replies → ∃ e, r = .error e) :
    ∃ errors : Journal ApiFailure, replies = errors.map fun e => (e.1, .error e.2) := by
  induction replies with
  | nil => exact ⟨[], rfl⟩
  | cons reply replies ih =>
    obtain ⟨n, r⟩ := reply
    obtain ⟨e, rfl⟩ := h n r List.mem_cons_self
    obtain ⟨errors, rfl⟩ := ih fun n r hmem => h n r (List.mem_cons_of_mem _ hmem)
    exact ⟨(n, e) :: errors, rfl⟩

/-- The latest of some failures is the one with the highest number. -/
theorem head?_eq_some_iff_mem {errors : Journal ApiFailure} {n : Nat} {e : ApiFailure}
    (hordered : errors.Pairwise fun late early => early.1 < late.1) (hle : ∀ m e', (m, e') ∈ errors → m ≤ n) :
    errors.head? = some (n, e) ↔ (n, e) ∈ errors := by
  cases errors with
  | nil => simp
  | cons first errors =>
    obtain ⟨hfirst, -⟩ := List.pairwise_cons.1 hordered
    constructor
    · intro h
      cases h
      exact List.mem_cons_self
    · intro hmem
      rcases List.mem_cons.1 hmem with rfl | hmem
      · rfl
      · have hlt := hfirst _ hmem
        have hhigh := hle first.1 first.2 List.mem_cons_self
        omega

/-- Whatever others do beside a call, if it fails, then all that the API has replied to it are failures. The failure of
the call carries the latest of them if that is the reply of the last attempt, and no other: if the last attempt was
rejected or cut short, it carries none, whether the API has failed before or not. -/
theorem failed_call_carries_last_reply (policy : Policy) (scope : Scope) (operation : String)
    (op : Nat → Work ρ (Except ApiFailure α)) (start : Instant) (w : NotedWorld ρ α) :
    (guarded policy scope operation fun k => watched k (op k)).EndsOnly LeavesReplies (fun run _ w' =>
      ∀ failure, run.result = .error failure → ∃ errors : Journal ApiFailure,
        outcomes w' = errors.map (fun e => (e.1, .error e.2)) ++ outcomes w ∧
        errors.Pairwise (fun late early => early.1 < late.1) ∧
        (∀ n e, (n, e) ∈ errors → 1 ≤ n ∧ n ≤ run.attempts) ∧
        (∀ e, failure.apiFailure? = some e ↔ errors.head? = some (run.attempts, e)) ∧
        (failure.apiFailure? = none ↔ ∀ n e, errors.head? = some (n, e) → n < run.attempts)) start w := by
  rw [guarded_eq_callFrom]
  unfold callFrom
  refine Work.endsOnly_bind.2 ((endsOnly_attemptFrom (Retry.spare policy) 1 start w).mono ?_)
  rintro ⟨attempts, result⟩ t w' ⟨-, replies, hw', hrecounts⟩ failure hfailure
  cases result with
  | ok value => cases hfailure
  | error last =>
    obtain rfl : CallFailure.ofRetry last = failure := Except.error.inj hfailure
    have hlast : ∀ r, (attempts, r) ∈ replies ↔ last.last.operation?.map .error = some r := by
      intro r
      rw [← reply?_error]
      exact hrecounts.last r
    have hfailed : ∀ n r, (n, r) ∈ replies → ∃ e, r = .error e := by
      intro n r hmem
      obtain ⟨-, hle⟩ := hrecounts.numbered n r hmem
      rcases Nat.lt_or_eq_of_le hle with hlt | rfl
      · exact hrecounts.failed n r hmem hlt
      · obtain ⟨e, -, he⟩ := Option.map_eq_some_iff.1 ((hlast r).1 hmem)
        exact ⟨e, he.symm⟩
    obtain ⟨errors, rfl⟩ := exists_errors hfailed
    have hmem : ∀ n e, (n, .error e) ∈ errors.map (fun e => (e.1, (.error e.2 : Except ApiFailure α))) ↔
        (n, e) ∈ errors := by
      intro n e
      simp
    have hordered := List.pairwise_map.1 hrecounts.ordered
    have hnumbered : ∀ n e, (n, e) ∈ errors → 1 ≤ n ∧ n ≤ attempts :=
      fun n e he => hrecounts.numbered n _ ((hmem n e).2 he)
    have hcarried : ∀ e, (CallFailure.ofRetry last).apiFailure? = some e ↔ errors.head? = some (attempts, e) := by
      intro e
      rw [head?_eq_some_iff_mem hordered fun n e he => (hnumbered n e he).2, ← hmem, hlast, apiFailure?_ofRetry]
      simp
    refine ⟨errors, hw', hordered, hnumbered, hcarried, ?_⟩
    constructor
    · intro hnone n e hhead
      refine Nat.lt_of_le_of_ne (hnumbered n e (List.mem_of_mem_head? hhead)).2 ?_
      rintro rfl
      rw [← hcarried, hnone] at hhead
      cases hhead
    · intro hlt
      refine Option.eq_none_iff_forall_ne_some.2 fun e he => ?_
      exact Nat.lt_irrefl _ (hlt attempts e ((hcarried e).1 he))

/-! ## A failure that is not carried -/

/-- An attempt that the API fails at once, at a breaker that lets it through. -/
theorem run_throughBreaker_watched (scope : Scope) (e : ApiFailure) (hb : w.state.breaker.mode ≠ .opened) :
    ∃ w', (throughBreaker scope (watched attempt (.done (.error e)))).run now w =
        some (.error (.operation e), now, w') ∧
      w'.state.breaker = (w.state.breaker.recordFailure (w.read now)).1 ∧ w'.state.clock = w.state.clock ∧
      outcomes w' = (attempt, .error e) :: outcomes w := by
  have hop : (watched attempt (.done (.error e) : Work ρ (Except ApiFailure α))).run now w.state.remote = _ := rfl
  obtain ⟨w', hrun, hbreaker, hclock, hremote⟩ := run_throughBreaker_of_immediate hop hb
  refine ⟨w', hrun, hbreaker, hclock, ?_⟩
  unfold outcomes
  rw [hremote]
  rfl

def overloaded : ApiFailure := .status "GET" "/v3/lists/a%40x.io" 503 "Service Unavailable"

/-- A world whose breaker has seen nothing and opens with the second failure; its clock stands still. -/
def brittleWorld : NotedWorld Unit Unit :=
  ⟨[], .cycle [], ⟨"mailgun", { failureThreshold := 2 }, .closed, .closed, 0, 0, none⟩, .byHand 0, ((), [])⟩

/-- An operation of an API that is overloaded. -/
def askOverloaded (_ : Nat) : Work Unit (Except ApiFailure Unit) := .done (.error overloaded)

theorem run_overloaded : ∃ t w', (guarded .api .endless "get_mailing_list" fun k => watched k (askOverloaded k)).run 0
      brittleWorld = some (⟨3, .error (.rejected "get_mailing_list" "mailgun")⟩, t, w') ∧
    outcomes w' = [(2, .error overloaded), (1, .error overloaded)] := by
  have hretried : Policy.api.retries (BreakerFailure.operation overloaded) = true := by decide +kernel
  have hrejection : Policy.api.retries (.rejected "mailgun" : BreakerFailure ApiFailure) = false := by decide +kernel
  rw [guarded_eq_callFrom]
  -- the first failure leaves the breaker closed
  obtain ⟨w₁, hrun₁, hb₁, hc₁, ho₁⟩ := @run_throughBreaker_watched Unit Unit 1 0 brittleWorld .endless overloaded
    (by decide)
  rw [show Retry.spare .api = 4 from rfl, run_callFrom_of_retried hrun₁ hretried rfl]
  generalize hv : Retry.waiting .api "get_mailing_list" 1 w₁ = v₁
  generalize 0 + (Retry.waitBehind .api 1 w₁).nanos = t₁
  have hvb : v₁.state.breaker = w₁.state.breaker := by rw [← hv, Retry.waiting_state]
  have hvc : v₁.state.clock = .byHand 0 := by rw [← hv, Retry.waiting_state, hc₁]; rfl
  have hvo : outcomes v₁ = [(1, .error overloaded)] := by rw [← hv]; exact ho₁
  -- the second one opens it
  have hmode : v₁.state.breaker.mode ≠ .opened := by
    rw [hvb, hb₁]
    decide
  obtain ⟨w₂, hrun₂, hb₂, hc₂, ho₂⟩ := @run_throughBreaker_watched Unit Unit 2 t₁ v₁ .endless overloaded hmode
  rw [run_callFrom_of_retried hrun₂ hretried rfl]
  generalize hv₂ : Retry.waiting .api "get_mailing_list" 2 w₂ = v₂
  generalize t₁ + (Retry.waitBehind .api 2 w₂).nanos = t₂
  have hread : World.read v₁ t₁ = 0 := by unfold World.read; rw [hvc]; rfl
  have hbreaker : v₂.state.breaker = ⟨"mailgun", { failureThreshold := 2 }, .opened, .opened, 2, 0, some 0⟩ := by
    rw [← hv₂, Retry.waiting_state, hb₂, hread, hvb, hb₁]
    rfl
  have hvc₂ : v₂.state.clock = .byHand 0 := by rw [← hv₂, Retry.waiting_state, hc₂, hvc]
  have hcold : v₂.state.breaker.cooled (World.read v₂ t₂) = false := by
    unfold World.read
    rw [hbreaker, hvc₂]
    rfl
  -- so the third attempt is rejected
  have hrun₃ := run_throughBreaker_of_rejected .endless (watched 3 (askOverloaded 3)) (by rw [hbreaker]) hcold
  rw [show v₂.state.breaker.name = "mailgun" by rw [hbreaker]] at hrun₃
  obtain ⟨w₃, hrun, hstate, -⟩ := @run_callFrom_of_not_retried _ Unit .api .endless "get_mailing_list"
    (fun k => watched k (askOverloaded k)) 2 3 t₂ t₂ v₂ _ _ hrun₃ rfl (.inl hrejection)
  refine ⟨t₂, w₃, hrun, ?_⟩
  have houtcomes : outcomes w₃ = outcomes v₂ := by
    unfold outcomes
    rw [hstate]
    rfl
  rw [houtcomes, ← hv₂]
  exact ho₂.trans (by rw [hvo])

/-- Of that call the rule says that it carries nothing of the two failures of the API, since its third attempt has no
reply. -/
theorem rejected_call_carries_nothing : ∃ t w', ∃ errors : Journal ApiFailure,
    (guarded .api .endless "get_mailing_list" fun k => watched k (askOverloaded k)).run 0 brittleWorld =
      some (⟨3, .error (.rejected "get_mailing_list" "mailgun")⟩, t, w') ∧
    outcomes w' = errors.map (fun e => (e.1, .error e.2)) ++ outcomes brittleWorld ∧
    ∀ n e, errors.head? = some (n, e) → n < 3 := by
  obtain ⟨t, w', hrun, -⟩ := run_overloaded
  have hrule := failed_call_carries_last_reply .api .endless "get_mailing_list" askOverloaded 0 brittleWorld
  have hsame : ∀ now (w : NotedWorld Unit Unit), LeavesReplies now w w := fun _ _ => rfl
  obtain ⟨errors, hw', -, -, -, hnone⟩ := hrule.of_run hsame hrun _ rfl
  exact ⟨t, w', errors, hrun, hw', hnone.1 rfl⟩

/-- A call whose first two attempts the API fails, and whose third attempt the breaker rejects, carries no failure of
the API. -/
theorem rejection_hides_failures : ∃ t w',
    (guarded .api .endless "get_mailing_list" fun k => watched k (askOverloaded k)).run 0 brittleWorld =
      some (⟨3, .error (.rejected "get_mailing_list" "mailgun")⟩, t, w') ∧
    outcomes w' = [(2, .error overloaded), (1, .error overloaded)] ∧
    (CallFailure.rejected "get_mailing_list" "mailgun").apiFailure? = none := by
  obtain ⟨t, w', hrun, houtcomes⟩ := run_overloaded
  exact ⟨t, w', hrun, houtcomes, rfl⟩

end LastReply
end MailReconciler
