/-
The calls that an account counts. A call whose parameters are refused leaves no trace; each other call raises the
counter of its own operation by one and takes one failure off those that wait, and a call that fails leaves the
resources as they were. So the counters add up to the calls whose parameters were accepted (`totalCalls_foldl`), and the
failures that wait go off in their order, one for each of these calls (`failures_foldl`).
-/
import MailReconciler.Proofs.Account.InPlace
import MailReconciler.Proofs.Http.Targets

namespace MailReconciler

/-! ## Failures of the account -/

namespace Holdings

variable {κ ν β : Type} [DecidableEq κ] {t : Table κ ν} {k : κ} {failure e : ApiFailure}

theorem error_of_bind_find {f : ν → Except ApiFailure β} (h : (find t k failure >>= f) = .error e)
    (hf : ∀ v, ∃ r, f v = .ok r) : e = failure := by
  unfold find at h
  cases hk : t.get? k with
  | none => rw [hk] at h; cases h; rfl
  | some v =>
    obtain ⟨r, hr⟩ := hf v
    rw [hk] at h
    cases hr.symm.trans h

theorem error_of_bind_requireFree {f : Unit → Except ApiFailure β}
    (h : (requireFree t k failure >>= f) = .error e) (hf : ∃ r, f () = .ok r) : e = failure := by
  obtain ⟨r, hr⟩ := hf
  unfold requireFree at h
  cases hk : t.has k with
  | false => rw [hk] at h; cases hr.symm.trans h
  | true => rw [hk] at h; cases h; rfl

/-- A call fails because a resource is missing, or because it is there already. -/
theorem missing_or_duplicate {α : Type} {h : Holdings} {call : Call α} (hp : h.perform call = .error e) :
    (∃ method path what, e = missing method path what) ∨ ∃ path what, e = duplicate path what := by
  cases call with
  | createRoute _ | createBounce _ | createComplaint _ | createUnsubscribe _ => cases hp
  | createDomain _ | createMailingList _ | createWebhook _ | createCredential _ | createTemplate _ =>
    exact .inr ⟨_, _, error_of_bind_requireFree hp ⟨_, rfl⟩⟩
  | getDomain _ | getRoute _ | getMailingList _ | getWebhook _ _ | getCredential _ _ | getTemplate _ _
  | getBounce _ _ | getComplaint _ _ | getUnsubscribe _ _ | updateDomain _ _ | updateRoute _ _ | updateMailingList _ _
  | updateWebhook _ | updatePassword _ | updateTemplate _ | deleteDomain _ | deleteRoute _ | deleteMailingList _
  | deleteWebhook _ _ | deleteCredential _ _ | deleteTemplate _ _ | deleteBounce _ _ | deleteComplaint _ _
  | deleteUnsubscribe _ _ =>
    exact .inl ⟨_, _, _, error_of_bind_find hp fun _ => ⟨_, rfl⟩⟩

end Holdings

/-! ## Counters -/

namespace Table

variable {κ : Type} [DecidableEq κ]

/-- Whether each key stands once. -/
def Single {ν : Type} (t : Table κ ν) : Prop := (t.entries.map (·.1)).Nodup

theorem Single.insert {ν : Type} {t : Table κ ν} (ht : t.Single) (k : κ) (v : ν) : (t.insert k v).Single := by
  refine List.nodup_cons.2 ⟨fun hk => ?_, ht.sublist (List.filter_sublist.map _)⟩
  obtain ⟨entry, hentry, heq⟩ := List.mem_map.1 hk
  exact of_decide_eq_true (List.mem_filter.1 hentry).2 heq

omit [DecidableEq κ] in
theorem foldl_total_add (entries : List (κ × Nat)) (m n : Nat) :
    entries.foldl (fun total entry => total + entry.2) (m + n) =
      entries.foldl (fun total entry => total + entry.2) m + n := by
  induction entries generalizing m with
  | nil => rfl
  | cons entry rest ih => rw [List.foldl_cons, List.foldl_cons, Nat.add_right_comm, ih]

/-- A table adds up to the value of a key and what the entries of the other keys add up to. -/
theorem foldl_total_erase {t : Table κ Nat} (ht : t.Single) (k : κ) (m : Nat) :
    t.entries.foldl (fun total entry => total + entry.2) m =
      (t.erase k).entries.foldl (fun total entry => total + entry.2) m + (t.get? k).getD 0 := by
  obtain ⟨entries⟩ := t
  induction entries generalizing m with
  | nil => rfl
  | cons entry rest ih =>
    obtain ⟨hfirst, hrest⟩ := List.nodup_cons.1 ht
    by_cases hk : entry.1 = k
    · have hothers : rest.filter (·.1 ≠ k) = rest :=
        List.filter_eq_self.2 fun other hother => decide_eq_true fun heq =>
          hfirst (List.mem_map.2 ⟨other, hother, heq.trans hk.symm⟩)
      have herase : erase ⟨entry :: rest⟩ k = ⟨rest⟩ := by
        unfold erase
        rw [List.filter_cons_of_neg (by simpa using hk), hothers]
      have hget : get? ⟨entry :: rest⟩ k = some entry.2 := by
        unfold get?
        rw [List.find?_cons_of_pos (by simpa using hk)]
        rfl
      rw [herase, hget]
      exact foldl_total_add rest m entry.2
    · have herase : erase ⟨entry :: rest⟩ k = ⟨entry :: (erase ⟨rest⟩ k).entries⟩ := by
        unfold erase
        rw [List.filter_cons_of_pos (by simpa using hk)]
      have hget : get? ⟨entry :: rest⟩ k = get? ⟨rest⟩ k := by
        unfold get?
        rw [List.find?_cons_of_neg (by simpa using hk)]
      rw [herase, hget]
      exact ih (m + entry.2) hrest

end Table

namespace Account

variable {α : Type} {a : Account} {call : Call α} {e : ApiFailure}

theorem callsTo_countCall_of_ne (a : Account) {operation other : String} (h : other ≠ operation) :
    (a.countCall operation).callsTo other = a.callsTo other := by
  unfold callsTo countCall
  rw [Table.get?_insert_of_ne _ _ h]

theorem totalCalls_countCall (h : a.calls.Single) (operation : String) :
    (a.countCall operation).totalCalls = a.totalCalls + 1 := by
  unfold totalCalls
  rw [Table.foldl_total_erase h operation]
  show ((a.calls.erase operation).entries.foldl (fun total entry => total + entry.2)
    (0 + (a.callsTo operation + 1))) = _
  rw [Table.foldl_total_add, Nat.add_assoc]
  rfl

/-! ## Single calls -/

theorem calls_answer (h : check call = .ok ()) : (a.answer call).2.calls = (a.countCall call.name).calls := by
  have ha := a.answers call
  generalize (a.answer call).1 = outcome, (a.answer call).2 = b at ha ⊢
  cases ha with
  | refused hc => rw [h] at hc; cases hc
  | injected _ _ | failed _ _ _ | carriedOut _ _ _ => rfl

theorem callsTo_answer_eq (h : check call = .ok ()) (operation : String) : (a.answer call).2.callsTo operation =
    a.callsTo operation + if operation = call.name then 1 else 0 := by
  unfold callsTo
  rw [calls_answer h]
  show (a.countCall call.name).callsTo operation = _
  split
  · next hsame => exact hsame ▸ callsTo_countCall a operation
  · next hother => exact callsTo_countCall_of_ne a hother

theorem failures_answer (h : check call = .ok ()) : (a.answer call).2.failures = a.failures.tail := by
  have ha := a.answers call
  generalize (a.answer call).1 = outcome, (a.answer call).2 = b at ha ⊢
  cases ha with
  | refused hc => rw [h] at hc; cases hc
  | injected _ hf => rw [hf]; rfl
  | failed _ hf _ | carriedOut _ hf _ => exact hf.trans (congrArg List.tail hf).symm

/-- When no failure waits, a call fails with one of the account. -/
theorem status_of_error (hc : check call = .ok ()) (hf : a.failures = []) (he : (a.answer call).1 = .error e) :
    ∃ method path status detail, e = .status method path status detail ∧ (status = 404 ∨ status = 400) := by
  have ha := a.answers call
  generalize (a.answer call).2 = b at ha
  rw [he] at ha
  cases ha with
  | refused hc' => rw [hc] at hc'; cases hc'
  | injected _ hf' => rw [hf] at hf'; cases hf'
  | failed _ _ hp =>
    obtain ⟨method, path, what, rfl⟩ | ⟨path, what, rfl⟩ := Holdings.missing_or_duplicate hp
    · exact ⟨method, path, 404, _, rfl, .inl rfl⟩
    · exact ⟨"POST", path, 400, _, rfl, .inr rfl⟩

/-! ## Runs -/

/-- What is done to an account: a call, or some failures put before the next calls. -/
inductive Deed : Type 1
  | call {α : Type} (call : Call α)
  | failNext (n : Nat) (e : ApiFailure)

/-- The account after a deed. -/
def after (a : Account) : Deed → Account
  | .call call => (answerInPlace call a).2
  | .failNext n e => a.failNext n e

/-- Whether a deed is a call whose parameters are accepted. -/
def Deed.counts : Deed → Bool
  | .call call => (check call).isOk
  | .failNext _ _ => false

/-- What a deed does: if it does not count, it puts failures behind those that wait, if any; else it raises a counter
and takes the first of these failures off. -/
theorem after_cases (a : Account) (deed : Deed) :
    deed.counts = false ∧ (∃ behind, a.after deed = { a with failures := a.failures ++ behind }) ∨
      deed.counts = true ∧ (∃ operation, (a.after deed).calls = (a.countCall operation).calls) ∧
        (a.after deed).failures = a.failures.tail := by
  cases deed with
  | failNext n e => exact .inl ⟨rfl, _, rfl⟩
  | call call =>
    have hafter : a.after (.call call) = (a.answer call).2 := congrArg (·.2) (answerInPlace_eq call a)
    rw [hafter]
    cases hc : check call with
    | error e =>
      refine .inl ⟨congrArg Except.isOk hc, [], ?_⟩
      rw [answer_of_refused hc, List.append_nil]
    | ok _ => exact .inr ⟨congrArg Except.isOk hc, ⟨call.name, calls_answer hc⟩, failures_answer hc⟩

theorem totalCalls_after (h : a.calls.Single) (deed : Deed) :
    (a.after deed).calls.Single ∧ (a.after deed).totalCalls = a.totalCalls + if deed.counts then 1 else 0 := by
  obtain ⟨hcounts, behind, hafter⟩ | ⟨hcounts, ⟨operation, hcalls⟩, -⟩ := a.after_cases deed
  · rw [hafter, hcounts]
    exact ⟨h, rfl⟩
  · have htotal : (a.after deed).totalCalls = (a.countCall operation).totalCalls := by
      unfold totalCalls
      rw [hcalls]
    rw [hcalls, htotal, hcounts]
    exact ⟨h.insert _ _, totalCalls_countCall h operation⟩

theorem totalCalls_foldl (deeds : List Deed) (h : a.calls.Single) :
    (deeds.foldl after a).totalCalls = a.totalCalls + deeds.countP Deed.counts := by
  induction deeds generalizing a with
  | nil => rfl
  | cons deed rest ih =>
    obtain ⟨hsingle, htotal⟩ := totalCalls_after h deed
    rw [List.foldl_cons, ih hsingle, htotal, List.countP_cons]
    omega

theorem failures_after (a : Account) (deed : Deed) :
    ∃ behind, (a.after deed).failures = a.failures.drop (if deed.counts then 1 else 0) ++ behind := by
  obtain ⟨hcounts, behind, hafter⟩ | ⟨hcounts, -, hfailures⟩ := a.after_cases deed
  · exact ⟨behind, by rw [hafter, hcounts]; rfl⟩
  · exact ⟨[], by rw [hfailures, hcounts, List.append_nil, if_pos rfl, List.drop_one]⟩

/-- The failures that wait go off in their order, one for each call that counts. -/
theorem failures_foldl (deeds : List Deed) (a : Account) :
    ∃ behind, (deeds.foldl after a).failures = a.failures.drop (deeds.countP Deed.counts) ++ behind := by
  induction deeds generalizing a with
  | nil => exact ⟨[], (List.append_nil _).symm⟩
  | cons deed rest ih =>
    obtain ⟨behind, hafter⟩ := a.failures_after deed
    obtain ⟨behind', hrest⟩ := ih (a.after deed)
    rw [hafter, List.drop_append, List.drop_drop, List.append_assoc] at hrest
    rw [List.foldl_cons, hrest, List.countP_cons, Nat.add_comm]
    exact ⟨_, rfl⟩

theorem answer_foldl_of_waiting {deeds : List Deed} (hc : check call = .ok ())
    (he : a.failures[deeds.countP Deed.counts]? = some e) : ((deeds.foldl after a).answer call).1 = .error e := by
  obtain ⟨behind, hfailures⟩ := failures_foldl deeds a
  rw [← List.head?_drop] at he
  obtain ⟨rest, hrest⟩ := List.head?_eq_some_iff.1 he
  rw [hrest, List.cons_append] at hfailures
  rw [answer_of_injected hc hfailures]

/-- A call whose parameters are refused changes nothing. Each other call raises the counter of its own operation by
one, and no other one, and takes the first of the failures that wait off: with that it fails, and leaves the resources
as they were. When no failure waits, a call that fails also leaves the resources as they were, and its failure has the
status 404 or 400. So the failures that wait go off one by one: after some such calls it is the turn of the next one.
Operations share no counter, and of any calls on a fresh account, whatever failures are put before them, all counters
add up to those whose parameters were accepted. A call in place is answered as one in one go. -/
theorem failed_call_changes_nothing :
    (∀ {α : Type} (call : Call α) (a : Account) (e : ApiFailure), check call = .error e →
      answerInPlace call a = (.error e, a)) ∧
    (∀ {α : Type} (call : Call α) (a : Account), check call = .ok () →
      (∀ operation, (answerInPlace call a).2.callsTo operation =
        a.callsTo operation + if operation = call.name then 1 else 0) ∧
      (answerInPlace call a).2.failures = a.failures.tail ∧
      (∀ e, a.failures.head? = some e → (answerInPlace call a).1 = .error e) ∧
      (∀ e, (answerInPlace call a).1 = .error e → (answerInPlace call a).2.holdings = a.holdings) ∧
      (∀ e, a.failures = [] → (answerInPlace call a).1 = .error e →
        ∃ method path status detail, e = .status method path status detail ∧ (status = 404 ∨ status = 400))) ∧
    (∀ {α : Type} (call : Call α) (a : Account) (deeds : List Deed) (e : ApiFailure), check call = .ok () →
      a.failures[deeds.countP Deed.counts]? = some e → (answerInPlace call (deeds.foldl after a)).1 = .error e) ∧
    (∀ {α β : Type} (call : Call α) (call' : Call β), call.name = call'.name → call.ctorIdx = call'.ctorIdx) ∧
    (∀ deeds : List Deed, (deeds.foldl after {}).totalCalls = deeds.countP Deed.counts) ∧
    ∀ {α : Type} (call : Call α) (a : Account), answerInPlace call a = a.answer call := by
  refine ⟨?_, ?_, ?_, ?_, ?_, answerInPlace_eq⟩
  · intro α call a e hc
    rw [answerInPlace_eq, answer_of_refused hc]
  · intro α call a hc
    rw [answerInPlace_eq]
    refine ⟨callsTo_answer_eq hc, failures_answer hc, fun e he => ?_, fun e => holdings_of_error,
      fun e => status_of_error hc⟩
    obtain ⟨rest, hf⟩ := List.head?_eq_some_iff.1 he
    rw [answer_of_injected hc hf]
  · intro α call a deeds e hc he
    rw [answerInPlace_eq, answer_foldl_of_waiting hc he]
  · intro α β call call' hname
    rw [← call.idxOf_name, hname, call'.idxOf_name]
  · intro deeds
    have hsingle : ({} : Account).calls.Single := List.nodup_nil
    rw [totalCalls_foldl deeds hsingle]
    exact Nat.zero_add _

/-- An account with a mailing list, whose next call fails. -/
def faltering : Account where
  holdings := { lists := Table.empty.insert "staff@example.com" { address := "staff@example.com" } }
  failures := [.status "PUT" "/v3/lists" 503 "busy"]

theorem mailing_lists_kept :
    (answerInPlace (.createMailingList {}) faltering).2 = faltering ∧
    (answerInPlace (.updateMailingList "staff@example.com" {}) faltering).1 =
      .error (.status "PUT" "/v3/lists" 503 "busy") ∧
    (answerInPlace (.updateMailingList "guests@example.com" {}) { faltering with failures := [] }).2.holdings =
      faltering.holdings := by
  have hrefused : ∃ e, check (.createMailingList {}) = .error e := ⟨_, rfl⟩
  obtain ⟨e, he⟩ := hrefused
  have hmissing : ∃ e, (answerInPlace (.updateMailingList "guests@example.com" {})
      { faltering with failures := [] }).1 = .error e := ⟨_, rfl⟩
  obtain ⟨e', he'⟩ := hmissing
  refine ⟨by rw [failed_call_changes_nothing.1 _ _ _ he], ?_, ?_⟩
  · exact (failed_call_changes_nothing.2.1 _ faltering rfl).2.2.1 _ rfl
  · exact (failed_call_changes_nothing.2.1 _ { faltering with failures := [] } rfl).2.2.2.1 _ he'

end Account
end MailReconciler
