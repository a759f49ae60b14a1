/-
What can be seen of a tree of scopes, and how a wait for the end of a scope ends. A scope has ended if it or one above
it was cancelled, or else if the least deadline on its line has come (`Fits.reason?_eq_cancelled_iff`,
`Fits.reason?_eq_deadlinePassed_iff`); a cancellation changes nothing for scopes that are not below
(`Fits.reason?_eq`). A wait resolves at the first instant at which the scope has ended, with the reason that it has
when the wait is polled (`Resolves.sound`, `exists_resolves`).
-/
import MailReconciler.Proofs.Scope.Lineage

namespace MailReconciler.ScopeTree

open Lineage

variable {l l' : Lineage} {t t' m : ScopeTree} {node : ScopeNode} {i k : Nat} {d : Instant} {r : EndReason}
  {steps rest : List Step}

/-! ## Reasons -/

theorem reason?_of_node (h : t.nodes[i]? = some node) :
    t.reason? i = if node.cancelled then some .cancelled
      else if node.deadline.any (· ≤ t.now) then some .deadlinePassed else none := by
  cases hmark : node.cancelled <;> simp [reason?, scope, Scope.reason?, h, hmark]

theorem reason?_of_none (h : t.nodes[i]? = none) : t.reason? i = none := by
  simp [reason?, scope, h, Scope.reason?, Scope.endless]

/-- Looking at a scope and waiting for its end give the same reason, also when it has two. -/
theorem pollEnd_eq_reason? (t : ScopeTree) (i : Nat) : t.pollEnd i = t.reason? i := by
  cases hnode : t.nodes[i]? with
  | none => rw [reason?_of_none hnode, pollEnd, hnode]
  | some node =>
    obtain ⟨parent, deadline, cancelled⟩ := node
    rw [reason?_of_node hnode, pollEnd, hnode]
    cases deadline <;> simp

theorem reason?_eq_cancelled_iff :
    t.reason? i = some .cancelled ↔ ∃ node, t.nodes[i]? = some node ∧ node.cancelled = true := by
  cases hnode : t.nodes[i]? with
  | none => simp [reason?_of_none hnode]
  | some node =>
    rw [reason?_of_node hnode]
    cases hmark : node.cancelled <;> simp [hmark]

theorem reason?_eq_deadlinePassed_iff :
    t.reason? i = some .deadlinePassed ↔
      t.reason? i ≠ some .cancelled ∧ ∃ d, t.deadline? i = some d ∧ d ≤ t.now := by
  cases hnode : t.nodes[i]? with
  | none => simp [reason?_of_none hnode, deadline?, hnode]
  | some node =>
    rw [reason?_of_node hnode, deadline?, hnode]
    cases hmark : node.cancelled <;> cases hdeadline : node.deadline <;> simp [hdeadline]

theorem Fits.reason?_eq_cancelled_iff (h : Fits l t) : t.reason? i = some .cancelled ↔ l.Cancelled i := by
  rw [ScopeTree.reason?_eq_cancelled_iff]
  constructor
  · rintro ⟨node, hnode, hmark⟩
    exact (h.marked i node hnode).1 hmark
  · intro hcancelled
    obtain ⟨a, -, above⟩ := id hcancelled
    obtain ⟨node, hnode⟩ := h.descend.exists_node above.lt
    exact ⟨node, hnode, (h.marked i node hnode).2 hcancelled⟩

theorem Fits.deadline?_eq_some_iff (h : Fits l t) : t.deadline? i = some d ↔ IsLeast (l.given i) d := by
  cases hnode : t.nodes[i]? with
  | none =>
    have hmissing : l.births.length ≤ i := h.descend.length_eq ▸ List.getElem?_eq_none_iff.1 hnode
    simp only [deadline?, hnode, Option.bind_none, reduceCtorEq, false_iff]
    rintro ⟨⟨a, -, above, -⟩, -⟩
    exact absurd above.lt (Nat.not_lt.2 hmissing)
  | some node =>
    rw [deadline?, hnode, Option.bind_some]
    exact (h.deadline i node hnode).eq_some_iff

theorem Fits.reason?_eq_deadlinePassed_iff (h : Fits l t) :
    t.reason? i = some .deadlinePassed ↔ ¬ l.Cancelled i ∧ ∃ d, IsLeast (l.given i) d ∧ d ≤ t.now := by
  simp only [ScopeTree.reason?_eq_deadlinePassed_iff, ne_eq, h.reason?_eq_cancelled_iff, h.deadline?_eq_some_iff]

/-- A scope never outlasts the one it is derived from. -/
theorem Fits.deadline?_le (h : Fits l t) {p : Nat} {given : Option Instant}
    (hbirth : l.births[i]? = some ⟨some p, given⟩) (hp : t.deadline? p = some d) :
    ∃ d', t.deadline? i = some d' ∧ d' ≤ d := by
  have hmem : d ∈ l.given i := by
    obtain ⟨⟨a, b, above, hb, hd⟩, -⟩ := h.deadline?_eq_some_iff.1 hp
    exact ⟨a, b, .origin hbirth above, hb, hd⟩
  obtain ⟨node, hnode⟩ := h.descend.exists_node (List.getElem?_eq_some_iff.1 hbirth).1
  rw [deadline?, hnode, Option.bind_some]
  exact (h.deadline i node hnode).exists_le hmem

/-! ## One cancellation less -/

/-- `Spares k l l'`: `l` is `l'` but for a cancellation of `k`. -/
structure Lineage.Spares (k : Nat) (l l' : Lineage) : Prop where
  births : l.births = l'.births
  now : l.now = l'.now
  cancelled : ∀ a, a ≠ k → (a ∈ l.cancelled ↔ a ∈ l'.cancelled)

theorem Lineage.spares_noteCancelled (l : Lineage) (k : Nat) : Spares k (l.noteCancelled k) l where
  births := births_noteCancelled l k
  now := now_noteCancelled l k
  cancelled a ha := by
    unfold Lineage.noteCancelled
    split
    · simp [ha]
    · rfl

namespace Lineage.Spares

theorem noteDerived (h : Spares k l l') (origin : Nat) (given : Option Instant) :
    Spares k (l.noteDerived origin given) (l'.noteDerived origin given) := by
  unfold Lineage.noteDerived
  rw [h.births]
  split
  · exact ⟨rfl, h.now, h.cancelled⟩
  · exact h

theorem noteCancelled (h : Spares k l l') (j : Nat) : Spares k (l.noteCancelled j) (l'.noteCancelled j) := by
  unfold Lineage.noteCancelled
  rw [h.births]
  split
  · exact ⟨rfl, h.now, fun a ha => by simp [h.cancelled a ha]⟩
  · exact h

theorem note (h : Spares k l l') : ∀ step : Step, Spares k (l.note step) (l'.note step)
  | .root => ⟨congrArg (· ++ _) h.births, h.now, h.cancelled⟩
  | .child origin => h.noteDerived origin none
  | .timeout origin nanos => by
    rw [Lineage.note, Lineage.note, h.now]
    exact h.noteDerived origin (some (l'.now + nanos))
  | .deadline origin at' => h.noteDerived origin (some at')
  | .cancel j => h.noteCancelled j
  | .pass nanos => ⟨h.births, congrArg (· + nanos) h.now, h.cancelled⟩

theorem notes (h : Spares k l l') (steps : List Step) :
    Spares k (steps.foldl Lineage.note l) (steps.foldl Lineage.note l') := by
  induction steps generalizing l l' with
  | nil => exact h
  | cons step rest ih => exact ih (h.note step)

theorem cancelled_iff (h : Spares k l l') (hi : ¬ l.Above k i) : l.Cancelled i ↔ l'.Cancelled i := by
  have hmem : ∀ {a}, l.Above a i → (a ∈ l.cancelled ↔ a ∈ l'.cancelled) := fun above =>
    h.cancelled _ fun hk => hi (hk ▸ above)
  constructor
  · rintro ⟨a, ha, above⟩
    exact ⟨a, (hmem above).1 ha, (above_congr h.births.symm).2 above⟩
  · rintro ⟨a, ha, above⟩
    replace above := (above_congr h.births).2 above
    exact ⟨a, (hmem above).2 ha, above⟩

end Lineage.Spares

/-- Scopes that are not below a cancelled one are as if it had not been cancelled. -/
theorem Fits.reason?_eq (h : Fits l t) (h' : Fits l' t') (hspares : l.Spares k l') (hi : ¬ l.Above k i) :
    t.reason? i = t'.reason? i ∧ t.deadline? i = t'.deadline? i := by
  have hcancelled := hspares.cancelled_iff hi
  have hgiven : l.given i = l'.given i := given_congr hspares.births
  have hnow : t.now = t'.now := by rw [h.now, h'.now, hspares.now]
  constructor
  · refine Option.ext fun r => ?_
    cases r with
    | cancelled => rw [h.reason?_eq_cancelled_iff, h'.reason?_eq_cancelled_iff, hcancelled]
    | deadlinePassed =>
      rw [h.reason?_eq_deadlinePassed_iff, h'.reason?_eq_deadlinePassed_iff, hcancelled, hgiven, hnow]
  · refine Option.ext fun d => ?_
    rw [h.deadline?_eq_some_iff, h'.deadline?_eq_some_iff, hgiven]

/-! ## Waiting -/

/-- `Moment t steps m`: while `steps` are done to `t`, the tree is `m` for a moment; also in the middle of a time that
passes. -/
inductive Moment : ScopeTree → List Step → ScopeTree → Prop
  | here {t : ScopeTree} {steps : List Step} : Moment t steps t
  | within {t : ScopeTree} {k nanos : Nat} {rest : List Step} (hk : k ≤ nanos) :
    Moment t (.pass nanos :: rest) (t.pass k)
  | later {t m : ScopeTree} {step : Step} {rest : List Step} (h : Moment (t.after step) rest m) :
    Moment t (step :: rest) m

/-- `Resolves i t steps m r`: a wait for the end of the scope `i` that begins at `t`, while `steps` are done, resolves
at `m` with the reason `r`. A wait that can resolve is polled before time goes on, but anything may be done to the scopes
before that; one that cannot resolve sleeps until its alarm. -/
inductive Resolves (i : Nat) : ScopeTree → List Step → ScopeTree → EndReason → Prop
  | poll {t : ScopeTree} {steps : List Step} {r : EndReason} (h : t.pollEnd i = some r) : Resolves i t steps t r
  | act {t m : ScopeTree} {step : Step} {rest : List Step} {r : EndReason} (hnow : (t.after step).now = t.now)
    (h : Resolves i (t.after step) rest m r) : Resolves i t (step :: rest) m r
  | sleep {t m : ScopeTree} {nanos : Nat} {rest : List Step} {r : EndReason} (hpending : t.pollEnd i = none)
    (halarm : ∀ d, t.deadline? i = some d → t.now + nanos ≤ d) (h : Resolves i (t.pass nanos) rest m r) :
    Resolves i t (.pass nanos :: rest) m r
  | alarm {t : ScopeTree} {nanos : Nat} {rest : List Step} {d : Instant} {r : EndReason} (hpending : t.pollEnd i = none)
    (hd : t.deadline? i = some d) (hle : d ≤ t.now + nanos) (h : (t.pass (d - t.now)).pollEnd i = some r) :
    Resolves i t (.pass nanos :: rest) (t.pass (d - t.now)) r

/-! ### What time and steps leave -/

theorem now_derive (t : ScopeTree) (origin : Nat) (deadline : Option Instant) :
    (t.derive origin deadline).now = t.now := by
  unfold derive
  split <;> rfl

theorem now_le_now_after (t : ScopeTree) : ∀ step : Step, t.now ≤ (t.after step).now
  | .root => Nat.le_refl _
  | .child origin => (t.now_derive origin none).ge
  | .timeout origin nanos => (t.now_derive origin (some (t.now + nanos))).ge
  | .deadline origin at' => (t.now_derive origin (some at')).ge
  | .cancel _ => Nat.le_refl _
  | .pass nanos => Nat.le_add_right t.now nanos

theorem Moment.now_le (h : Moment t steps m) : t.now ≤ m.now := by
  induction h with
  | here => exact Nat.le_refl _
  | within _ => exact Nat.le_add_right ..
  | later _ ih => exact (now_le_now_after _ _).trans ih

/-- Scopes stay where they are, keep their deadlines, and stay cancelled. -/
theorem exists_node_after (h : t.nodes[i]? = some node) (step : Step) :
    ∃ node', (t.after step).nodes[i]? = some node' ∧ node'.deadline = node.deadline ∧
      (node.cancelled = true → node'.cancelled = true) := by
  have happend : ∀ added, (t.nodes ++ [added])[i]? = some node := fun added =>
    (List.getElem?_append_left (List.getElem?_eq_some_iff.1 h).1).trans h
  have hderive : ∀ origin deadline, (t.derive origin deadline).nodes[i]? = some node := by
    intro origin deadline
    unfold derive
    split
    · exact h
    · exact happend _
  cases step with
  | root => exact ⟨node, happend _, rfl, id⟩
  | child origin => exact ⟨node, hderive _ _, rfl, id⟩
  | timeout origin nanos => exact ⟨node, hderive _ _, rfl, id⟩
  | deadline origin at' => exact ⟨node, hderive _ _, rfl, id⟩
  | pass nanos => exact ⟨node, h, rfl, id⟩
  | cancel k =>
    have hspread := getElem?_spread [] (t.nodes.modify k fun node => { node with cancelled := true }) i
    rw [List.getElem?_modify, h] at hspread
    refine ⟨_, hspread, ?_, fun hmark => ?_⟩
    · by_cases hk : k = i <;> simp [hk]
    · by_cases hk : k = i <;> simp [hk, hmark]

theorem isSome_reason?_iff : (t.reason? i).isSome ↔
    ∃ node, t.nodes[i]? = some node ∧ (node.cancelled = true ∨ ∃ d, node.deadline = some d ∧ d ≤ t.now) := by
  cases hnode : t.nodes[i]? with
  | none => simp [reason?_of_none hnode]
  | some node =>
    rw [reason?_of_node hnode]
    cases hmark : node.cancelled <;> cases hdeadline : node.deadline <;> simp [hmark, hdeadline]

/-- A scope that has ended does not come back. -/
theorem isSome_reason?_after (h : (t.reason? i).isSome) (step : Step) : ((t.after step).reason? i).isSome := by
  obtain ⟨node, hnode, hended⟩ := isSome_reason?_iff.1 h
  obtain ⟨node', hnode', hdeadline, hmark⟩ := exists_node_after hnode step
  refine isSome_reason?_iff.2 ⟨node', hnode', hended.imp hmark ?_⟩
  rintro ⟨d, hd, hle⟩
  exact ⟨d, hdeadline.trans hd, hle.trans (now_le_now_after t step)⟩

/-- Time ends a scope only by its deadline. -/
theorem exists_deadline_of_pass (hpending : t.reason? i = none) (h : ((t.pass k).reason? i).isSome) :
    ∃ d, t.deadline? i = some d ∧ d ≤ t.now + k := by
  obtain ⟨node, hnode, hended⟩ := isSome_reason?_iff.1 h
  have hnode' : t.nodes[i]? = some node := hnode
  rcases hended with hmark | ⟨d, hd, hle⟩
  · have hsome : (t.reason? i).isSome := isSome_reason?_iff.2 ⟨node, hnode', .inl hmark⟩
    simp [hpending] at hsome
  · exact ⟨d, by rw [deadline?, hnode', Option.bind_some, hd], hle⟩

theorem now_lt_of_pending (hpending : t.reason? i = none) (hd : t.deadline? i = some d) : t.now < d := by
  obtain ⟨node, hnode, hdeadline⟩ := Option.bind_eq_some_iff.1 hd
  refine Nat.lt_of_not_le fun hle => ?_
  have hsome : (t.reason? i).isSome := isSome_reason?_iff.2 ⟨node, hnode, .inr ⟨d, hdeadline, hle⟩⟩
  simp [hpending] at hsome

/-- The alarm of a pending wait finds that the deadline has passed. -/
theorem reason?_pass_alarm (hpending : t.reason? i = none) (hd : t.deadline? i = some d) :
    (t.pass (d - t.now)).reason? i = some .deadlinePassed := by
  have hnow : (t.pass (d - t.now)).now = d := Nat.add_sub_cancel' (now_lt_of_pending hpending hd).le
  refine reason?_eq_deadlinePassed_iff.2 ⟨fun hcancelled => ?_, d, hd, hnow.ge⟩
  obtain ⟨node, hnode, hmark⟩ := reason?_eq_cancelled_iff.1 hcancelled
  have hbefore : t.reason? i = some .cancelled := reason?_eq_cancelled_iff.2 ⟨node, hnode, hmark⟩
  simp [hpending] at hbefore

/-! ### The first instant -/

/-- A wait resolves at the first instant at which the scope has ended, with the reason that it has then. -/
theorem Resolves.sound (h : Resolves i t steps m r) :
    Moment t steps m ∧ m.reason? i = some r ∧ ∀ m', Moment t steps m' → (m'.reason? i).isSome → m.now ≤ m'.now := by
  induction h with
  | poll h =>
    rw [pollEnd_eq_reason?] at h
    exact ⟨.here, h, fun m' hm' _ => hm'.now_le⟩
  | @act t m step rest r hnow _ ih =>
    obtain ⟨hmoment, hreason, hfirst⟩ := ih
    refine ⟨.later hmoment, hreason, fun m' hm' hsome => ?_⟩
    have hnext : t.now ≤ m.now := hnow.ge.trans hmoment.now_le
    cases hm' with
    | here => exact (hfirst _ .here (isSome_reason?_after hsome step)).trans hnow.le
    | @within _ k nanos _ hk =>
      -- no time passes in the step
      obtain rfl : nanos = 0 := by simpa [after, pass] using hnow
      obtain rfl : k = 0 := Nat.le_zero.1 hk
      exact hfirst _ .here hsome
    | later hm' => exact hfirst m' hm' hsome
  | @sleep t m nanos rest r hpending halarm _ ih =>
    rw [pollEnd_eq_reason?] at hpending
    obtain ⟨hmoment, hreason, hfirst⟩ := ih
    refine ⟨.later hmoment, hreason, fun m' hm' hsome => ?_⟩
    cases hm' with
    | here => simp [hpending] at hsome
    | @within _ k _ _ hk =>
      obtain ⟨d, hd, hle⟩ := exists_deadline_of_pass hpending hsome
      obtain rfl : k = nanos := Nat.le_antisymm hk (Nat.add_le_add_iff_left.1 ((halarm d hd).trans hle))
      exact hfirst _ .here hsome
    | later hm' => exact hfirst m' hm' hsome
  | @alarm t nanos rest d r hpending hd hle h =>
    rw [pollEnd_eq_reason?] at hpending h
    have hlt := now_lt_of_pending hpending hd
    have hnow : (t.pass (d - t.now)).now = d := Nat.add_sub_cancel' hlt.le
    refine ⟨.within (Nat.sub_le_iff_le_add'.2 hle), h, fun m' hm' hsome => hnow.le.trans ?_⟩
    cases hm' with
    | here => simp [hpending] at hsome
    | within _ =>
      obtain ⟨d', hd', hle'⟩ := exists_deadline_of_pass hpending hsome
      obtain rfl : d = d' := Option.some.inj (hd.symm.trans hd')
      exact hle'
    | later hm' => exact hle.trans hm'.now_le

/-- A wait for the end of a scope that ends while the steps are done resolves. -/
theorem exists_resolves (h : Moment t steps m) (hsome : (m.reason? i).isSome) : ∃ m r, Resolves i t steps m r := by
  induction steps generalizing t with
  | nil =>
    cases h with
    | here =>
      obtain ⟨r, hr⟩ := Option.isSome_iff_exists.1 hsome
      exact ⟨_, r, .poll ((pollEnd_eq_reason? ..).trans hr)⟩
  | cons step rest ih =>
    cases hpoll : t.pollEnd i with
    | some r => exact ⟨t, r, .poll hpoll⟩
    | none =>
      have hpending : t.reason? i = none := (pollEnd_eq_reason? t i).symm.trans hpoll
      -- the scope ends in the step or later
      by_cases hpass : ∃ nanos, step = .pass nanos
      · obtain ⟨nanos, rfl⟩ := hpass
        by_cases halarm : ∃ d, t.deadline? i = some d ∧ d ≤ t.now + nanos
        · obtain ⟨d, hd, hle⟩ := halarm
          exact ⟨_, _, .alarm hpoll hd hle ((pollEnd_eq_reason? ..).trans (reason?_pass_alarm hpending hd))⟩
        · cases h with
          | here => simp [hpending] at hsome
          | within hk =>
            obtain ⟨d, hd, hle⟩ := exists_deadline_of_pass hpending hsome
            exact absurd ⟨d, hd, hle.trans (Nat.add_le_add_left hk t.now)⟩ halarm
          | later h =>
            obtain ⟨m, r, hres⟩ := ih h
            exact ⟨m, r, .sleep hpoll (fun d hd => (Nat.lt_of_not_le fun hle => halarm ⟨d, hd, hle⟩).le) hres⟩
      · have hnow : (t.after step).now = t.now := by
          cases step with
          | root => rfl
          | child origin => exact now_derive ..
          | timeout origin nanos => exact now_derive ..
          | deadline origin at' => exact now_derive ..
          | cancel k => rfl
          | pass nanos => exact absurd ⟨nanos, rfl⟩ hpass
        cases h with
        | here => simp [hpending] at hsome
        | within hk => exact absurd ⟨_, rfl⟩ hpass
        | later h =>
          obtain ⟨m, r, hres⟩ := ih h
          exact ⟨m, r, .act hnow hres⟩

theorem await_of_sleep {nanos : Nat} (hpending : t.pollEnd i = none)
    (halarm : ∀ d, t.deadline? i = some d → t.now + nanos ≤ d) :
    t.await i nanos = (t.pass nanos, (t.pass nanos).pollEnd i) := by
  rw [await, hpending]
  cases hd : t.deadline? i with
  | none => rfl
  | some d =>
    simp only [Nat.min_eq_right (halarm d hd)]
    rfl

theorem await_of_alarm {nanos : Nat} (hpending : t.pollEnd i = none) (hd : t.deadline? i = some d)
    (hle : d ≤ t.now + nanos) : t.await i nanos = (t.pass (d - t.now), (t.pass (d - t.now)).pollEnd i) := by
  have hlt := now_lt_of_pending ((pollEnd_eq_reason? t i).symm.trans hpending) hd
  have hpass : t.pass (d - t.now) = { t with now := d } := by rw [pass, Nat.add_sub_cancel' hlt.le]
  rw [await, hpending, hpass]
  simp only [hd, Nat.min_eq_left hle]

/-- Waiting with a limit is waiting while nothing but time goes on. -/
theorem await_eq_some_iff {nanos : Nat} : t.await i nanos = (m, some r) ↔ Resolves i t [.pass nanos] m r := by
  constructor
  · intro h
    cases hpoll : t.pollEnd i with
    | some r' =>
      rw [await, hpoll] at h
      cases h
      exact .poll hpoll
    | none =>
      by_cases halarm : ∃ d, t.deadline? i = some d ∧ d ≤ t.now + nanos
      · obtain ⟨d, hd, hle⟩ := halarm
        rw [await_of_alarm hpoll hd hle] at h
        obtain ⟨rfl, hr⟩ := Prod.mk.inj h
        exact .alarm hpoll hd hle hr
      · have hsleep : ∀ d, t.deadline? i = some d → t.now + nanos ≤ d := fun d hd =>
          (Nat.lt_of_not_le fun hle => halarm ⟨d, hd, hle⟩).le
        rw [await_of_sleep hpoll hsleep] at h
        obtain ⟨rfl, hr⟩ := Prod.mk.inj h
        exact .sleep hpoll hsleep (.poll hr)
  · intro h
    cases h with
    | poll h => rw [await, h]
    | act hnow h =>
      -- no time to pass
      obtain rfl : nanos = 0 := by simpa [after, pass] using hnow
      cases h with
      | poll h => rw [await, show t.pollEnd i = some r from h]; rfl
    | sleep hpending halarm h =>
      cases h with
      | poll h => rw [await_of_sleep hpending halarm, h]
    | alarm hpending hd hle h => rw [await_of_alarm hpending hd hle, h]

/-! ## Every history -/

/-- After any history, at any instant: a scope is cancelled exactly if it or one above it was; otherwise its time is up
exactly if the least deadline given on its line has come. That is its deadline, which is never later than that of the
scope it is derived from. A cancellation leaves the scopes that are not below as they would be without it, whatever
follows. And a wait for its end, whatever is done meanwhile, resolves if the scope ends, at the first instant at which
it has ended, with the reason that is seen when the wait is polled; so does a wait with a limit, while nothing is done
but time passes. -/
theorem play_ends (steps : List Step) (i : Nat) :
    ((play steps).reason? i = some .cancelled ↔ (Lineage.of steps).Cancelled i) ∧
    ((play steps).reason? i = some .deadlinePassed ↔
      ¬ (Lineage.of steps).Cancelled i ∧ ∃ d, IsLeast ((Lineage.of steps).given i) d ∧ d ≤ (play steps).now) ∧
    (∀ d, (play steps).deadline? i = some d ↔ IsLeast ((Lineage.of steps).given i) d) ∧
    (∀ p given, (Lineage.of steps).births[i]? = some ⟨some p, given⟩ →
      ∀ d, (play steps).deadline? p = some d → ∃ d', (play steps).deadline? i = some d' ∧ d' ≤ d) ∧
    (∀ k rest, ¬ (Lineage.of (steps ++ .cancel k :: rest)).Above k i →
      (play (steps ++ .cancel k :: rest)).reason? i = (play (steps ++ rest)).reason? i ∧
      (play (steps ++ .cancel k :: rest)).deadline? i = (play (steps ++ rest)).deadline? i) ∧
    (∀ rest m r, Resolves i (play steps) rest m r →
      m.reason? i = some r ∧
      IsLeast {d | ∃ m', Moment (play steps) rest m' ∧ (m'.reason? i).isSome ∧ m'.now = d} m.now) ∧
    (∀ rest m', Moment (play steps) rest m' → (m'.reason? i).isSome → ∃ m r, Resolves i (play steps) rest m r) ∧
    ∀ nanos m r, (play steps).await i nanos = (m, some r) ↔ Resolves i (play steps) [.pass nanos] m r := by
  obtain ⟨-, hfits⟩ := fits_play steps
  refine ⟨hfits.reason?_eq_cancelled_iff, hfits.reason?_eq_deadlinePassed_iff, fun d => hfits.deadline?_eq_some_iff,
    fun p given hbirth d hp => hfits.deadline?_le hbirth hp, ?_, ?_, ?_, fun _ _ _ => await_eq_some_iff⟩
  · intro k rest hi
    have hspares : Spares k (Lineage.of (steps ++ .cancel k :: rest)) (Lineage.of (steps ++ rest)) := by
      simp only [Lineage.of, List.foldl_append, List.foldl_cons]
      exact (spares_noteCancelled _ k).notes rest
    exact (fits_play _).2.reason?_eq (fits_play _).2 hspares hi
  · intro rest m r h
    obtain ⟨hmoment, hreason, hfirst⟩ := h.sound
    refine ⟨hreason, ⟨m, hmoment, Option.isSome_iff_exists.2 ⟨r, hreason⟩, rfl⟩, ?_⟩
    rintro d ⟨m', hm', hsome, rfl⟩
    exact hfirst m' hm' hsome
  · exact fun rest m' hm' hsome => exists_resolves hm' hsome

/-- A child of a scope with five nanoseconds: it keeps the deadline, does not feel the end of a scope beside it, and a
wait for its end resolves. -/
theorem play_ends_child_of_timeout :
    (∃ d, (play [.root, .timeout 0 5, .child 1, .child 0]).deadline? 2 = some d ∧ d ≤ 5) ∧
    (play [.root, .timeout 0 5, .child 1, .child 0, .cancel 3]).reason? 2 =
      (play [.root, .timeout 0 5, .child 1, .child 0]).reason? 2 ∧
    ∃ m r, Resolves 2 (play [.root, .timeout 0 5, .child 1, .child 0]) [.pass 9] m r ∧ m.reason? 2 = some r := by
  obtain ⟨-, -, -, hparent, hcancel, hsound, hresolves, -⟩ := play_ends [.root, .timeout 0 5, .child 1, .child 0] 2
  have hbeside : ¬ (Lineage.of [.root, .timeout 0 5, .child 1, .child 0, .cancel 3]).Above 3 2 := by
    rintro (_ | ⟨h, above⟩)
    cases h
    rcases above with _ | ⟨h, above⟩
    cases h
    rcases above with _ | ⟨h, above⟩
    cases h
  obtain ⟨m, r, hmr⟩ := hresolves [.pass 9] _ (.within (by decide : 5 ≤ 9)) (by decide)
  exact ⟨hparent 1 none rfl 5 rfl, (hcancel 3 [] hbeside).1, m, r, hmr, (hsound [.pass 9] m r hmr).1⟩

end MailReconciler.ScopeTree
