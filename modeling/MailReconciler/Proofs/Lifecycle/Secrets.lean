/-
What passwords influence. Chores are what is done through a client of an account in memory: its calls, the life of
resources, observations by identifier, and what others do to the account and the breaker. Each makes one call at most
(`Alike`), and so chores with masked passwords do to a masked world what the chores do (`play_masked`): two sequences
of chores that differ in their passwords alone cannot be told apart by what they yield or leave, but for the passwords
that are kept.
-/
import MailReconciler.Proofs.Account.Secrets
import MailReconciler.Proofs.Client.Images
import MailReconciler.Proofs.Client.Spending
import MailReconciler.Proofs.Lifecycle.Visit

namespace MailReconciler

open Work (Images)

/-- The same world with masked passwords. -/
abbrev World.masked : World Account → World Account := World.mapRemote Account.masked

variable {α : Type} {policy : Policy} {scope : Scope}

/-! ## Calls -/

theorem Account.images_perform {call : Call α} (h : ∀ desired ∈ call.desired?, desired.GivesPassword) :
    Images Account.masked (Account.service.perform call) (Account.service.perform call.masked) := by
  have hanswer : ∀ a : Account, a.masked.answer call.masked = _ := fun a => a.answer_masked h
  refine .act (fun _ a => (congrArg Prod.snd (hanswer a)).symm) fun _ a => ?_
  show Images Account.masked (.done (a.answer call).1) (.done (a.masked.answer call.masked).1)
  rw [hanswer]
  exact .done _

theorem Account.ends_call (scope : Scope) (call : Call α) (now : Instant) :
    ((Account.client policy).call scope call).Ends (fun _ _ => True) now := by
  have hanswer : ∀ t, (Account.service.perform call).Ends (fun _ _ => True) t := fun _ _ => trivial
  exact MailReconciler.ends_call hanswer now

namespace Lifecycle

/-- Work that is decided at once, or that makes one call and ends with what it makes of the answer; and the same work
with a masked call. -/
inductive Alike (policy : Policy) (scope : Scope) : Work (World Account) (Except CallFailure α) →
    Work (World Account) (Except CallFailure α) → Prop
  | decided (result : Except CallFailure α) : Alike policy scope (.done result) (.done result)
  | asks {β : Type} {call : Call β} (f : Except CallFailure β → Except CallFailure α) :
      (∀ desired ∈ call.desired?, desired.GivesPassword) →
      Alike policy scope (((Account.client policy).call scope call).bind fun answer => .done (f answer))
        (((Account.client policy).call scope call.masked).bind fun answer => .done (f answer))

variable {work work' : Work (World Account) (Except CallFailure α)}

theorem Alike.images (h : Alike policy scope work work') : Images World.masked work work' := by
  cases h with
  | decided result => exact .done result
  | @asks _ call f hgives =>
    exact (images_call scope call.name_masked (Account.images_perform hgives)).bind fun answer => .done (f answer)

theorem Alike.ends (h : Alike policy scope work work') (now : Instant) : work.Ends (fun _ _ => True) now := by
  cases h with
  | decided result => trivial
  | @asks _ call f hgives => exact Work.ends_bind.2 ((Account.ends_call scope call now).mono fun _ _ _ => trivial)

/-! ## The life of a resource -/

section Life

variable (policy scope)

theorem alike_call {call : Call α} (h : ∀ desired ∈ call.desired?, desired.GivesPassword) :
    Alike policy scope ((Account.client policy).call scope call)
      ((Account.client policy).call scope call.masked) := by
  have halike := @Alike.asks α policy scope α call (fun answer => answer) h
  rw [Work.bind_done, Work.bind_done] at halike
  exact halike

/-- A call that carries no desired state. -/
theorem alike_of_none {β : Type} {call : Call β} (h : call.desired? = none)
    (f : Except CallFailure β → Except CallFailure α) :
    Alike policy scope (((Account.client policy).call scope call).bind fun answer => .done (f answer))
      (((Account.client policy).call scope call).bind fun answer => .done (f answer)) := by
  have hgives : ∀ desired ∈ call.desired?, desired.GivesPassword := by
    rw [h]
    intro _ hin
    cases hin
  have halike := @Alike.asks α policy scope β call f hgives
  rw [Call.masked_of_none h] at halike
  exact halike

theorem desired?_get (p : Place) : p.get.desired? = none := by cases p <;> rfl

theorem desired?_delete (p : Place) : p.delete.desired? = none := by cases p <;> rfl

theorem place_masked (name : String) (desired : Desired) : desired.masked.place name = desired.place name := by
  cases desired <;> rfl

theorem metBy_masked (desired : Desired) (observed : Observed) :
    desired.masked.metBy observed = desired.metBy observed := by
  cases desired <;> cases observed <;> rfl

theorem alike_observe (name : String) (desired : Desired) :
    Alike policy scope (observe (Account.client policy) scope name desired)
      (observe (Account.client policy) scope name desired.masked) := by
  cases hname : name.isEmpty with
  | true =>
    unfold observe
    rw [hname]
    exact .decided _
  | false =>
    rw [observe_eq _ _ hname, observe_eq _ _ hname, place_masked]
    simp only [metBy_masked]
    exact alike_of_none policy scope (desired?_get _) _

theorem alike_delete (name : String) (desired : Desired) :
    Alike policy scope (delete (Account.client policy) scope name desired)
      (delete (Account.client policy) scope name desired.masked) := by
  rw [delete_eq, delete_eq, place_masked]
  exact alike_of_none policy scope (desired?_delete _) gone

theorem alike_observeById (kind : ResourceKind) (domain : Option String) (id : String) :
    Alike policy scope (observeById (Account.client policy) scope kind domain id)
      (observeById (Account.client policy) scope kind domain id) := by
  cases hplace : Place.ofId? kind domain id with
  | none =>
    obtain ⟨e, he⟩ := observeById_of_none (Account.client policy) scope hplace
    rw [he]
    exact .decided _
  | some p =>
    rw [observeById_of_some _ _ hplace]
    exact alike_of_none policy scope (desired?_get p) _

theorem alike_createBy {check check' : Except ApiFailure Unit} (hcheck : check' = check) {call : Call α}
    (h : ∀ desired ∈ call.desired?, desired.GivesPassword) (name : α → String) :
    Alike policy scope (createBy (Account.client policy) scope check call name)
      (createBy (Account.client policy) scope check' call.masked name) := by
  unfold createBy
  rw [hcheck, Call.name_masked]
  cases check with
  | error e => exact .decided _
  | ok _ => exact .asks (·.map name) h

theorem alike_callOnly {call : Call α} (h : ∀ desired ∈ call.desired?, desired.GivesPassword) :
    Alike policy scope (callOnly (Account.client policy) scope call)
      (callOnly (Account.client policy) scope call.masked) :=
  .asks (·.map fun _ => ()) h

theorem alike_create {desired : Desired} (h : desired.GivesPassword) :
    Alike policy scope (create (Account.client policy) scope desired)
      (create (Account.client policy) scope desired.masked) := by
  have hgives : ∀ d ∈ some desired, d.GivesPassword := fun d hd => Option.some.inj hd ▸ h
  cases desired with
  | credential c =>
    refine alike_createBy policy scope (CredentialSpec.check_masked (h c rfl)) ?_ _
    exact hgives
  | domain _ | route _ | mailingList _ | webhook _ | template _ | bounce _ | complaint _ | unsubscribe _ =>
    refine alike_createBy policy scope ?_ ?_ _
    · rfl
    · exact hgives

theorem alike_checked (operation : String) {check check' : Except ApiFailure Unit} (hcheck : check' = check)
    (h : Alike policy scope work work') :
    Alike policy scope (checked operation check work) (checked operation check' work') := by
  rw [hcheck]
  cases check with
  | error e => exact .decided _
  | ok _ => exact h

theorem Alike.bind (h : Alike policy scope work work') {β : Type} (f : Except CallFailure α → Except CallFailure β) :
    Alike policy scope (work.bind fun answer => .done (f answer)) (work'.bind fun answer => .done (f answer)) := by
  cases h with
  | decided result => exact .decided _
  | asks g hgives =>
    rw [Work.bind_assoc, Work.bind_assoc]
    exact .asks (fun answer => f (g answer)) hgives

theorem alike_update (name : String) {desired : Desired} (h : desired.GivesPassword) :
    Alike policy scope (update (Account.client policy) scope name desired)
      (update (Account.client policy) scope name desired.masked) := by
  have hgives : ∀ d ∈ some desired, d.GivesPassword := fun d hd => Option.some.inj hd ▸ h
  cases desired with
  | domain _ | template _ =>
    refine alike_callOnly policy scope ?_
    exact hgives
  | route _ | mailingList _ | webhook _ =>
    refine alike_checked policy scope _ rfl (alike_callOnly policy scope ?_)
    exact hgives
  | credential c =>
    refine alike_checked policy scope _ (CredentialSpec.check_masked (h c rfl)) (alike_callOnly policy scope ?_)
    exact hgives
  | bounce _ | complaint _ | unsubscribe _ => exact (alike_create policy scope h).bind _ _ (·.map fun _ => ())

end Life

end Lifecycle

/-! ## Chores -/

/-- What is done to an account through its client or beside it, by the type of what it yields. -/
inductive Chore : Type → Type 1
  | call {α : Type} (scope : Scope) (call : Call α) : Chore α
  | observe (scope : Scope) (name : String) (desired : Desired) : Chore Observation
  | create (scope : Scope) (desired : Desired) : Chore String
  | update (scope : Scope) (name : String) (desired : Desired) : Chore Unit
  | delete (scope : Scope) (name : String) (desired : Desired) : Chore Unit
  | observeById (scope : Scope) (kind : ResourceKind) (domain : Option String) (id : String) : Chore (Option Json)
  /-- Failures are put before the next calls. -/
  | failNext (n : Nat) (e : ApiFailure) : Chore Unit
  /-- The breaker is closed by hand. -/
  | reset : Chore Unit
  /-- The clock of the breaker is moved by hand. -/
  | advance (nanos : Nat) : Chore Unit
  /-- Time passes. -/
  | pass (nanos : Nat) : Chore Unit

namespace Chore

/-- The work of a chore. -/
def work (policy : Policy) : {α : Type} → Chore α → Work (World Account) (Except CallFailure α)
  | _, .call scope asked => (Account.client policy).call scope asked
  | _, .observe scope name desired => Lifecycle.observe (Account.client policy) scope name desired
  | _, .create scope desired => Lifecycle.create (Account.client policy) scope desired
  | _, .update scope name desired => Lifecycle.update (Account.client policy) scope name desired
  | _, .delete scope name desired => Lifecycle.delete (Account.client policy) scope name desired
  | _, .observeById scope kind domain id => Lifecycle.observeById (Account.client policy) scope kind domain id
  | _, .failNext n e => do
    Work.change fun _ w => w.setRemote (w.state.remote.failNext n e)
    return .ok ()
  | _, .reset => do
    Work.change fun _ w => w.reset
    return .ok ()
  | _, .advance nanos => do
    Work.change fun _ w => { w with state := { w.state with clock := w.state.clock.advance nanos } }
    return .ok ()
  | _, .pass nanos => do
    Work.sleep nanos
    return .ok ()

/-- The desired state that a chore carries. -/
def desired? {α : Type} : Chore α → Option Desired
  | .call _ asked => asked.desired?
  | .observe _ _ desired | .create _ desired | .update _ _ desired | .delete _ _ desired => some desired
  | _ => none

/-- The same chore with masked passwords. -/
def masked : {α : Type} → Chore α → Chore α
  | _, .call scope asked => .call scope asked.masked
  | _, .observe scope name desired => .observe scope name desired.masked
  | _, .create scope desired => .create scope desired.masked
  | _, .update scope name desired => .update scope name desired.masked
  | _, .delete scope name desired => .delete scope name desired.masked
  | _, chore => chore

/-- The credential of a chore, if it carries one, has a password that is not blank. -/
def GivesPassword (chore : Chore α) : Prop := ∀ desired ∈ chore.desired?, desired.GivesPassword

/-- What a chore carries as it is written out: as JSON, and a credential as diagnostics show it. -/
def written (chore : Chore α) : Option Json × Option String :=
  (chore.desired?.map Desired.toJson, chore.desired?.bind Desired.describe?)

theorem desired?_masked (chore : Chore α) : chore.masked.desired? = chore.desired?.map Desired.masked := by
  cases chore with
  | call scope asked => exact asked.desired?_masked
  | _ => rfl

/-- Masked passwords leave what is written as it is. -/
theorem written_masked (chore : Chore α) : chore.masked.written = chore.written := by
  unfold written
  rw [desired?_masked]
  cases chore.desired? with
  | none => rfl
  | some desired =>
    simp only [Option.map_some, Option.bind_some, Desired.toJson_masked, Desired.describe?_masked]

/-- A chore is over at some time, and it has an image under the mask. -/
theorem images_and_ends (policy : Policy) {chore : Chore α} (h : chore.GivesPassword) :
    Images World.masked (chore.work policy) (chore.masked.work policy) ∧
      ∀ now, (chore.work policy).Ends (fun _ _ => True) now := by
  have hlife : ∀ {scope : Scope}, Lifecycle.Alike policy scope (chore.work policy) (chore.masked.work policy) →
      Images World.masked (chore.work policy) (chore.masked.work policy) ∧
        ∀ now, (chore.work policy).Ends (fun _ _ => True) now := fun halike => ⟨halike.images, halike.ends⟩
  cases chore with
  | call scope asked => exact hlife (Lifecycle.alike_call policy scope h)
  | observe scope name desired => exact hlife (Lifecycle.alike_observe policy scope name desired)
  | create scope desired => exact hlife (Lifecycle.alike_create policy scope (h desired rfl))
  | update scope name desired => exact hlife (Lifecycle.alike_update policy scope name (h desired rfl))
  | delete scope name desired => exact hlife (Lifecycle.alike_delete policy scope name desired)
  | observeById scope kind domain id => exact hlife (Lifecycle.alike_observeById policy scope kind domain id)
  | failNext n e => exact ⟨.act (fun _ _ => rfl) fun _ _ => .done _, fun _ _ => trivial⟩
  | reset => exact ⟨.act (fun _ _ => rfl) fun _ _ => .done _, fun _ _ => trivial⟩
  | advance nanos => exact ⟨.act (fun _ _ => rfl) fun _ _ => .done _, fun _ _ => trivial⟩
  | pass nanos => exact ⟨.act (fun _ _ => rfl) fun _ _ => .wait _ (.done _), fun _ _ => trivial⟩

end Chore

/-- Chores that are done one after the other. -/
abbrev Chores : Type 1 := List (Σ α : Type, Chore α)

namespace Chores

/-- Does chores one after the other from an instant on: what they yield, the instant of the end, and the world then. -/
def play (policy : Policy) : Chores → Instant → World Account →
    Option (List (Σ α : Type, Except CallFailure α) × Instant × World Account)
  | [], now, w => some ([], now, w)
  | chore :: rest, now, w => ((chore.2.work policy).run now w).bind fun r =>
    (play policy rest r.2.1 r.2.2).map fun done => (⟨chore.1, r.1⟩ :: done.1, done.2)

/-- The same chores with masked passwords. -/
def masked (chores : Chores) : Chores := chores.map fun chore => ⟨chore.1, chore.2.masked⟩

variable {chores : Chores}

theorem play_of_run {chore : Σ α : Type, Chore α} {now t : Instant} {w w' : World Account}
    {result : Except CallFailure chore.1} (h : (chore.2.work policy).run now w = some (result, t, w')) :
    play policy (chore :: chores) now w =
      (chores.play policy t w').map fun done => (⟨chore.1, result⟩ :: done.1, done.2) := by
  rw [play, h, Option.bind_some]

theorem play_masked (h : ∀ chore ∈ chores, chore.2.GivesPassword) (now : Instant) (w : World Account) :
    ∃ outcomes t w', chores.play policy now w = some (outcomes, t, w') ∧
      chores.masked.play policy now w.masked = some (outcomes, t, w'.masked) := by
  induction chores generalizing now w with
  | nil => exact ⟨[], now, w, rfl, rfl⟩
  | cons chore rest ih =>
    obtain ⟨hfirst, hrest⟩ := List.forall_mem_cons.1 h
    obtain ⟨himages, hends⟩ := Chore.images_and_ends policy hfirst
    obtain ⟨result, t, w₁, hrun, -⟩ := (hends now).run w
    have hmasked := himages.run now w
    rw [hrun] at hmasked
    obtain ⟨outcomes, u, w', hplay, hplayMasked⟩ := ih hrest t w₁
    refine ⟨⟨chore.1, result⟩ :: outcomes, u, w', ?_, ?_⟩
    · rw [play_of_run hrun, hplay]
      rfl
    · have hfirstMasked : play policy (⟨chore.1, chore.2.masked⟩ :: masked rest) now w.masked = _ :=
        play_of_run hmasked
      rw [hplayMasked] at hfirstMasked
      exact hfirstMasked

/-- What chores carry is written out in the same way when it is masked. -/
theorem written_masked (chores : Chores) :
    chores.masked.map (fun chore => chore.2.written) = chores.map fun chore => chore.2.written := by
  unfold masked
  rw [List.map_map]
  exact List.map_congr_left fun chore _ => chore.2.written_masked

/-- Passwords do not influence anything that can be seen. Two sequences of chores that differ in their passwords alone,
those of credentials never blank, in two worlds that differ in nothing but the passwords that are kept: both come to an
end, at the same instant and with the same outcomes; what they carry is written out in the same way; and they leave the
same samples, breaker, clock, counts of calls and failures that wait, and the same resources at every place. Only when
the password of a credential is asked for can the answers be different, but not in whether there is one. -/
theorem outcomes_independent_of_passwords {first second : Chores} (hsame : first.masked = second.masked)
    (hfirst : ∀ chore ∈ first, chore.2.GivesPassword) (hsecond : ∀ chore ∈ second, chore.2.GivesPassword)
    {w v : World Account} (hworld : w.masked = v.masked) (policy : Policy) (now : Instant) :
    ∃ outcomes t w' v', first.play policy now w = some (outcomes, t, w') ∧
      second.play policy now v = some (outcomes, t, v') ∧
      first.map (fun chore => chore.2.written) = second.map (fun chore => chore.2.written) ∧
      w'.masked = v'.masked ∧ w'.samples = v'.samples ∧ w'.random = v'.random ∧
      w'.state.breaker = v'.state.breaker ∧ w'.state.clock = v'.state.clock ∧
      w'.state.remote.calls = v'.state.remote.calls ∧ w'.state.remote.failures = v'.state.remote.failures ∧
      (∀ place, w'.state.remote.holdings.at? place = v'.state.remote.holdings.at? place) ∧
      ∀ domain login, (w'.state.remote.password? domain login).isSome =
        (v'.state.remote.password? domain login).isSome := by
  obtain ⟨outcomes, t, w', hplay, hmasked⟩ := @play_masked policy first hfirst now w
  obtain ⟨outcomes', t', v', hplay', hmasked'⟩ := @play_masked policy second hsecond now v
  rw [hsame, hworld, hmasked', Option.some.injEq, Prod.mk.injEq, Prod.mk.injEq] at hmasked
  obtain ⟨rfl, rfl, hafter⟩ := hmasked
  have hremote : v'.state.remote.masked = w'.state.remote.masked := congrArg (fun w => w.state.remote) hafter
  have hholdings : v'.state.remote.holdings.masked = w'.state.remote.holdings.masked :=
    congrArg Account.holdings hremote
  refine ⟨_, _, w', v', hplay, hplay', ?_, hafter.symm, (congrArg (fun w => w.samples) hafter).symm,
    (congrArg (fun w => w.random) hafter).symm, (congrArg (fun w => w.state.breaker) hafter).symm,
    (congrArg (fun w => w.state.clock) hafter).symm, (congrArg Account.calls hremote).symm,
    (congrArg Account.failures hremote).symm, fun place => ?_, fun domain login => ?_⟩
  · rw [← written_masked first, hsame, written_masked]
  · rw [← Holdings.at?_masked, ← hholdings, Holdings.at?_masked]
  · have hpassword := congrArg (fun a => (Account.password? a domain login).isSome) hremote
    simp only [Account.password?_masked, Option.isSome_map] at hpassword
    exact hpassword.symm

/-- A domain and a login are set up, the password is changed, and the login is looked for. -/
def settingUp (smtpPassword : Option String) (first second : String) : Chores :=
  [⟨_, .create .endless (.domain { name := "mg.io", smtpPassword })⟩,
    ⟨_, .call .endless (.createCredential ⟨"mg.io", "alerts", first⟩)⟩,
    ⟨_, .update .endless "alerts@mg.io" (.credential ⟨"mg.io", "alerts", second⟩)⟩,
    ⟨_, .observeById .endless .credential (some "mg.io") "alerts"⟩]

theorem gives_settingUp (smtpPassword : Option String) {first second : String} (hfirst : Text.isBlankText first = false)
    (hsecond : Text.isBlankText second = false) :
    ∀ chore ∈ settingUp smtpPassword first second, chore.2.GivesPassword := by
  refine List.forall_mem_cons.2 ⟨?_, List.forall_mem_cons.2 ⟨?_, List.forall_mem_cons.2 ⟨?_,
    List.forall_mem_singleton.2 ?_⟩⟩⟩
  · rintro _ ⟨⟩ c hc
    cases hc
  · rintro _ ⟨⟩ c ⟨⟩
    exact hfirst
  · rintro _ ⟨⟩ c ⟨⟩
    exact hsecond
  · intro desired h
    cases h

/-- A world with an account without resources. -/
def freshWorld : World Account := ⟨[], .cycle [], ⟨⟨"mailgun", {}, .closed, .closed, 0, 0, none⟩, .ofRun, {}⟩⟩

/-- Two accounts are set up with different passwords: all outcomes are the same, and each keeps its own password. -/
theorem two_passwords_kept : ∃ outcomes t w' v',
    (settingUp (some "tulip") "iris" "rose").play .api 0 freshWorld = some (outcomes, t, w') ∧
    (settingUp none "aster" "peony").play .api 0 freshWorld = some (outcomes, t, v') ∧
    outcomes.length = 4 ∧ w'.samples = v'.samples ∧
    w'.state.remote.password? "mg.io" "alerts" = some "rose" ∧
    v'.state.remote.password? "mg.io" "alerts" = some "peony" := by
  have hrose : ((settingUp (some "tulip") "iris" "rose").play .api 0 freshWorld).map (fun r =>
    (r.1.length, r.2.2.state.remote.password? "mg.io" "alerts")) = some (4, some "rose") := by decide +kernel
  have hpeony : ((settingUp none "aster" "peony").play .api 0 freshWorld).map (fun r =>
    (r.1.length, r.2.2.state.remote.password? "mg.io" "alerts")) = some (4, some "peony") := by decide +kernel
  obtain ⟨outcomes, t, w', v', hplay, hplay', -, -, hsamples, -⟩ := @outcomes_independent_of_passwords
    (settingUp (some "tulip") "iris" "rose") (settingUp none "aster" "peony") rfl
    (gives_settingUp _ (by decide) (by decide)) (gives_settingUp _ (by decide) (by decide)) freshWorld freshWorld rfl
    .api 0
  rw [hplay, Option.map_some, Option.some.injEq, Prod.mk.injEq] at hrose
  rw [hplay', Option.map_some, Option.some.injEq, Prod.mk.injEq] at hpeony
  exact ⟨outcomes, t, w', v', hplay, hplay', hrose.1, hsamples, hrose.2, hpeony.2⟩

end Chores
end MailReconciler
