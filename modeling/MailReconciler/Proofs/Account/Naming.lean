/-
Under which names an account keeps its resources. Whatever calls have made of it, each resource stands under the name
that it bears itself, and the identifier of a route is the text of a number that was given out (`Filed`). Routes and
templates share one row of numbers, and each that is created takes the next one (`lastId_foldl`); so a new route finds
its place free, and at no time before has a route stood there.
-/
import MailReconciler.Proofs.Account.Counting
import MailReconciler.Proofs.Account.Order

namespace MailReconciler

/-! ## Hexadecimal texts -/

namespace Text

/-- A text of as many lower-case hexadecimal digits as given, which stand for a number. -/
structure IsHex (width n : Nat) (text : String) : Prop where
  length : text.toList.length = width
  digits : ∀ c ∈ text.toList, c ∈ "0123456789abcdef".toList
  value : hexValue text.toList = n

theorem digitChar_mem_hex : ∀ d < 16, Nat.digitChar d ∈ "0123456789abcdef".toList := by decide

theorem mem_toDigits_hex (n : Nat) : ∀ c ∈ Nat.toDigits 16 n, c ∈ "0123456789abcdef".toList := by
  induction n using Nat.strongRecOn with
  | ind n ih =>
    have hbase : 1 < 16 := by decide
    rcases Nat.lt_or_ge n 16 with hlt | hge
    · rw [Nat.toDigits_of_lt_base hlt]
      intro c hc
      obtain rfl := List.mem_singleton.1 hc
      exact digitChar_mem_hex n hlt
    · rw [Nat.toDigits_of_base_le hbase hge]
      intro c hc
      rcases List.mem_append.1 hc with hc | hc
      · exact ih (n / 16) (by omega) c hc
      · obtain rfl := List.mem_singleton.1 hc
        exact digitChar_mem_hex _ (Nat.mod_lt _ (by decide))

end Text

namespace Holdings

/-- The identifier of a number of sixty-four bits has twenty-four digits. -/
theorem isHex_routeId {n : Nat} (hn : n < UInt64.size) : Text.IsHex 24 n (routeId n) := by
  have hbase : 1 < 16 := by decide
  have hlength : (Nat.toDigits 16 n).length ≤ 24 := by
    rw [Nat.length_toDigits_le_iff hbase (by decide)]
    exact Nat.lt_of_lt_of_le hn (by decide)
  have htext : (routeId n).toList =
      List.replicate (24 - (Nat.toDigits 16 n).length) '0' ++ Nat.toDigits 16 n := by
    unfold routeId Text.hex
    rw [String.toList_append, String.toList_ofList, String.toList_ofList, String.length_ofList]
  refine ⟨?_, ?_, hexValue_routeId n⟩
  · rw [htext, List.length_append, List.length_replicate]
    omega
  · rw [htext]
    intro c hc
    rcases List.mem_append.1 hc with hc | hc
    · obtain rfl := List.eq_of_mem_replicate hc
      decide
    · exact Text.mem_toDigits_hex n c hc

end Holdings

/-! ## Names -/

/-- Each value of a table stands under a key that fits it. -/
def Table.Fits {κ ν : Type} [DecidableEq κ] (t : Table κ ν) (fits : κ → ν → Prop) : Prop :=
  ∀ k v, t.get? k = some v → fits k v

namespace Table

variable {κ ν : Type} [DecidableEq κ] {t : Table κ ν} {fits fits' : κ → ν → Prop} {k : κ} {v : ν}

theorem fits_empty : (empty : Table κ ν).Fits fits := fun _ _ h => by cases h

theorem Fits.mono (h : t.Fits fits) (himp : ∀ k v, fits k v → fits' k v) : t.Fits fits' :=
  fun k v hv => himp k v (h k v hv)

theorem Fits.insert (h : t.Fits fits) (hv : fits k v) : (t.insert k v).Fits fits := by
  intro k' v' hget
  by_cases hk : k' = k
  · rw [hk, get?_insert_self] at hget
    rw [hk, ← Option.some.inj hget]
    exact hv
  · rw [get?_insert_of_ne t v hk] at hget
    exact h k' v' hget

theorem Fits.erase (h : t.Fits fits) (k : κ) : (t.erase k).Fits fits := by
  intro k' v' hget
  by_cases hk : k' = k
  · rw [hk, get?_erase_self] at hget
    cases hget
  · rw [get?_erase_of_ne t hk] at hget
    exact h k' v' hget

end Table

/-- A login that is a full address. -/
def IsAddress (login : String) : Prop := '@' ∈ login.toList

theorem isAddress_qualifyLogin (login domain : String) : IsAddress (qualifyLogin login domain) := by
  unfold IsAddress qualifyLogin
  split
  · next hat => exact List.contains_iff_mem.1 hat
  · rw [String.toList_append, String.toList_append]
    exact List.mem_append_left _ (List.mem_append_right _ List.mem_cons_self)

namespace Holdings

/-- The resources stand under the names that they bear, those that belong to a domain also under a domain. -/
structure Named (h : Holdings) : Prop where
  domains : h.domains.Fits fun name state => state.name = name
  routes : h.routes.Fits fun id state => state.id = id
  lists : h.lists.Fits fun address state => state.address = address
  webhooks : h.webhooks.Fits fun key state => state.domain = key.1 ∧ state.event = key.2
  credentials : h.credentials.Fits fun key kept => kept.1.login = key.2 ∧ IsAddress key.2
  templates : h.templates.Fits fun key state => state.name = key.2
  bounces : h.bounces.Fits fun key state => state.address = key.2
  complaints : h.complaints.Fits fun key state => state.address = key.2
  unsubscribes : h.unsubscribes.Fits fun key state => state.address = key.2

/-- The identifier of a number that has been given out. -/
def GivenOut (h : Holdings) (id : String) : Prop := ∃ n, 1 ≤ n ∧ n ≤ h.lastId ∧ id = routeId n

/-- The resources stand under their names, and the routes under identifiers that were given out. -/
structure Filed (h : Holdings) : Prop where
  named : h.Named
  routes : h.routes.Fits fun id _ => h.GivenOut id

theorem filed_empty : ({} : Holdings).Filed :=
  ⟨⟨Table.fits_empty, Table.fits_empty, Table.fits_empty, Table.fits_empty, Table.fits_empty, Table.fits_empty,
    Table.fits_empty, Table.fits_empty, Table.fits_empty⟩, Table.fits_empty⟩

/-- What is kept at a place bears its name; a route also has an identifier that was given out. -/
def Bears (h : Holdings) : (p : Place) → p.Kept → Prop
  | .domain name, state => DomainState.name state = name
  | .route id, state => RouteState.id state = id ∧ h.GivenOut id
  | .mailingList address, state => MailingListState.address state = address
  | .webhook d event, state => WebhookState.domain state = d ∧ WebhookState.event state = event
  | .credential d login, kept => CredentialState.login (Prod.fst kept) = qualifyLogin login d
  | .template _ name, state => TemplateState.name state = name
  | .bounce _ address, state => BounceState.address state = address
  | .complaint _ address, state => ComplaintState.address state = address
  | .unsubscribe _ address, state => UnsubscribeState.address state = address

variable {h h' : Holdings} {p : Place}

/-! ## What calls keep -/

/-- What is kept at a place of filed resources bears its name. -/
theorem Filed.bears (hf : h.Filed) {kept : p.Kept} (hk : h.kept? p = some kept) : h.Bears p kept := by
  cases p with
  | domain name => exact hf.named.domains _ _ hk
  | route id => exact ⟨hf.named.routes _ _ hk, hf.routes _ _ hk⟩
  | mailingList address => exact hf.named.lists _ _ hk
  | webhook d event => exact hf.named.webhooks _ _ hk
  | credential d login => exact (hf.named.credentials _ _ hk).1
  | template d name => exact hf.named.templates _ _ hk
  | bounce d address => exact hf.named.bounces _ _ hk
  | complaint d address => exact hf.named.complaints _ _ hk
  | unsubscribe d address => exact hf.named.unsubscribes _ _ hk

theorem Filed.keep (hf : h.Filed) {kept : p.Kept} (hb : h.Bears p kept) : (h.keep p (some kept)).Filed := by
  have hn := hf.named
  cases p with
  | domain name => exact ⟨{ hn with domains := hn.domains.insert hb }, hf.routes⟩
  | route id => exact ⟨{ hn with routes := hn.routes.insert hb.1 }, hf.routes.insert hb.2⟩
  | mailingList address => exact ⟨{ hn with lists := hn.lists.insert hb }, hf.routes⟩
  | webhook d event => exact ⟨{ hn with webhooks := hn.webhooks.insert hb }, hf.routes⟩
  | credential d login =>
    exact ⟨{ hn with credentials := hn.credentials.insert ⟨hb, isAddress_qualifyLogin login d⟩ }, hf.routes⟩
  | template d name => exact ⟨{ hn with templates := hn.templates.insert hb }, hf.routes⟩
  | bounce d address => exact ⟨{ hn with bounces := hn.bounces.insert hb }, hf.routes⟩
  | complaint d address => exact ⟨{ hn with complaints := hn.complaints.insert hb }, hf.routes⟩
  | unsubscribe d address => exact ⟨{ hn with unsubscribes := hn.unsubscribes.insert hb }, hf.routes⟩

theorem Filed.without (hf : h.Filed) (p : Place) : (h.without p).Filed := by
  have hn := hf.named
  cases p with
  | domain name => exact ⟨{ hn with domains := hn.domains.erase name }, hf.routes⟩
  | route id => exact ⟨{ hn with routes := hn.routes.erase id }, hf.routes.erase id⟩
  | mailingList address => exact ⟨{ hn with lists := hn.lists.erase address }, hf.routes⟩
  | webhook d event => exact ⟨{ hn with webhooks := hn.webhooks.erase _ }, hf.routes⟩
  | credential d login => exact ⟨{ hn with credentials := hn.credentials.erase _ }, hf.routes⟩
  | template d name => exact ⟨{ hn with templates := hn.templates.erase _ }, hf.routes⟩
  | bounce d address => exact ⟨{ hn with bounces := hn.bounces.erase _ }, hf.routes⟩
  | complaint d address => exact ⟨{ hn with complaints := hn.complaints.erase _ }, hf.routes⟩
  | unsubscribe d address => exact ⟨{ hn with unsubscribes := hn.unsubscribes.erase _ }, hf.routes⟩

theorem Filed.numbered (hf : h.Filed) : h.numbered.Filed :=
  ⟨{ hf.named with }, hf.routes.mono fun _ _ ⟨n, hpos, hle, hid⟩ => ⟨n, hpos, Nat.le_succ_of_le hle, hid⟩⟩

theorem lastId_without (h : Holdings) (p : Place) : (h.without p).lastId = h.lastId := by
  cases p <;> rfl

end Holdings

/-- Whether a call gives a number to what it creates. -/
def Call.takesNumber {α : Type} : Call α → Bool
  | .createRoute _ | .createTemplate _ => true
  | _ => false

namespace Holdings

variable {h h' : Holdings}

/-- A call leaves the resources under their names, and gives out a number if it creates a route or a template. -/
theorem Filed.perform {α : Type} {call : Call α} {value : α} (hf : h.Filed) (hp : h.perform call = .ok (value, h')) :
    h'.Filed ∧ h'.lastId = h.lastId + call.takesNumber.toNat := by
  have gets (p : Place) {state : p.State} (hp : h.perform p.get = .ok (state, h')) :
      h'.Filed ∧ h'.lastId = h.lastId := by
    obtain ⟨-, rfl⟩ := perform_get hp
    exact ⟨hf, rfl⟩
  have deletes (p : Place) {done : Unit} (hp : h.perform p.delete = .ok (done, h')) :
      h'.Filed ∧ h'.lastId = h.lastId := by
    obtain rfl := perform_delete hp
    exact ⟨hf.without p, h.lastId_without p⟩
  cases call with
  | createDomain d =>
    obtain ⟨-, -, rfl⟩ := perform_createDomain hp
    exact ⟨hf.keep (p := .domain d.name) rfl, rfl⟩
  | getDomain name => exact gets (.domain name) hp
  | updateDomain name d =>
    obtain ⟨old, hold, rfl⟩ := perform_updateDomain hp
    have hb := hf.bears hold
    exact ⟨hf.keep (p := .domain name) hb, rfl⟩
  | deleteDomain name => exact deletes (.domain name) hp
  | createRoute r =>
    obtain ⟨-, rfl⟩ := perform_createRoute hp
    exact ⟨hf.numbered.keep (p := .route _) ⟨rfl, h.nextId, Nat.succ_pos _, Nat.le_refl _, rfl⟩, rfl⟩
  | getRoute id => exact gets (.route id) hp
  | updateRoute id r =>
    obtain ⟨old, hold, rfl⟩ := perform_updateRoute hp
    have hb := hf.bears hold
    exact ⟨hf.keep (p := .route id) hb, rfl⟩
  | deleteRoute id => exact deletes (.route id) hp
  | createMailingList l =>
    obtain ⟨-, -, rfl⟩ := perform_createMailingList hp
    exact ⟨hf.keep (p := .mailingList l.address) rfl, rfl⟩
  | getMailingList address => exact gets (.mailingList address) hp
  | updateMailingList address l =>
    obtain ⟨old, -, rfl⟩ := perform_updateMailingList hp
    exact ⟨(hf.without (.mailingList address)).keep (p := .mailingList l.address) rfl, rfl⟩
  | deleteMailingList address => exact deletes (.mailingList address) hp
  | createWebhook w =>
    obtain ⟨-, -, rfl⟩ := perform_createWebhook hp
    exact ⟨hf.keep (p := .webhook w.domain w.event) ⟨rfl, rfl⟩, rfl⟩
  | getWebhook d event => exact gets (.webhook d event) hp
  | updateWebhook w =>
    obtain ⟨old, hold, rfl⟩ := perform_updateWebhook hp
    have hb := hf.bears hold
    exact ⟨hf.keep (p := .webhook w.domain w.event) hb, rfl⟩
  | deleteWebhook d event => exact deletes (.webhook d event) hp
  | createCredential c =>
    obtain ⟨-, rfl⟩ := perform_createCredential hp
    exact ⟨hf.keep (p := .credential c.domain c.login) rfl, rfl⟩
  | getCredential d login => exact gets (.credential d login) hp
  | updatePassword c =>
    obtain ⟨old, hold, rfl⟩ := perform_updatePassword hp
    have hb := hf.bears hold
    exact ⟨hf.keep (p := .credential c.domain c.login) hb, rfl⟩
  | deleteCredential d login => exact deletes (.credential d login) hp
  | createTemplate t =>
    obtain ⟨-, -, rfl⟩ := perform_createTemplate hp
    exact ⟨hf.numbered.keep (p := .template t.domain t.name) rfl, rfl⟩
  | getTemplate d name => exact gets (.template d name) hp
  | updateTemplate t =>
    obtain ⟨old, hold, rfl⟩ := perform_updateTemplate hp
    have hb := hf.bears hold
    exact ⟨hf.keep (p := .template t.domain t.name) hb, rfl⟩
  | deleteTemplate d name => exact deletes (.template d name) hp
  | createBounce b =>
    obtain rfl := perform_createBounce hp
    exact ⟨hf.keep (p := .bounce b.domain b.address) rfl, rfl⟩
  | getBounce d address => exact gets (.bounce d address) hp
  | deleteBounce d address => exact deletes (.bounce d address) hp
  | createComplaint c =>
    obtain rfl := perform_createComplaint hp
    exact ⟨hf.keep (p := .complaint c.domain c.address) rfl, rfl⟩
  | getComplaint d address => exact gets (.complaint d address) hp
  | deleteComplaint d address => exact deletes (.complaint d address) hp
  | createUnsubscribe u =>
    obtain rfl := perform_createUnsubscribe hp
    exact ⟨hf.keep (p := .unsubscribe u.domain u.address) rfl, rfl⟩
  | getUnsubscribe d address => exact gets (.unsubscribe d address) hp
  | deleteUnsubscribe d address => exact deletes (.unsubscribe d address) hp

end Holdings

/-! ## Runs -/

namespace Account

/-- Whether a deed creates a route or a template, which then bears a number. -/
def numbers (a : Account) : Deed → Bool
  | .call call => call.takesNumber && (answerInPlace call a).1.isOk
  | .failNext _ _ => false

/-- How many routes and templates are created when some deeds are done one after the other. -/
def creations (a : Account) : List Deed → Nat
  | [] => 0
  | deed :: rest => (a.numbers deed).toNat + (a.after deed).creations rest

variable {a : Account}

theorem filed_after (hf : a.holdings.Filed) (deed : Deed) : (a.after deed).holdings.Filed ∧
    (a.after deed).holdings.lastId = a.holdings.lastId + (a.numbers deed).toNat := by
  cases deed with
  | failNext n e => exact ⟨hf, rfl⟩
  | call call =>
    show (answerInPlace call a).2.holdings.Filed ∧ (answerInPlace call a).2.holdings.lastId =
      a.holdings.lastId + (call.takesNumber && (answerInPlace call a).1.isOk).toNat
    rw [answerInPlace_eq]
    have ha := a.answers call
    generalize (a.answer call).1 = outcome, (a.answer call).2 = b at ha ⊢
    cases ha with
    | refused _ | injected _ _ | failed _ _ _ =>
      -- a call that fails numbers nothing
      rw [Bool.and_comm]
      exact ⟨hf, rfl⟩
    | carriedOut _ _ hp =>
      rw [Bool.and_comm]
      exact hf.perform hp

theorem filed_foldl (deeds : List Deed) (hf : a.holdings.Filed) : (deeds.foldl after a).holdings.Filed ∧
    (deeds.foldl after a).holdings.lastId = a.holdings.lastId + a.creations deeds := by
  induction deeds generalizing a with
  | nil => exact ⟨hf, rfl⟩
  | cons deed rest ih =>
    obtain ⟨hafter, hnumber⟩ := filed_after hf deed
    obtain ⟨hrest, hlast⟩ := ih hafter
    rw [List.foldl_cons, hlast, hnumber, creations, Nat.add_assoc]
    exact ⟨hrest, rfl⟩

/-- A fresh account after the first of some deeds. -/
def stage (deeds : List Deed) (k : Nat) : Account := (deeds.take k).foldl after {}

theorem stage_succ {deeds : List Deed} {k : Nat} {deed : Deed} (hk : deeds[k]? = some deed) :
    stage deeds (k + 1) = (stage deeds k).after deed := by
  unfold stage
  rw [List.take_add_one, hk, List.foldl_append]
  rfl

theorem filed_stage (deeds : List Deed) (k : Nat) : (stage deeds k).holdings.Filed :=
  (filed_foldl _ Holdings.filed_empty).1

/-- Numbers that have been given out stay so. -/
theorem lastId_stage_mono (deeds : List Deed) {j k : Nat} (hjk : j ≤ k) :
    (stage deeds j).holdings.lastId ≤ (stage deeds k).holdings.lastId := by
  obtain ⟨more, hmore⟩ : deeds.take j <+: deeds.take k := List.take_prefix_take_left hjk
  have hlast := (filed_foldl more (filed_stage deeds j)).2
  unfold stage at hlast ⊢
  rw [← hmore, List.foldl_append, hlast]
  exact Nat.le_add_right _ _

theorem lastId_stage_le (deeds : List Deed) (k : Nat) :
    (stage deeds k).holdings.lastId ≤ creations {} deeds := by
  have hle := lastId_stage_mono deeds (Nat.le_max_left k deeds.length)
  unfold stage at hle ⊢
  rw [List.take_of_length_le (Nat.le_max_right k deeds.length), (filed_foldl deeds Holdings.filed_empty).2] at hle
  exact Nat.le_trans hle (Nat.le_of_eq (Nat.zero_add _))

/-! ## Numbers -/

/-- A deed creates a route or a template that bears a number in its identifier. -/
inductive Takes (a : Account) (n : Nat) : Deed → Prop
  | route {r : RouteSpec} {state : RouteState} : (answerInPlace (.createRoute r) a).1 = .ok state →
      Text.IsHex 24 n state.id → Takes a n (.call (.createRoute r))
  | template {t : TemplateSpec} {state : TemplateState} : (answerInPlace (.createTemplate t) a).1 = .ok state →
      state.id = "tmpl-" ++ toString n → Takes a n (.call (.createTemplate t))

theorem answer_of_ok {α : Type} {call : Call α} {value : α} (h : (answerInPlace call a).1 = .ok value) :
    a.holdings.perform call = .ok (value, (answerInPlace call a).2.holdings) := by
  rw [answerInPlace_eq] at h ⊢
  have ha := a.answers call
  generalize (a.answer call).2 = b at ha ⊢
  rw [h] at ha
  cases ha with
  | carriedOut _ _ hp => exact hp

/-- What a deed creates bears the next number, and that is given out then. -/
theorem Takes.eq_next {n : Nat} {deed : Deed} (h : Takes a n deed) :
    n = a.holdings.nextId ∧ (a.after deed).holdings.lastId = n := by
  cases h with
  | @route r state hstate hid =>
    obtain ⟨rfl, hh⟩ := Holdings.perform_createRoute (answer_of_ok hstate)
    have hn : n = a.holdings.nextId := hid.value.symm.trans (Holdings.hexValue_routeId _)
    refine ⟨hn, ?_⟩
    show (answerInPlace (.createRoute r) a).2.holdings.lastId = n
    rw [hh, hn]
    rfl
  | @template t state hstate hid =>
    obtain ⟨-, rfl, hh⟩ := Holdings.perform_createTemplate (answer_of_ok hstate)
    -- the number is read back from its digits
    have hdigits : n.repr = a.holdings.nextId.repr := ((String.append_right_inj "tmpl-").1 hid).symm
    have hn : n = a.holdings.nextId := by
      simpa using congrArg (fun text => Nat.ofDigitChars 10 text.toList 0) hdigits
    refine ⟨hn, ?_⟩
    show (answerInPlace (.createTemplate t) a).2.holdings.lastId = n
    rw [hh, hn]
    rfl

/-- What creates a route or a template has a number. -/
theorem exists_takes {deed : Deed} (h : a.numbers deed = true)
    (hlast : (a.after deed).holdings.lastId < UInt64.size) : ∃ n, Takes a n deed := by
  cases deed with
  | failNext n e => cases h
  | call call =>
    obtain ⟨htakes, hok⟩ : call.takesNumber = true ∧ (answerInPlace call a).1.isOk = true := by
      rwa [← Bool.and_eq_true]
    cases hanswer : (answerInPlace call a).1 with
    | error e => rw [hanswer] at hok; cases hok
    | ok state =>
      cases call with
      | createRoute r =>
        obtain ⟨hstate, hh⟩ := Holdings.perform_createRoute (answer_of_ok hanswer)
        change (answerInPlace (.createRoute r) a).2.holdings.lastId < UInt64.size at hlast
        rw [hh] at hlast
        refine ⟨a.holdings.nextId, .route hanswer ?_⟩
        rw [hstate]
        exact Holdings.isHex_routeId hlast
      | createTemplate t =>
        obtain ⟨-, hstate, -⟩ := Holdings.perform_createTemplate (answer_of_ok hanswer)
        exact ⟨a.holdings.nextId, .template hanswer (by rw [hstate]; rfl)⟩
      | _ => cases htakes

/-- What is created later has a greater number. -/
theorem Takes.lt {deeds : List Deed} {j k m n : Nat} {deed deed' : Deed} (hjk : j < k) (hj : deeds[j]? = some deed)
    (hm : Takes (stage deeds j) m deed) (hn : Takes (stage deeds k) n deed') : m < n := by
  obtain ⟨-, hlast⟩ := hm.eq_next
  rw [← stage_succ hj] at hlast
  have hle := lastId_stage_mono deeds (Nat.succ_le_of_lt hjk)
  rw [hlast] at hle
  rw [hn.eq_next.1]
  exact Nat.lt_succ_of_le hle

/-- To create a route fails only if its parameters are refused or a failure waits. -/
theorem refused_or_waiting {r : RouteSpec} {e : ApiFailure} (h : (answerInPlace (.createRoute r) a).1 = .error e) :
    check (.createRoute r) = .error e ∨ a.failures.head? = some e := by
  rw [answerInPlace_eq] at h
  have ha := a.answers (.createRoute r)
  generalize (a.answer (.createRoute r)).2 = b at ha
  rw [h] at ha
  cases ha with
  | refused hc => exact .inl hc
  | injected _ hf => exact .inr (by rw [hf]; rfl)
  | failed _ _ hp => cases hp

/-- No route has stood at any time where the next one will stand. -/
theorem get?_stage_next (deeds : List Deed) {j k : Nat} (hjk : j ≤ k) :
    (stage deeds j).holdings.routes.get? (Holdings.routeId (stage deeds k).holdings.nextId) = none := by
  cases hget : (stage deeds j).holdings.routes.get? (Holdings.routeId (stage deeds k).holdings.nextId) with
  | none => rfl
  | some state =>
    obtain ⟨n, -, hle, hid⟩ := (filed_stage deeds j).routes _ _ hget
    have hnext : (stage deeds k).holdings.lastId + 1 = n := Holdings.routeId_injective hid
    have hmono := lastId_stage_mono deeds hjk
    omega

/-- Of any deeds on a fresh account, by which fewer than 2^64 routes and templates are created, the following is true.
Each resource stands under the name that it bears, and each route under the twenty-four digits of a number that has been
given out; as many are given out as routes and templates have been created. What is created has a number in its
identifier, and a greater one than all that was created before. To create a route fails only if its parameters are
refused or a failure waits; else the route stands where none has stood at any time before, and the others stay. -/
theorem entries_named_and_numbered (deeds : List Deed) (h : creations {} deeds < UInt64.size) :
    (deeds.foldl after {}).holdings.Named ∧
    (∀ id state, (deeds.foldl after {}).holdings.routes.get? id = some state →
      ∃ n, 1 ≤ n ∧ n ≤ (deeds.foldl after {}).holdings.lastId ∧ Text.IsHex 24 n id) ∧
    (deeds.foldl after {}).holdings.lastId = creations {} deeds ∧
    (∀ k deed, deeds[k]? = some deed → (stage deeds k).numbers deed = true → ∃ n, Takes (stage deeds k) n deed) ∧
    (∀ j k deed deed' m n, j < k → deeds[j]? = some deed → deeds[k]? = some deed' →
      Takes (stage deeds j) m deed → Takes (stage deeds k) n deed' → m < n) ∧
    ∀ k r, deeds[k]? = some (.call (.createRoute r)) →
      (∀ e, (answerInPlace (.createRoute r) (stage deeds k)).1 = .error e →
        check (.createRoute r) = .error e ∨ (stage deeds k).failures.head? = some e) ∧
      ∀ state, (answerInPlace (.createRoute r) (stage deeds k)).1 = .ok state →
        (∀ j ≤ k, (stage deeds j).holdings.routes.get? state.id = none) ∧
        (stage deeds (k + 1)).holdings.routes.get? state.id = some state ∧
        ∀ id, id ≠ state.id → (stage deeds (k + 1)).holdings.routes.get? id =
          (stage deeds k).holdings.routes.get? id := by
  obtain ⟨hfiled, hlast⟩ := filed_foldl (a := {}) deeds Holdings.filed_empty
  have hcount : (deeds.foldl after {}).holdings.lastId = creations {} deeds := hlast.trans (Nat.zero_add _)
  refine ⟨hfiled.named, ?_, hcount, ?_, ?_, ?_⟩
  · intro id state hget
    obtain ⟨n, hpos, hle, rfl⟩ := hfiled.routes id state hget
    exact ⟨n, hpos, hle, Holdings.isHex_routeId (by omega)⟩
  · intro k deed hk hnumbers
    have hle := lastId_stage_le deeds (k + 1)
    rw [stage_succ hk] at hle
    exact exists_takes hnumbers (Nat.lt_of_le_of_lt hle h)
  · intro j k deed deed' m n hjk hj _ hm hn
    exact hm.lt hjk hj hn
  · intro k r hk
    refine ⟨fun e => refused_or_waiting, fun state hstate => ?_⟩
    obtain ⟨rfl, hh⟩ := Holdings.perform_createRoute (answer_of_ok hstate)
    have hafter : (stage deeds (k + 1)).holdings = (answerInPlace (.createRoute r) (stage deeds k)).2.holdings := by
      rw [stage_succ hk]
      rfl
    rw [hafter, hh]
    exact ⟨fun j hjk => get?_stage_next deeds hjk, Table.get?_insert_self .., fun id hne =>
      Table.get?_insert_of_ne _ _ hne⟩

/-- A route that catches all messages. -/
def catchAll : RouteSpec := { expression := "catch_all()", actions := ["stop()"] }

/-- A route is created and deleted, a template is created, and then a route again at the second try. -/
def revival : List Deed :=
  [.call (.createRoute catchAll), .call (.deleteRoute "000000000000000000000001"),
    .call (.createTemplate { domain := "mg.io", name := "welcome", template := "Hello" }),
    .failNext 1 (.status "POST" "/v3/routes" 503 "busy"), .call (.createRoute catchAll),
    .call (.createRoute catchAll)]

/-- The new route has the third number, under which none has stood before, and not that of the deleted one. -/
theorem deleted_number_not_reused :
    creations {} revival < UInt64.size ∧
    (answerInPlace (.createRoute catchAll) (stage revival 5)).1 =
      .ok (Holdings.routeOf "000000000000000000000003" catchAll) ∧
    (∀ j ≤ 5, (stage revival j).holdings.routes.get? "000000000000000000000003" = none) ∧
    (stage revival 6).holdings.routes.get? "000000000000000000000003" =
      some (Holdings.routeOf "000000000000000000000003" catchAll) ∧
    (revival.foldl after {}).holdings.lastId = 3 := by
  have hcreations : creations {} revival = 3 := by decide
  have hfew : creations {} revival < UInt64.size := by rw [hcreations]; decide
  have hanswer : (answerInPlace (.createRoute catchAll) (stage revival 5)).1 =
      .ok (Holdings.routeOf "000000000000000000000003" catchAll) := by decide
  obtain ⟨-, -, hlast, -, -, hroutes⟩ := entries_named_and_numbered revival hfew
  obtain ⟨hbefore, hstands, -⟩ := (hroutes 5 catchAll rfl).2 _ hanswer
  exact ⟨hfew, hanswer, hbefore, hstands, hlast.trans hcreations⟩

end Account
end MailReconciler
