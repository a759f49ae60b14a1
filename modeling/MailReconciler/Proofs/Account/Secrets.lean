/-
Passwords in an account. Masked, resources and parameters have the same text in the place of every password. An account
answers the masked call as it answers the call, and its resources are then the masked ones (`answer_masked`): so nothing
that it answers, counts or keeps depends on a password, except for what is kept of the passwords themselves.
-/
import MailReconciler.Lifecycle.Desired
import MailReconciler.Proofs.Account.Answer
import MailReconciler.Proofs.Account.Place

namespace MailReconciler

/-! ## Masks -/

/-- What stands in the place of a masked password. -/
def mask : String := "<redacted>"

/-- A desired credential with a masked password. -/
def CredentialSpec.masked (c : CredentialSpec) : CredentialSpec := { c with password := mask }

/-- The desired settings of a domain without its password. -/
def DomainSpec.masked (d : DomainSpec) : DomainSpec := { d with smtpPassword := none }

namespace Desired

/-- The same desired state with masked passwords. -/
def masked : Desired → Desired
  | .domain d => .domain d.masked
  | .credential c => .credential c.masked
  | desired => desired

/-- Writes a desired state as JSON. -/
def toJson : Desired → Json
  | .domain d => d.toJson
  | .route r => r.toJson
  | .mailingList l => l.toJson
  | .webhook w => w.toJson
  | .credential c => c.toJson
  | .template t => t.toJson
  | .bounce b => b.toJson
  | .complaint c => c.toJson
  | .unsubscribe u => u.toJson

/-- A desired credential as diagnostics show it. -/
def describe? : Desired → Option String
  | .credential c => some c.describe
  | _ => none

/-- A desired credential has a password that is not blank. -/
def GivesPassword (desired : Desired) : Prop := ∀ c, desired = .credential c → Text.isBlankText c.password = false

@[simp] theorem toJson_masked (desired : Desired) : desired.masked.toJson = desired.toJson := by
  cases desired <;> rfl

@[simp] theorem describe?_masked (desired : Desired) : desired.masked.describe? = desired.describe? := by
  cases desired <;> rfl

end Desired

namespace Call

variable {α : Type}

/-- The desired state that a call carries. -/
def desired? : Call α → Option Desired
  | .createDomain d | .updateDomain _ d => some (.domain d)
  | .createRoute r | .updateRoute _ r => some (.route r)
  | .createMailingList l | .updateMailingList _ l => some (.mailingList l)
  | .createWebhook w | .updateWebhook w => some (.webhook w)
  | .createCredential c | .updatePassword c => some (.credential c)
  | .createTemplate t | .updateTemplate t => some (.template t)
  | .createBounce b => some (.bounce b)
  | .createComplaint c => some (.complaint c)
  | .createUnsubscribe u => some (.unsubscribe u)
  | _ => none

/-- The same call with masked passwords. -/
def masked : {α : Type} → Call α → Call α
  | _, .createDomain d => .createDomain d.masked
  | _, .updateDomain name d => .updateDomain name d.masked
  | _, .createCredential c => .createCredential c.masked
  | _, .updatePassword c => .updatePassword c.masked
  | _, call => call

@[simp] theorem name_masked (call : Call α) : call.masked.name = call.name := by
  cases call <;> rfl

theorem masked_of_none {call : Call α} (h : call.desired? = none) : call.masked = call := by
  cases call <;> first | rfl | cases h

@[simp] theorem desired?_masked (call : Call α) : call.masked.desired? = call.desired?.map Desired.masked := by
  cases call <;> rfl

end Call

namespace Table

variable {κ ν μ : Type} [DecidableEq κ]

/-- The same keys with mapped values. -/
def mapValues (f : ν → μ) (t : Table κ ν) : Table κ μ := ⟨t.entries.map fun e => (e.1, f e.2)⟩

variable (f : ν → μ) (t : Table κ ν)

theorem get?_mapValues (k : κ) : (t.mapValues f).get? k = (t.get? k).map f := by
  unfold get? mapValues
  rw [List.find?_map, Option.map_map, Option.map_map]
  rfl

theorem erase_mapValues (k : κ) : (t.mapValues f).erase k = (t.erase k).mapValues f := by
  unfold erase mapValues
  rw [List.filter_map]
  rfl

theorem insert_mapValues (k : κ) (v : ν) : (t.mapValues f).insert k (f v) = (t.insert k v).mapValues f := by
  unfold insert
  rw [erase_mapValues]
  rfl

end Table

namespace Holdings

/-- A credential that is kept with a masked password. -/
def maskKept (kept : CredentialState × String) : CredentialState × String := (kept.1, mask)

/-- The same resources with masked passwords. -/
def masked (h : Holdings) : Holdings := { h with credentials := h.credentials.mapValues maskKept }

theorem find_mapValues {κ ν μ : Type} [DecidableEq κ] (f : ν → μ) (t : Table κ ν) (k : κ) (failure : ApiFailure) :
    find (t.mapValues f) k failure = (find t k failure).map f := by
  unfold find
  rw [Table.get?_mapValues]
  cases t.get? k <;> rfl

theorem requireFree_mapValues {κ ν μ : Type} [DecidableEq κ] (f : ν → μ) (t : Table κ ν) (k : κ)
    (failure : ApiFailure) : requireFree (t.mapValues f) k failure = requireFree t k failure := by
  unfold requireFree Table.has
  rw [Table.get?_mapValues, Option.isSome_map]

theorem bind_eq_map {ε α β γ : Type} {x : Except ε α} {k : α → Except ε β} {k' : α → Except ε γ} {g : β → γ}
    (h : ∀ a, k' a = (k a).map g) : (x >>= k') = (x >>= k).map g := by
  cases x with
  | error e => rfl
  | ok a => exact h a

theorem map_bind_eq_map {ε α α' β γ : Type} {x : Except ε α} {f : α → α'} {k : α → Except ε β}
    {k' : α' → Except ε γ} {g : β → γ} (h : ∀ a, k' (f a) = (k a).map g) : (x.map f >>= k') = (x >>= k).map g := by
  cases x with
  | error e => rfl
  | ok a => exact h a

/-- The resources with other credentials, as the answer of a call that changes nothing else. -/
def withCredentials (h : Holdings) (t : Table ScopedName (CredentialState × String)) :
    Except ApiFailure (Unit × Holdings) :=
  .ok ((), { h with credentials := t })

/-- A masked call does to masked resources what the call does. -/
theorem perform_masked {α : Type} (h : Holdings) (call : Call α) :
    h.masked.perform call.masked = (h.perform call).map fun r => (r.1, r.2.masked) := by
  cases call with
  | createCredential c =>
    show (requireFree (h.credentials.mapValues maskKept) (c.domain, c.fullLogin) _ >>= _) = _
    rw [requireFree_mapValues]
    exact bind_eq_map fun _ => congrArg (withCredentials h)
      (Table.insert_mapValues maskKept h.credentials (c.domain, c.fullLogin) (credentialOf c, c.password))
  | getCredential domain login =>
    show (find (h.credentials.mapValues maskKept) (domain, qualifyLogin login domain) _ >>= _) = _
    rw [find_mapValues]
    exact map_bind_eq_map fun _ => rfl
  | updatePassword c =>
    show (find (h.credentials.mapValues maskKept) (c.domain, c.fullLogin) _ >>= _) = _
    rw [find_mapValues]
    exact map_bind_eq_map fun old => congrArg (withCredentials h)
      (Table.insert_mapValues maskKept h.credentials (c.domain, c.fullLogin) (old.1, c.password))
  | deleteCredential domain login =>
    show (find (h.credentials.mapValues maskKept) (domain, qualifyLogin login domain) _ >>= _) = _
    rw [find_mapValues]
    exact map_bind_eq_map fun _ => congrArg (withCredentials h)
      (Table.erase_mapValues maskKept h.credentials (domain, qualifyLogin login domain))
  | createRoute _ | createBounce _ | createComplaint _ | createUnsubscribe _ => rfl
  | createDomain _ | createMailingList _ | createWebhook _ | createTemplate _
  | getDomain _ | getRoute _ | getMailingList _ | getWebhook _ _ | getTemplate _ _
  | getBounce _ _ | getComplaint _ _ | getUnsubscribe _ _ | updateDomain _ _ | updateRoute _ _ | updateMailingList _ _
  | updateWebhook _ | updateTemplate _ | deleteDomain _ | deleteRoute _ | deleteMailingList _
  | deleteWebhook _ _ | deleteTemplate _ _ | deleteBounce _ _ | deleteComplaint _ _
  | deleteUnsubscribe _ _ =>
    simp only [Call.masked, perform]
    exact bind_eq_map fun _ => rfl

end Holdings

/-! ## Answers -/

theorem CredentialSpec.check_masked {c : CredentialSpec} (h : Text.isBlankText c.password = false) :
    c.masked.check = c.check := by
  have hmask : requireText "password" mask = .ok () := rfl
  have hgiven : requireText "password" c.password = .ok () := by rw [requireText, h]; rfl
  unfold check masked
  rw [hmask, hgiven]

namespace Account

variable {α : Type} {a : Account} {call : Call α}

/-- The same account with masked passwords. -/
def masked (a : Account) : Account := { a with holdings := a.holdings.masked }

theorem check_masked (h : ∀ desired ∈ call.desired?, desired.GivesPassword) : check call.masked = check call := by
  cases call with
  | createCredential c => exact CredentialSpec.check_masked (h _ rfl c rfl)
  | _ => rfl

/-- An account answers a masked call as it answers the call, and is then the masked account. -/
theorem answer_masked (a : Account) (h : ∀ desired ∈ call.desired?, desired.GivesPassword) :
    a.masked.answer call.masked = ((a.answer call).1, (a.answer call).2.masked) := by
  have hcheck : ∀ outcome, check call = outcome → check call.masked = outcome := fun _ => (check_masked h).trans
  have hperform := Holdings.perform_masked a.holdings call
  cases hc : check call with
  | error e => rw [answer_of_refused hc, answer_of_refused (hcheck _ hc)]
  | ok _ =>
    cases hf : a.failures with
    | cons e rest =>
      have hmasked : a.masked.failures = e :: rest := hf
      rw [answer_of_injected hc hf, answer_of_injected (hcheck _ hc) hmasked, Call.name_masked]
      rfl
    | nil =>
      have hmasked : a.masked.failures = [] := hf
      cases hp : a.holdings.perform call with
      | error e =>
        rw [hp] at hperform
        rw [answer_of_failed hc hf hp, answer_of_failed (hcheck _ hc) hmasked hperform, Call.name_masked]
        rfl
      | ok done =>
        rw [hp] at hperform
        rw [answer_of_carriedOut hc hf hp, answer_of_carriedOut (hcheck _ hc) hmasked hperform, Call.name_masked]
        rfl

/-! ## What a mask leaves -/

/-- The answer about a password, from masked resources. -/
theorem password?_masked (a : Account) (domain login : String) :
    a.masked.password? domain login = (a.password? domain login).map fun _ => mask := by
  unfold password?
  show ((a.holdings.credentials.mapValues Holdings.maskKept).get? _).map (·.2) = _
  rw [Table.get?_mapValues, Option.map_map, Option.map_map]
  rfl

end Account

theorem Holdings.at?_masked (h : Holdings) (p : Place) : h.masked.at? p = h.at? p := by
  cases p with
  | credential d login =>
    show ((h.credentials.mapValues maskKept).get? _).map (·.1) = _
    rw [Table.get?_mapValues, Option.map_map]
    rfl
  | domain _ | route _ | mailingList _ | webhook _ _ | template _ _ | bounce _ _ | complaint _ _ | unsubscribe _ _ =>
    rfl

end MailReconciler
