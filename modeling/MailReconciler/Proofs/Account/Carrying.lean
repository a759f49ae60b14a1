/-
What an account does when it carries a call out, said once for each call. To look a resource up changes nothing, to
delete one clears its place, and to create or change one settles what is kept at one place; only a mailing list may move
to another place while it is changed.
-/
import MailReconciler.Proofs.Account.Answer
import MailReconciler.Proofs.Account.Contents
import MailReconciler.Resource.Vocabulary

namespace MailReconciler

namespace Holdings

/-! ## Lookups that succeed -/

section Lookups

variable {κ ν β : Type} [DecidableEq κ] {t : Table κ ν} {k : κ} {failure : ApiFailure} {r : β}

theorem of_bind_find {f : ν → Except ApiFailure β} (h : (find t k failure >>= f) = .ok r) :
    ∃ v, t.get? k = some v ∧ f v = .ok r := by
  unfold find at h
  cases hk : t.get? k with
  | none => rw [hk] at h; cases h
  | some v => rw [hk] at h; exact ⟨v, rfl, h⟩

theorem of_bind_requireFree {f : Unit → Except ApiFailure β} (h : (requireFree t k failure >>= f) = .ok r) :
    t.get? k = none ∧ f () = .ok r := by
  unfold requireFree Table.has at h
  cases hk : t.get? k with
  | none => rw [hk] at h; exact ⟨rfl, h⟩
  | some v => rw [hk] at h; cases h

end Lookups

/-! ## Calls that are carried out -/

variable {h h' : Holdings}

/-- The number of a new resource. -/
def nextId (h : Holdings) : Nat := h.lastId + 1

/-- The same resources with one number more given out. -/
def numbered (h : Holdings) : Holdings := { h with lastId := h.nextId }

theorem kept?_numbered (h : Holdings) (p : Place) : h.numbered.kept? p = h.kept? p := by cases p <;> rfl

theorem perform_get {p : Place} {state : p.State} (hp : h.perform p.get = .ok (state, h')) :
    h.at? p = some state ∧ h' = h := by
  cases hat : h.at? p with
  | none =>
    obtain ⟨path, hmissing⟩ := perform_get_of_none hat
    rw [hmissing] at hp
    cases hp
  | some found =>
    rw [perform_get_of_some hat] at hp
    cases hp
    exact ⟨rfl, rfl⟩

theorem perform_delete {p : Place} {done : Unit} (hp : h.perform p.delete = .ok (done, h')) : h' = h.without p := by
  cases hat : h.at? p with
  | none =>
    obtain ⟨path, hmissing⟩ := perform_delete_of_none hat
    rw [hmissing] at hp
    cases hp
  | some found =>
    rw [perform_delete_of_some hat] at hp
    cases hp
    rfl

variable {name id address : String} {done : Unit}

theorem perform_createDomain {d : DomainSpec} {value : DomainState}
    (hp : h.perform (.createDomain d) = .ok (value, h')) :
    h.kept? (.domain d.name) = none ∧ value = newDomain d ∧ h' = h.keep (.domain d.name) (some (newDomain d)) := by
  obtain ⟨hfree, hp⟩ := of_bind_requireFree hp
  cases hp
  exact ⟨hfree, rfl, rfl⟩

theorem perform_updateDomain {d : DomainSpec} (hp : h.perform (.updateDomain name d) = .ok (done, h')) :
    ∃ old, h.kept? (.domain name) = some old ∧ h' = h.keep (.domain name) (some (changedDomain d old)) := by
  obtain ⟨old, hold, hp⟩ := of_bind_find hp
  cases hp
  exact ⟨old, hold, rfl⟩

theorem perform_createRoute {r : RouteSpec} {value : RouteState} (hp : h.perform (.createRoute r) = .ok (value, h')) :
    value = routeOf (routeId h.nextId) r ∧
      h' = h.numbered.keep (.route (routeId h.nextId)) (some (routeOf (routeId h.nextId) r)) := by
  obtain ⟨hvalue, hh⟩ := Prod.mk.inj (Except.ok.inj hp)
  exact ⟨hvalue.symm, hh.symm⟩

theorem perform_updateRoute {r : RouteSpec} {value : RouteState}
    (hp : h.perform (.updateRoute id r) = .ok (value, h')) :
    ∃ old, h.kept? (.route id) = some old ∧
      h' = h.keep (.route id) (some { routeOf old.id r with createdAt := old.createdAt }) := by
  obtain ⟨old, hold, hp⟩ := of_bind_find hp
  cases hp
  exact ⟨old, hold, rfl⟩

theorem perform_createMailingList {l : MailingListSpec} {value : MailingListState}
    (hp : h.perform (.createMailingList l) = .ok (value, h')) :
    h.kept? (.mailingList l.address) = none ∧ value = listOf l 0 ∧
      h' = h.keep (.mailingList l.address) (some (listOf l 0)) := by
  obtain ⟨hfree, hp⟩ := of_bind_requireFree hp
  cases hp
  exact ⟨hfree, rfl, rfl⟩

theorem perform_updateMailingList {l : MailingListSpec} {value : MailingListState}
    (hp : h.perform (.updateMailingList address l) = .ok (value, h')) :
    ∃ old, h.kept? (.mailingList address) = some old ∧
      h' = (h.without (.mailingList address)).keep (.mailingList l.address) (some (listOf l old.membersCount)) := by
  obtain ⟨old, hold, hp⟩ := of_bind_find hp
  cases hp
  exact ⟨old, hold, rfl⟩

theorem perform_createWebhook {w : WebhookSpec} {value : WebhookState}
    (hp : h.perform (.createWebhook w) = .ok (value, h')) :
    h.kept? (.webhook w.domain w.event) = none ∧ value = ⟨w.domain, w.event, w.urls⟩ ∧
      h' = h.keep (.webhook w.domain w.event) (some ⟨w.domain, w.event, w.urls⟩) := by
  obtain ⟨hfree, hp⟩ := of_bind_requireFree hp
  cases hp
  exact ⟨hfree, rfl, rfl⟩

theorem perform_updateWebhook {w : WebhookSpec} {value : WebhookState}
    (hp : h.perform (.updateWebhook w) = .ok (value, h')) :
    ∃ old : WebhookState, h.kept? (.webhook w.domain w.event) = some old ∧
      h' = h.keep (.webhook w.domain w.event) (some { old with urls := w.urls }) := by
  obtain ⟨old, hold, hp⟩ := of_bind_find hp
  cases hp
  exact ⟨old, hold, rfl⟩

theorem perform_createCredential {c : CredentialSpec} (hp : h.perform (.createCredential c) = .ok (done, h')) :
    h.kept? (.credential c.domain c.login) = none ∧
      h' = h.keep (.credential c.domain c.login) (some (credentialOf c, c.password)) := by
  obtain ⟨hfree, hp⟩ := of_bind_requireFree hp
  cases hp
  exact ⟨hfree, rfl⟩

theorem perform_updatePassword {c : CredentialSpec} (hp : h.perform (.updatePassword c) = .ok (done, h')) :
    ∃ old : CredentialState × String, h.kept? (.credential c.domain c.login) = some old ∧
      h' = h.keep (.credential c.domain c.login) (some (old.1, c.password)) := by
  obtain ⟨old, hold, hp⟩ := of_bind_find hp
  cases hp
  exact ⟨old, hold, rfl⟩

theorem perform_createTemplate {t : TemplateSpec} {value : TemplateState}
    (hp : h.perform (.createTemplate t) = .ok (value, h')) :
    h.kept? (.template t.domain t.name) = none ∧ value = templateOf h.nextId t ∧
      h' = h.numbered.keep (.template t.domain t.name) (some (templateOf h.nextId t)) := by
  obtain ⟨hfree, hp⟩ := of_bind_requireFree hp
  cases hp
  exact ⟨hfree, rfl, rfl⟩

theorem perform_updateTemplate {t : TemplateSpec} (hp : h.perform (.updateTemplate t) = .ok (done, h')) :
    ∃ old : TemplateState, h.kept? (.template t.domain t.name) = some old ∧
      h' = h.keep (.template t.domain t.name) (some { old with description := t.description.getD "" }) := by
  obtain ⟨old, hold, hp⟩ := of_bind_find hp
  cases hp
  exact ⟨old, hold, rfl⟩

theorem perform_createBounce {b : BounceSpec} (hp : h.perform (.createBounce b) = .ok (done, h')) :
    h' = h.keep (.bounce b.domain b.address) (some (bounceOf b)) := by
  cases hp
  rfl

theorem perform_createComplaint {c : ComplaintSpec} (hp : h.perform (.createComplaint c) = .ok (done, h')) :
    h' = h.keep (.complaint c.domain c.address) (some { address := c.address }) := by
  cases hp
  rfl

theorem perform_createUnsubscribe {u : UnsubscribeSpec} (hp : h.perform (.createUnsubscribe u) = .ok (done, h')) :
    h' = h.keep (.unsubscribe u.domain u.address) (some { address := u.address, tags := u.effectiveTags }) := by
  cases hp
  rfl

end Holdings
end MailReconciler
