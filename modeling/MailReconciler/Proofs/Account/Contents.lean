/-
What is kept at the places of an account, passwords included. What is kept at one place changes, and at every other
place it stays as it is (`Undisturbed`).
-/
import MailReconciler.Proofs.Account.Place
import MailReconciler.Proofs.Resource.Logins

namespace MailReconciler

namespace Table

variable {κ ν : Type} [DecidableEq κ]

/-- Gives a key a value, or takes the value away that it has. -/
def set (t : Table κ ν) (k : κ) : Option ν → Table κ ν
  | some v => t.insert k v
  | none => t.erase k

theorem get?_set_self (t : Table κ ν) (k : κ) (v : Option ν) : (t.set k v).get? k = v := by
  cases v with
  | none => exact t.get?_erase_self k
  | some v => exact t.get?_insert_self k v

theorem get?_set_of_ne (t : Table κ ν) {k l : κ} (v : Option ν) (h : l ≠ k) : (t.set k v).get? l = t.get? l := by
  cases v with
  | none => exact t.get?_erase_of_ne h
  | some v => exact t.get?_insert_of_ne v h

end Table

namespace Place

/-- The place by its full name: two places are the same exactly if they have the same. -/
def full : Place → Place
  | .credential d login => .credential d (qualifyLogin login d)
  | p => p

/-- What is kept at a place. -/
def Kept : Place → Type
  | .domain _ => DomainState
  | .route _ => RouteState
  | .mailingList _ => MailingListState
  | .webhook _ _ => WebhookState
  -- a credential is kept with its password
  | .credential _ _ => CredentialState × String
  | .template _ _ => TemplateState
  | .bounce _ _ => BounceState
  | .complaint _ _ => ComplaintState
  | .unsubscribe _ _ => UnsubscribeState

/-- What is shown of it: all but the password. -/
def shown : (p : Place) → p.Kept → p.State
  | .domain _ | .route _ | .mailingList _ | .webhook _ _ | .template _ _ | .bounce _ _ | .complaint _ _
  | .unsubscribe _ _ => id
  | .credential _ _ => Prod.fst

end Place

namespace Holdings

/-- What is kept at a place, if anything. -/
def kept? (h : Holdings) : (p : Place) → Option p.Kept
  | .domain name => h.domains.get? name
  | .route id => h.routes.get? id
  | .mailingList address => h.lists.get? address
  | .webhook d event => h.webhooks.get? (d, event)
  | .credential d login => h.credentials.get? (d, qualifyLogin login d)
  | .template d name => h.templates.get? (d, name)
  | .bounce d address => h.bounces.get? (d, address)
  | .complaint d address => h.complaints.get? (d, address)
  | .unsubscribe d address => h.unsubscribes.get? (d, address)

/-- The same resources, but something else or nothing at a place. -/
def keep (h : Holdings) : (p : Place) → Option p.Kept → Holdings
  | .domain name, kept => { h with domains := h.domains.set name kept }
  | .route id, kept => { h with routes := h.routes.set id kept }
  | .mailingList address, kept => { h with lists := h.lists.set address kept }
  | .webhook d event, kept => { h with webhooks := h.webhooks.set (d, event) kept }
  | .credential d login, kept => { h with credentials := h.credentials.set (d, qualifyLogin login d) kept }
  | .template d name, kept => { h with templates := h.templates.set (d, name) kept }
  | .bounce d address, kept => { h with bounces := h.bounces.set (d, address) kept }
  | .complaint d address, kept => { h with complaints := h.complaints.set (d, address) kept }
  | .unsubscribe d address, kept => { h with unsubscribes := h.unsubscribes.set (d, address) kept }

variable {h : Holdings} {p q : Place}

/-- What is shown at a place is what is kept there. -/
theorem at?_eq (h : Holdings) (p : Place) : h.at? p = (h.kept? p).map p.shown := by
  cases p with
  | credential _ _ => rfl
  | domain _ | route _ | mailingList _ | webhook _ _ | template _ _ | bounce _ _ | complaint _ _ | unsubscribe _ _ =>
    exact (congrFun Option.map_id _).symm

theorem without_eq_keep (h : Holdings) (p : Place) : h.without p = h.keep p none := by
  cases p <;> rfl

@[simp] theorem kept?_keep_self (h : Holdings) (p : Place) (kept : Option p.Kept) : (h.keep p kept).kept? p = kept := by
  cases p <;> exact Table.get?_set_self ..

/-- What is kept at a place is kept nowhere else. -/
theorem kept?_keep_of_ne (h : Holdings) (kept : Option p.Kept) (hne : q.full ≠ p.full) :
    (h.keep p kept).kept? q = h.kept? q := by
  -- the tables of other kinds are the same, and in the table of the kind the key is another one
  cases p with
  | domain name => cases q with
    | domain other => exact Table.get?_set_of_ne _ _ fun he => hne (by rw [he])
    | _ => rfl
  | route id => cases q with
    | route other => exact Table.get?_set_of_ne _ _ fun he => hne (by rw [he])
    | _ => rfl
  | mailingList address => cases q with
    | mailingList other => exact Table.get?_set_of_ne _ _ fun he => hne (by rw [he])
    | _ => rfl
  | webhook d event => cases q with
    | webhook d' event' => exact Table.get?_set_of_ne _ _ fun he => hne (by cases he; rfl)
    | _ => rfl
  | credential d login => cases q with
    | credential d' login' =>
      refine Table.get?_set_of_ne _ _ fun he => hne ?_
      obtain ⟨rfl, hlogin⟩ := Prod.mk.inj he
      exact congrArg (Place.credential d') hlogin
    | _ => rfl
  | template d name => cases q with
    | template d' name' => exact Table.get?_set_of_ne _ _ fun he => hne (by cases he; rfl)
    | _ => rfl
  | bounce d address => cases q with
    | bounce d' address' => exact Table.get?_set_of_ne _ _ fun he => hne (by cases he; rfl)
    | _ => rfl
  | complaint d address => cases q with
    | complaint d' address' => exact Table.get?_set_of_ne _ _ fun he => hne (by cases he; rfl)
    | _ => rfl
  | unsubscribe d address => cases q with
    | unsubscribe d' address' => exact Table.get?_set_of_ne _ _ fun he => hne (by cases he; rfl)
    | _ => rfl

/-- A credential is kept by its full login, so it does not matter by which one it is looked for. -/
theorem kept?_fullLogin (h : Holdings) (domain login : String) :
    h.kept? (.credential domain (qualifyLogin login domain)) = h.kept? (.credential domain login) :=
  congrArg (fun full => h.credentials.get? (domain, full)) (qualifyLogin_qualifyLogin login domain)

theorem keep_fullLogin (h : Holdings) (domain login : String) (kept : Option (CredentialState × String)) :
    h.keep (.credential domain (qualifyLogin login domain)) kept = h.keep (.credential domain login) kept :=
  congrArg (fun full => { h with credentials := h.credentials.set (domain, full) kept })
    (qualifyLogin_qualifyLogin login domain)

/-! ## Other places -/

/-- Nothing has changed but at one place. -/
def Undisturbed (p : Place) (h h' : Holdings) : Prop := ∀ q : Place, q.full ≠ p.full → h'.kept? q = h.kept? q

theorem undisturbed_keep (h : Holdings) (p : Place) (kept : Option p.Kept) : Undisturbed p h (h.keep p kept) :=
  fun _ hne => h.kept?_keep_of_ne kept hne

theorem undisturbed_without (h : Holdings) (p : Place) : Undisturbed p h (h.without p) := by
  rw [without_eq_keep]
  exact h.undisturbed_keep p none

end Holdings
end MailReconciler
