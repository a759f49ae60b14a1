/-
Which resources an account can come to have. Calls only clear places, change what is kept at a place, and put new
resources at places where they can be (`Holdings.writes_of_perform`). So in every account that calls have made the
routes have identifiers that were given out (`Account.Reachable.orderly`), and the next one is free.
-/
import MailReconciler.Proofs.Account.Carrying

namespace MailReconciler

/-! ## Texts that must not be blank -/

theorem isEmpty_of_requireText {field value : String} (h : requireText field value = .ok ()) :
    value.isEmpty = false := by
  unfold requireText Text.isBlankText at h
  cases he : value.isEmpty with
  | false => rfl
  | true =>
    obtain rfl := String.isEmpty_iff.1 he
    cases h

theorem of_bind_requireText {field value : String} {β : Type} {f : Unit → Except ApiFailure β} {r : β}
    (h : (requireText field value >>= f) = .ok r) : value.isEmpty = false ∧ f () = .ok r := by
  cases ht : requireText field value with
  | error e => rw [ht] at h; cases h
  | ok _ => rw [ht] at h; exact ⟨isEmpty_of_requireText ht, h⟩

/-! ## Writes -/

/-- The places that resources can be at when so many numbers have been given out. -/
def Place.Proper (n : Nat) : Place → Prop
  | .route id => ∃ k ≤ n, id = Holdings.routeId k
  | .template _ name => name.isEmpty = false
  | _ => True

namespace Holdings

variable {h h' : Holdings} {p q : Place}

/-- What calls do to the resources: they clear a place, or settle what is kept at a place that is taken already or that
a resource can be at. -/
inductive Writes : Holdings → Holdings → Prop
  | nothing {h : Holdings} : Writes h h
  | clears {h : Holdings} (p : Place) : Writes h (h.without p)
  | changes {h : Holdings} {p : Place} {old : p.Kept} (kept : p.Kept) : h.kept? p = some old →
      Writes h (h.keep p (some kept))
  | claims {h : Holdings} {p : Place} (kept : p.Kept) : p.Proper h.lastId → Writes h (h.keep p (some kept))
  | numbers {h : Holdings} : Writes h h.numbered
  | andThen {h h' h'' : Holdings} : Writes h h' → Writes h' h'' → Writes h h''

theorem writes_of_perform {α : Type} {call : Call α} {value : α} (hc : Account.check call = .ok ())
    (hp : h.perform call = .ok (value, h')) : Writes h h' := by
  have gets (p : Place) {state : p.State} (hp : h.perform p.get = .ok (state, h')) : Writes h h' := by
    obtain ⟨-, rfl⟩ := perform_get hp
    exact .nothing
  have deletes (p : Place) {done : Unit} (hp : h.perform p.delete = .ok (done, h')) : Writes h h' := by
    obtain rfl := perform_delete hp
    exact .clears p
  cases call with
  | createDomain d => obtain ⟨-, -, rfl⟩ := perform_createDomain hp; exact .claims _ trivial
  | getDomain name => exact gets (.domain name) hp
  | updateDomain name d => obtain ⟨old, hold, rfl⟩ := perform_updateDomain hp; exact .changes _ hold
  | deleteDomain name => exact deletes (.domain name) hp
  | createRoute r =>
    obtain ⟨-, rfl⟩ := perform_createRoute hp
    exact .andThen .numbers (.claims _ ⟨h.nextId, Nat.le_refl _, rfl⟩)
  | getRoute id => exact gets (.route id) hp
  | updateRoute id r => obtain ⟨old, hold, rfl⟩ := perform_updateRoute hp; exact .changes _ hold
  | deleteRoute id => exact deletes (.route id) hp
  | createMailingList l => obtain ⟨-, -, rfl⟩ := perform_createMailingList hp; exact .claims _ trivial
  | getMailingList address => exact gets (.mailingList address) hp
  | updateMailingList address l =>
    obtain ⟨old, -, rfl⟩ := perform_updateMailingList hp
    exact .andThen (.clears _) (.claims _ trivial)
  | deleteMailingList address => exact deletes (.mailingList address) hp
  | createWebhook w => obtain ⟨-, -, rfl⟩ := perform_createWebhook hp; exact .claims _ trivial
  | getWebhook d event => exact gets (.webhook d event) hp
  | updateWebhook w => obtain ⟨old, hold, rfl⟩ := perform_updateWebhook hp; exact .changes _ hold
  | deleteWebhook d event => exact deletes (.webhook d event) hp
  | createCredential c => obtain ⟨-, rfl⟩ := perform_createCredential hp; exact .claims _ trivial
  | getCredential d login => exact gets (.credential d login) hp
  | updatePassword c => obtain ⟨old, hold, rfl⟩ := perform_updatePassword hp; exact .changes _ hold
  | deleteCredential d login => exact deletes (.credential d login) hp
  | createTemplate t =>
    obtain ⟨-, -, rfl⟩ := perform_createTemplate hp
    obtain ⟨-, hc⟩ := of_bind_requireText hc
    obtain ⟨hname, -⟩ := of_bind_requireText hc
    exact .andThen .numbers (.claims _ hname)
  | getTemplate d name => exact gets (.template d name) hp
  | updateTemplate t => obtain ⟨old, hold, rfl⟩ := perform_updateTemplate hp; exact .changes _ hold
  | deleteTemplate d name => exact deletes (.template d name) hp
  | createBounce b => obtain rfl := perform_createBounce hp; exact .claims _ trivial
  | getBounce d address => exact gets (.bounce d address) hp
  | deleteBounce d address => exact deletes (.bounce d address) hp
  | createComplaint c => obtain rfl := perform_createComplaint hp; exact .claims _ trivial
  | getComplaint d address => exact gets (.complaint d address) hp
  | deleteComplaint d address => exact deletes (.complaint d address) hp
  | createUnsubscribe u => obtain rfl := perform_createUnsubscribe hp; exact .claims _ trivial
  | getUnsubscribe d address => exact gets (.unsubscribe d address) hp
  | deleteUnsubscribe d address => exact deletes (.unsubscribe d address) hp

/-! ## Orderly resources -/

end Holdings

namespace Place

theorem Proper.mono {n m : Nat} (hle : n ≤ m) : ∀ {p : Place}, p.Proper n → p.Proper m
  | .route _, ⟨k, hk, hid⟩ => ⟨k, Nat.le_trans hk hle, hid⟩
  | .template _ _, hname => hname
  | .domain _, _ | .mailingList _, _ | .webhook _ _, _ | .credential _ _, _ | .bounce _ _, _ | .complaint _ _, _
  | .unsubscribe _ _, _ => trivial

theorem proper_full (n : Nat) (p : Place) : p.full.Proper n ↔ p.Proper n := by cases p <;> exact Iff.rfl

theorem proper_congr {p q : Place} (h : q.full = p.full) (n : Nat) : q.Proper n ↔ p.Proper n := by
  rw [← proper_full, h, proper_full]

end Place

namespace Holdings

variable {h h' : Holdings} {p q : Place}

theorem lastId_keep (h : Holdings) (p : Place) (kept : Option p.Kept) : (h.keep p kept).lastId = h.lastId := by
  cases p <;> rfl

/-- Resources are only at places where they can be. -/
def Orderly (h : Holdings) : Prop := ∀ (p : Place) (kept : p.Kept), h.kept? p = some kept → p.Proper h.lastId

/-- What is kept at a place where a resource can be may change or go. -/
theorem Orderly.keep (ho : h.Orderly) (hp : p.Proper h.lastId) (kept : Option p.Kept) : (h.keep p kept).Orderly := by
  intro q found hq
  rw [lastId_keep]
  by_cases hsame : q.full = p.full
  · exact (Place.proper_congr hsame _).2 hp
  · rw [h.kept?_keep_of_ne _ hsame] at hq
    exact ho q found hq

theorem Orderly.without (ho : h.Orderly) (p : Place) : (h.without p).Orderly := by
  cases hat : h.at? p with
  | none =>
    rw [without_of_none hat]
    exact ho
  | some state =>
    -- something stood there, so it is a place where a resource can be
    rw [at?_eq] at hat
    obtain ⟨kept, hkept, -⟩ := Option.map_eq_some_iff.1 hat
    rw [without_eq_keep]
    exact ho.keep (ho p kept hkept) none

theorem Orderly.numbered (ho : h.Orderly) : h.numbered.Orderly := by
  intro p kept hkept
  rw [kept?_numbered] at hkept
  exact (ho p kept hkept).mono (Nat.le_succ _)

theorem Orderly.of_writes (hw : Writes h h') (ho : h.Orderly) : h'.Orderly := by
  induction hw with
  | nothing => exact ho
  | clears p => exact ho.without p
  | changes kept hold => exact ho.keep (ho _ _ hold) (some kept)
  | claims kept hp => exact ho.keep hp (some kept)
  | numbers => exact ho.numbered
  | andThen _ _ ih ih' => exact ih' (ih ho)

theorem orderly_empty : ({} : Holdings).Orderly := by
  intro p kept hkept
  cases p <;> cases hkept

end Holdings

/-! ## Reachable accounts -/

namespace Account

/-- The accounts that calls and failures put before them make of a fresh one. -/
inductive Reachable : Account → Prop
  | fresh : Reachable {}
  | answers {a : Account} {α : Type} (call : Call α) : Reachable a → Reachable (a.answer call).2
  | failsNext {a : Account} (n : Nat) (e : ApiFailure) : Reachable a → Reachable (a.failNext n e)

theorem orderly_answer {a : Account} {α : Type} (call : Call α) (ho : a.holdings.Orderly) :
    (a.answer call).2.holdings.Orderly := by
  have ha := a.answers call
  generalize (a.answer call).1 = outcome, (a.answer call).2 = b at ha ⊢
  cases ha with
  | refused _ | injected _ _ | failed _ _ _ => exact ho
  | carriedOut hc _ hp => exact ho.of_writes (Holdings.writes_of_perform hc hp)

theorem Reachable.orderly {a : Account} (ha : a.Reachable) : a.holdings.Orderly := by
  induction ha with
  | fresh => exact Holdings.orderly_empty
  | answers call _ ih => exact orderly_answer call ih
  | failsNext _ _ _ ih => exact ih

end Account

/-! ## Identifiers of routes -/

namespace Text

/-- The value of a lower-case hexadecimal digit. -/
def hexDigit (c : Char) : Nat := if c.isDigit then c.toNat - 48 else c.toNat - 87

/-- The number that lower-case hexadecimal digits stand for. -/
def hexValue (digits : List Char) : Nat := digits.foldl (fun value c => 16 * value + hexDigit c) 0

theorem hexDigit_digitChar : ∀ d < 16, hexDigit (Nat.digitChar d) = d := by decide

theorem hexValue_toDigits (n : Nat) : hexValue (Nat.toDigits 16 n) = n := by
  induction n using Nat.strongRecOn with
  | ind n ih =>
    have hbase : 1 < 16 := by decide
    rcases Nat.lt_or_ge n 16 with hlt | hge
    · rw [Nat.toDigits_of_lt_base hlt]
      show 16 * 0 + hexDigit n.digitChar = n
      rw [hexDigit_digitChar n hlt]
      omega
    · have hquotient : hexValue (Nat.toDigits 16 (n / 16)) = n / 16 := ih _ (by omega)
      rw [Nat.toDigits_of_base_le hbase hge, hexValue, List.foldl_append]
      rw [hexValue] at hquotient
      rw [hquotient]
      show 16 * (n / 16) + hexDigit (n % 16).digitChar = n
      rw [hexDigit_digitChar _ (Nat.mod_lt _ (by decide))]
      exact Nat.div_add_mod n 16

theorem hexValue_replicate_append (k : Nat) (digits : List Char) :
    hexValue (List.replicate k '0' ++ digits) = hexValue digits := by
  induction k with
  | zero => rfl
  | succ k ih => exact ih

end Text

namespace Holdings

theorem hexValue_routeId (n : Nat) : Text.hexValue (routeId n).toList = n := by
  unfold routeId Text.hex
  rw [String.toList_append, String.toList_ofList, String.toList_ofList, Text.hexValue_replicate_append,
    Text.hexValue_toDigits]

theorem routeId_injective {m n : Nat} (h : routeId m = routeId n) : m = n := by
  rw [← hexValue_routeId m, h, hexValue_routeId]

theorem isEmpty_routeId (n : Nat) : (routeId n).isEmpty = false := by
  rw [String.isEmpty_eq_false_iff]
  intro h
  have hlist := String.toList_eq_nil_iff.2 h
  unfold routeId Text.hex at hlist
  rw [String.toList_append, String.toList_ofList, String.toList_ofList] at hlist
  exact absurd (List.append_eq_nil_iff.1 hlist).2 Nat.toDigits_ne_nil

/-- Of orderly resources none has the next identifier of a route. -/
theorem Orderly.kept?_next_route {h : Holdings} (ho : h.Orderly) : h.kept? (.route (routeId h.nextId)) = none := by
  cases hkept : h.kept? (.route (routeId h.nextId)) with
  | none => rfl
  | some kept =>
    obtain ⟨k, hk, hid⟩ := ho _ kept hkept
    have hnext : h.lastId + 1 = k := routeId_injective hid
    omega

end Holdings
end MailReconciler
