/-
What forms keep. The values under a key are read back in their order, as many as were set: a list from its repeated key,
an option as one value or none. Equal forms agree under every key, so the settings behind them agree in all that is sent
(one theorem for each kind, such as `RouteSpec.form_injective`). Only the addresses of a domain share one value, in which
a comma would be ambiguous (`DomainSpec.eq_of_createForm_eq`).
-/
import MailReconciler.Lifecycle.Desired
import MailReconciler.Proofs.Json.Writing
import MailReconciler.Proofs.Resource.Vocabulary
import Mathlib.Logic.Function.Basic

namespace MailReconciler

namespace Form

/-! ## Values under a key -/

/-- The values under a key, in their order. -/
def values (key : String) (form : Form) : List String := (form.filter (·.1 = key)).map (·.2)

section

variable {key : String}

@[simp] theorem values_nil : values key [] = [] := rfl

@[simp] theorem values_append (front behind : Form) :
    values key (front ++ behind) = values key front ++ values key behind := by
  simp [values]

@[simp] theorem values_cons (name value : String) (form : Form) :
    values key ((name, value) :: form) = if name = key then value :: values key form else values key form := by
  by_cases h : name = key <;> simp [values, h]

@[simp] theorem values_optional (name : String) (value : Option String) :
    values key (optional name value) = if name = key then value.toList else [] := by
  cases value <;> simp [optional]

@[simp] theorem values_each (name : String) (items : List String) :
    values key (each name items) = if name = key then items else [] := by
  by_cases h : name = key <;> simp [values, each, List.filter_map, Function.comp_def, h]

end

/-! ## Texts of settings -/

@[simp] theorem toList_inj {α : Type} {a b : Option α} : a.toList = b.toList ↔ a = b := by
  cases a <;> cases b <;> simp

@[simp] theorem option_word_inj {α : Type} [Word α] [LawfulWord α] {a b : Option α} :
    a.map Word.word = b.map Word.word ↔ a = b :=
  (Option.map_injective fun _ _ => LawfulWord.word_injective).eq_iff

@[simp] theorem option_bool_inj {a b : Option Bool} : a.map toString = b.map toString ↔ a = b := by
  have hbool : Function.Injective (toString : Bool → String) := fun b c h => by revert h; cases b <;> cases c <;> decide
  exact (Option.map_injective hbool).eq_iff

/-- Numbers are written as in JSON, where they are read back. -/
theorem integer_inj {m n : Int} (hm : Json.IsInteger m) (hn : Json.IsInteger n) (h : m.repr = n.repr) : m = n := by
  have hrender : (Json.int m).render = (Json.int n).render := by
    simp only [Json.render, Json.int, Json.write, Json.Number.render, Int.toString_eq_repr, h]
  have hread := (Json.parse?_render (.integer hm)).1
  rw [hrender, (Json.parse?_render (.integer hn)).1] at hread
  cases hread
  rfl

@[simp] theorem int32_inj {m n : Int32} : m.toInt.repr = n.toInt.repr ↔ m = n := by
  have hinteger (n : Int32) : Json.IsInteger n.toInt :=
    ⟨by have := n.le_toInt; omega, by have := n.toInt_lt; omega⟩
  exact ⟨fun h => Int32.toInt.inj (integer_inj (hinteger m) (hinteger n) h), fun h => by rw [h]⟩

@[simp] theorem option_uint16_inj {m n : Option UInt16} :
    m.map (fun code => code.toNat.repr) = n.map (fun code => code.toNat.repr) ↔ m = n := by
  have hinteger (n : UInt16) : Json.IsInteger n.toNat := ⟨by omega, by have := n.toNat_lt; omega⟩
  have hcode : Function.Injective fun code : UInt16 => code.toNat.repr := fun m n h =>
    UInt16.toNat_inj.mp (Int.ofNat.inj (integer_inj (hinteger m) (hinteger n) h))
  exact (Option.map_injective hcode).eq_iff

/-- Texts without commas come back when what they are joined to is cut at its commas. -/
theorem splitOn_joined {texts : List String} (hne : texts ≠ []) (hfree : ∀ text ∈ texts, ',' ∉ text.toList) :
    (",".intercalate texts).toList.splitOn ',' = texts.map String.toList := by
  rw [String.toList_intercalate]
  exact List.splitOn_intercalate ',' (by simpa using hfree) (by simpa using hne)

/-- No texts are not sent, so they are told apart from a single empty one, whose joined text is empty as well. -/
theorem joined_inj {a b : List String} (ha : ∀ text ∈ a, ',' ∉ text.toList) (hb : ∀ text ∈ b, ',' ∉ text.toList)
    (h : (if a.isEmpty then none else some (",".intercalate a)) =
      if b.isEmpty then none else some (",".intercalate b)) : a = b := by
  rcases eq_or_ne a [] with rfl | hane <;> rcases eq_or_ne b [] with rfl | hbne
  · rfl
  · simp [hbne] at h
  · simp [hane] at h
  · have hjoined : ",".intercalate a = ",".intercalate b := by simpa [hane, hbne] using h
    have hchars : a.map String.toList = b.map String.toList := by
      rw [← splitOn_joined hane ha, hjoined, splitOn_joined hbne hb]
    exact (List.map_inj_right fun _ _ => String.toList_inj.mp).mp hchars

end Form

/-! ## Forms of each kind -/

open Form (values)

theorem RouteSpec.form_injective : Function.Injective RouteSpec.form := by
  intro a b h
  have hpriority : a.priority = b.priority := by
    simpa [form, Int32.toInt_inj] using congrArg (values "priority") h
  have hdescription : a.description = b.description := by simpa [form] using congrArg (values "description") h
  have hexpression : a.expression = b.expression := by simpa [form] using congrArg (values "expression") h
  have hactions : a.actions = b.actions := by simpa [form] using congrArg (values "action") h
  cases a
  cases b
  simp only [mk.injEq]
  exact ⟨hpriority, hdescription, hexpression, hactions⟩

theorem MailingListSpec.form_injective : Function.Injective MailingListSpec.form := by
  intro a b h
  have haddress : a.address = b.address := by simpa [form] using congrArg (values "address") h
  have hname : a.name = b.name := by simpa [form] using congrArg (values "name") h
  have hdescription : a.description = b.description := by simpa [form] using congrArg (values "description") h
  have haccess : a.accessLevel = b.accessLevel := by simpa [form] using congrArg (values "access_level") h
  have hreply : a.replyPreference = b.replyPreference := by simpa [form] using congrArg (values "reply_preference") h
  cases a
  cases b
  simp only [mk.injEq]
  exact ⟨haddress, hname, hdescription, haccess, hreply⟩

theorem WebhookSpec.createForm_eq_iff {a b : WebhookSpec} :
    a.createForm = b.createForm ↔ a.event = b.event ∧ a.urls = b.urls := by
  constructor
  · intro h
    have hword : Word.word a.event = Word.word b.event := by
      simpa [createForm, updateForm] using congrArg (values "id") h
    have hurls : a.urls = b.urls := by simpa [createForm, updateForm] using congrArg (values "url") h
    exact ⟨LawfulWord.word_injective hword, hurls⟩
  · rintro ⟨hevent, hurls⟩
    rw [createForm, createForm, updateForm, updateForm, hevent, hurls]

theorem CredentialSpec.createForm_eq_iff {a b : CredentialSpec} :
    a.createForm = b.createForm ↔ a.login = b.login ∧ a.password = b.password := by
  simp [createForm]

theorem TemplateSpec.createForm_eq_iff {a b : TemplateSpec} : a.createForm = b.createForm ↔
    a.name = b.name ∧ a.description = b.description ∧ a.template = b.template ∧ a.engine = b.engine ∧ a.tag = b.tag ∧
      a.comment = b.comment := by
  constructor
  · intro h
    have hname : a.name = b.name := by simpa [createForm] using congrArg (values "name") h
    have hdescription : a.description = b.description := by
      simpa [createForm] using congrArg (values "description") h
    have htemplate : a.template = b.template := by simpa [createForm] using congrArg (values "template") h
    have hengine : a.engine = b.engine := by simpa [createForm] using congrArg (values "engine") h
    have htag : a.tag = b.tag := by simpa [createForm] using congrArg (values "tag") h
    have hcomment : a.comment = b.comment := by simpa [createForm] using congrArg (values "comment") h
    exact ⟨hname, hdescription, htemplate, hengine, htag, hcomment⟩
  · rintro ⟨hname, hdescription, htemplate, hengine, htag, hcomment⟩
    rw [createForm, createForm, hname, hdescription, htemplate, hengine, htag, hcomment]

theorem BounceSpec.form_eq_iff {a b : BounceSpec} :
    a.form = b.form ↔ a.address = b.address ∧ a.code = b.code ∧ a.error = b.error := by
  constructor
  · intro h
    have haddress : a.address = b.address := by simpa [form] using congrArg (values "address") h
    have hcode : a.code = b.code := by simpa [form] using congrArg (values "code") h
    have herror : a.error = b.error := by simpa [form] using congrArg (values "error") h
    exact ⟨haddress, hcode, herror⟩
  · rintro ⟨haddress, hcode, herror⟩
    rw [form, form, haddress, hcode, herror]

theorem ComplaintSpec.form_eq_iff {a b : ComplaintSpec} : a.form = b.form ↔ a.address = b.address := by
  simp [form]

theorem UnsubscribeSpec.form_eq_iff {a b : UnsubscribeSpec} :
    a.form = b.form ↔ a.address = b.address ∧ a.effectiveTags = b.effectiveTags := by
  constructor
  · intro h
    have haddress : a.address = b.address := by simpa [form] using congrArg (values "address") h
    have htags : a.effectiveTags = b.effectiveTags := by simpa [form] using congrArg (values "tag") h
    exact ⟨haddress, htags⟩
  · rintro ⟨haddress, htags⟩
    rw [form, form, haddress, htags]

theorem DomainSpec.eq_of_createForm_eq {a b : DomainSpec} (ha : ∀ ip ∈ a.ips, ',' ∉ ip.toList)
    (hb : ∀ ip ∈ b.ips, ',' ∉ ip.toList) (h : a.createForm = b.createForm) : a = b := by
  have hname : a.name = b.name := by simpa [createForm] using congrArg (values "name") h
  have hspam : a.spamAction = b.spamAction := by simpa [createForm] using congrArg (values "spam_action") h
  have hwildcard : a.wildcard = b.wildcard := by simpa [createForm] using congrArg (values "wildcard") h
  have hforce : a.forceDkimAuthority = b.forceDkimAuthority := by
    simpa [createForm] using congrArg (values "force_dkim_authority") h
  have hkey : a.dkimKeySize = b.dkimKeySize := by simpa [createForm] using congrArg (values "dkim_key_size") h
  have hips : a.ips = b.ips := Form.joined_inj ha hb (by
    simpa [createForm, -List.isEmpty_iff] using congrArg (values "ips") h)
  have hscheme : a.webScheme = b.webScheme := by simpa [createForm] using congrArg (values "web_scheme") h
  have hpassword : a.smtpPassword = b.smtpPassword := by simpa [createForm] using congrArg (values "smtp_password") h
  cases a
  cases b
  simp only [mk.injEq]
  exact ⟨hname, hspam, hwildcard, hforce, hkey, hips, hscheme, hpassword⟩

/-- Equal forms come from settings that are equal in all that is sent. The domain of an entry is sent in the path, so
the form does not show it. -/
theorem Form.keep_what_is_sent :
    (Function.Injective RouteSpec.form ∧ Function.Injective MailingListSpec.form ∧
      (∀ a b : WebhookSpec, a.createForm = b.createForm ↔ a.event = b.event ∧ a.urls = b.urls) ∧
      (∀ a b : CredentialSpec, a.createForm = b.createForm ↔ a.login = b.login ∧ a.password = b.password) ∧
      (∀ a b : TemplateSpec, a.createForm = b.createForm ↔ a.name = b.name ∧ a.description = b.description ∧
        a.template = b.template ∧ a.engine = b.engine ∧ a.tag = b.tag ∧ a.comment = b.comment) ∧
      (∀ a b : BounceSpec, a.form = b.form ↔ a.address = b.address ∧ a.code = b.code ∧ a.error = b.error) ∧
      (∀ a b : ComplaintSpec, a.form = b.form ↔ a.address = b.address) ∧
      (∀ a b : UnsubscribeSpec, a.form = b.form ↔ a.address = b.address ∧ a.effectiveTags = b.effectiveTags) ∧
      ∀ a b : DomainSpec, (∀ ip ∈ a.ips, ',' ∉ ip.toList) → (∀ ip ∈ b.ips, ',' ∉ ip.toList) →
        (a.createForm = b.createForm ↔ a = b)) ∧
    -- A list keeps its order and its repetitions.
    ((∀ r : RouteSpec, values "action" r.form = r.actions) ∧
      (∀ w : WebhookSpec, values "url" w.createForm = w.urls) ∧
      ∀ u : UnsubscribeSpec, values "tag" u.form = u.effectiveTags) ∧
    -- An option that is not set has no value, and one that is set has its text, be it empty.
    (∀ l : MailingListSpec, values "name" l.form = l.name.toList ∧
      values "description" l.form = l.description.toList) ∧
    (∀ t : TemplateSpec, values "description" t.createForm = t.description.toList ∧
      values "engine" t.createForm = t.engine.toList ∧ values "tag" t.createForm = t.tag.toList ∧
      values "comment" t.createForm = t.comment.toList) ∧
    (∀ b : BounceSpec, values "error" b.form = b.error.toList) ∧
    ∀ d : DomainSpec, values "smtp_password" d.createForm = d.smtpPassword.toList := by
  refine ⟨⟨RouteSpec.form_injective, MailingListSpec.form_injective, fun _ _ => WebhookSpec.createForm_eq_iff,
    fun _ _ => CredentialSpec.createForm_eq_iff, fun _ _ => TemplateSpec.createForm_eq_iff,
    fun _ _ => BounceSpec.form_eq_iff, fun _ _ => ComplaintSpec.form_eq_iff, fun _ _ => UnsubscribeSpec.form_eq_iff,
    fun a b ha hb => ⟨DomainSpec.eq_of_createForm_eq ha hb, fun h => by rw [h]⟩⟩, ?lists, ?options⟩
  case lists => simp [RouteSpec.form, WebhookSpec.createForm, WebhookSpec.updateForm, UnsubscribeSpec.form]
  case options => simp [MailingListSpec.form, TemplateSpec.createForm, BounceSpec.form, DomainSpec.createForm]

/-- The form of a domain shows the order of its addresses. -/
theorem Form.keep_order_of_ips :
    let a : DomainSpec := { name := "mg.io", ips := ["10.0.0.1", "10.0.0.2"] }
    let b : DomainSpec := { name := "mg.io", ips := ["10.0.0.2", "10.0.0.1"] }
    (∀ ip ∈ a.ips, ',' ∉ ip.toList) ∧ (∀ ip ∈ b.ips, ',' ∉ ip.toList) ∧ a.createForm ≠ b.createForm := by
  refine ⟨by decide, by decide, fun h => ?_⟩
  have hsame := (Form.keep_what_is_sent.1.2.2.2.2.2.2.2.2 _ _ (by decide) (by decide)).mp h
  exact absurd hsame (by decide)

-- A comma inside an address is taken for one between two.
example : ({ ips := ["10.0.0.1,10.0.0.2"] } : DomainSpec).createForm =
    ({ ips := ["10.0.0.1", "10.0.0.2"] } : DomainSpec).createForm := rfl

end MailReconciler
