/-
Observed states survive the wire: what is written of one is read back as the same state, from its JSON value, from the
text and from the bytes (`Observed.ofParsed_toText`). A state is written and read field by field, so what is shown for
the parts, strings, numbers, words, options, lists and records, is put together for each of the nine kinds. The code
of a bounce may also be a number (`BounceState.decode_code`).
-/
import MailReconciler.Lifecycle.Desired
import MailReconciler.Proofs.Json.Writing
import MailReconciler.Proofs.Resource.Vocabulary

namespace MailReconciler

open Json (Decoder Record Plain DecodeError)

/-! ## Parts -/

theorem Json.Decoder.natural_nat {bits n : Nat} (hn : n < 1 <<< bits) : natural bits (.nat n) = .ok n := by
  have hbounds : (0 : Int) ≤ n ∧ (n : Int) ≤ (1 <<< bits : Nat) - 1 := by omega
  simp only [natural, integer, Json.nat, if_pos hbounds, Except.map, Int.toNat_natCast]

/-- A way of writing that is undone by a decoder. What is written can also be read back from a text, and is not null, so
that an option of it can be told from nothing. -/
structure Faithful {α : Type} (write : α → Json) (decode : Decoder α) : Prop where
  decode_write : ∀ a, decode (write a) = .ok a
  ne_null : ∀ a, write a ≠ .null
  plain : ∀ a, Plain (write a)

namespace Faithful

variable {α : Type} {write : α → Json} {decode : Decoder α}

theorem string : Faithful .string Decoder.string where
  decode_write _ := rfl
  ne_null _ h := by cases h
  plain := .string

theorem bool : Faithful .bool Decoder.bool where
  decode_write _ := rfl
  ne_null _ h := by cases h
  plain := .bool

theorem uint64 : Faithful (fun n => .nat n.toNat) Decoder.uint64 where
  decode_write n := by
    rw [Decoder.uint64, Decoder.natural_nat n.toNat_lt, Except.map, UInt64.ofNat_toNat]
  ne_null _ h := by cases h
  plain n := .integer ⟨by omega, by have hlt := n.toNat_lt; omega⟩

theorem uint32 : Faithful (fun n => .nat n.toNat) Decoder.uint32 where
  decode_write n := by
    rw [Decoder.uint32, Decoder.natural_nat n.toNat_lt, Except.map, UInt32.ofNat_toNat]
  ne_null _ h := by cases h
  plain n := .integer ⟨by omega, by have hlt := n.toNat_lt; omega⟩

theorem int32 : Faithful (fun n => .int n.toInt) Decoder.int32 where
  decode_write n := by
    have hbounds : Int32.minValue.toInt ≤ n.toInt ∧ n.toInt ≤ Int32.maxValue.toInt :=
      ⟨n.minValue_le_toInt, n.toInt_le⟩
    simp only [Decoder.int32, Decoder.integer, Json.int, if_pos hbounds, Except.map, Int32.ofInt_toInt]
  ne_null _ h := by cases h
  plain n := .integer ⟨by have hle := n.le_toInt; omega, by have hlt := n.toInt_lt; omega⟩

theorem word [Word α] [LawfulWord α] : Faithful (Word.toJson (α := α)) Word.decode where
  decode_write := LawfulWord.decode_toJson
  ne_null _ h := by cases h
  plain a := .string (Word.word a)

theorem list (h : Faithful write decode) : Faithful (fun items => .array (items.map write)) (Decoder.list decode) where
  decode_write items := by
    show (items.map write).mapM decode = .ok items
    induction items with
    | nil => rfl
    | cons a rest ih =>
      rw [List.map_cons, List.mapM_cons, h.decode_write, ih]
      rfl
  ne_null _ h := by cases h
  plain items := .array (by simpa using fun a _ => h.plain a)

/-- A list for which null may stand. -/
theorem orNull (h : Faithful write decode) (default : α) : Faithful write (Decoder.orNull default decode) where
  decode_write a := by
    have hwrite := h.decode_write a
    cases hj : write a with
    | null => exact absurd hj (h.ne_null a)
    | _ =>
      rw [hj] at hwrite
      exact hwrite
  ne_null := h.ne_null
  plain := h.plain

theorem decode_option (h : Faithful write decode) (o : Option α) :
    Decoder.option decode (.ofOption write o) = .ok o := by
  cases o with
  | none => rfl
  | some a =>
    have hwrite := h.decode_write a
    show Decoder.option decode (write a) = _
    cases hj : write a with
    | null => exact absurd hj (h.ne_null a)
    | _ =>
      rw [hj] at hwrite
      simp only [Decoder.option, hwrite, Except.map]

theorem plain_option (h : Faithful write decode) (o : Option α) : Plain (.ofOption write o) := by
  cases o with
  | none => exact .null
  | some a => exact h.plain a

end Faithful

/-! ## Records -/

namespace Json

theorem fieldNamed?_of_mem {names : List String} {name : String} (h : name ∈ names) :
    fieldNamed? (names.map (·, [])) name = some name := by
  induction names with
  | nil => cases h
  | cons first rest ih =>
    unfold fieldNamed? at ih ⊢
    rw [List.map_cons, List.find?_cons]
    by_cases hfirst : first = name
    · simp [hfirst]
    · have hmem := (List.mem_cons.1 h).resolve_left (Ne.symm hfirst)
      have hne : (first == name || ([] : List String).contains name) = false := by simp [hfirst]
      simp only [hne]
      exact ih hmem

theorem pickFields_of_subset {names : List String} : ∀ {members : List (String × Json)},
    (∀ member ∈ members, member.1 ∈ names) → (members.map (·.1)).Nodup →
      pickFields (names.map (·, [])) members = .ok members
  | [], _, _ => rfl
  | (name, value) :: rest, hnames, hnodup => by
    obtain ⟨hfresh, hnodup⟩ := List.nodup_cons.1 hnodup
    have hrest := pickFields_of_subset (fun member h => hnames member (List.mem_cons_of_mem _ h)) hnodup
    have hnone : rest.any (·.1 == name) = false := by
      rw [List.any_eq_false]
      intro member hmember heq
      exact hfresh (List.mem_map.2 ⟨member, hmember, beq_iff_eq.1 heq⟩)
    rw [pickFields, hrest]
    simp only [fieldNamed?_of_mem (hnames _ List.mem_cons_self), bind, Except.bind, hnone]
    rfl

/-- A record that is written with its fields in order is taken in as it is. -/
theorem Record.read_bind {α : Type} {names : List String} {members : List (String × Json)}
    {next : Record → Except DecodeError α} (hnames : members.map (·.1) = names) (hnodup : names.Nodup) :
    (Record.read names (.object members) >>= next) = next members := by
  have hread : Record.read names (.object members) = .ok members := by
    refine pickFields_of_subset (fun member hmember => ?_) (hnames ▸ hnodup)
    rw [← hnames]
    exact List.mem_map_of_mem hmember
  rw [hread]
  rfl

@[simp] theorem ok_bind {α β : Type} (a : α) (next : α → Except DecodeError β) :
    ((.ok a : Except DecodeError α) >>= next) = next a :=
  rfl

theorem exists_ok_of_bind {α β : Type} {first : Except DecodeError α} {next : α → Except DecodeError β} {b : β}
    (h : (first >>= next) = .ok b) : ∃ a, first = .ok a ∧ next a = .ok b := by
  cases first with
  | error e => cases h
  | ok a => exact ⟨a, rfl, h⟩

@[simp] theorem Record.get_cons {α : Type} (field : String) (value : Json) (r : Record) (name : String) (default : α)
    (decode : Decoder α) : Record.get ((field, value) :: r) name default decode =
      if name = field then decode value else Record.get r name default decode := by
  unfold Record.get
  rw [List.lookup_cons]
  by_cases h : name = field
  · rw [if_pos h, beq_iff_eq.2 h]
  · rw [if_neg h, beq_eq_false_iff_ne.2 h]

@[simp] theorem Record.require_cons {α : Type} (field : String) (value : Json) (r : Record) (name : String)
    (decode : Decoder α) : Record.require ((field, value) :: r) name decode =
      if name = field then decode value else Record.require r name decode := by
  unfold Record.require
  rw [List.lookup_cons]
  by_cases h : name = field
  · rw [if_pos h, beq_iff_eq.2 h]
  · rw [if_neg h, beq_eq_false_iff_ne.2 h]

end Json

/-! ## States -/

open Faithful

theorem DnsRecord.faithful : Faithful DnsRecord.toJson DnsRecord.decode where
  decode_write d := by
    refine Eq.trans (Json.Record.read_bind (by rfl) (by decide)) ?_
    simp [string.decode_write, string.decode_option, pure, Except.pure]
  ne_null _ h := by cases h
  plain d := .object (by simp [string.plain, string.plain_option])

theorem DomainState.faithful : Faithful DomainState.toJson DomainState.decode where
  decode_write d := by
    refine Eq.trans (Json.Record.read_bind (by rfl) (by decide)) ?_
    simp [string.decode_write, string.decode_option, word.decode_option, bool.decode_write, DnsRecord.decodeList,
      (DnsRecord.faithful.list.orNull []).decode_write, pure, Except.pure]
  ne_null _ h := by cases h
  plain d := .object (by
    simp [string.plain, string.plain_option, word.plain_option, bool.plain, DnsRecord.faithful.list.plain])

theorem RouteState.faithful : Faithful RouteState.toJson RouteState.decode where
  decode_write r := by
    refine Eq.trans (Json.Record.read_bind (by rfl) (by decide)) ?_
    simp [string.decode_write, string.decode_option, int32.decode_write, (string.list.orNull []).decode_write, pure,
      Except.pure]
  ne_null _ h := by cases h
  plain r := .object (by simp [string.plain, string.plain_option, int32.plain, string.list.plain])

theorem MailingListState.faithful : Faithful MailingListState.toJson MailingListState.decode where
  decode_write l := by
    refine Eq.trans (Json.Record.read_bind (by rfl) (by decide)) ?_
    simp [string.decode_write, string.decode_option, word.decode_option, uint64.decode_write, pure, Except.pure]
  ne_null _ h := by cases h
  plain l := .object (by simp [string.plain, string.plain_option, word.plain_option, uint64.plain])

theorem WebhookState.faithful : Faithful WebhookState.toJson WebhookState.decode where
  decode_write w := by
    refine Eq.trans (Json.Record.read_bind (by rfl) (by decide)) ?_
    simp [string.decode_write, word.decode_write, string.list.decode_write, pure, Except.pure]
  ne_null _ h := by cases h
  plain w := .object (by simp [string.plain, word.plain, string.list.plain])

theorem CredentialState.faithful : Faithful CredentialState.toJson CredentialState.decode where
  decode_write c := by
    refine Eq.trans (Json.Record.read_bind (by rfl) (by decide)) ?_
    simp [string.decode_write, string.decode_option, uint64.decode_option, pure, Except.pure]
  ne_null _ h := by cases h
  plain c := .object (by simp [string.plain, string.plain_option, uint64.plain_option])

theorem TemplateVersion.faithful : Faithful TemplateVersion.toJson TemplateVersion.decode where
  decode_write v := by
    refine Eq.trans (Json.Record.read_bind (by rfl) (by decide)) ?_
    simp [string.decode_write, string.decode_option, bool.decode_write, pure, Except.pure]
  ne_null _ h := by cases h
  plain v := .object (by simp [string.plain, string.plain_option, bool.plain])

theorem TemplateState.faithful : Faithful TemplateState.toJson TemplateState.decode where
  decode_write t := by
    refine Eq.trans (Json.Record.read_bind (by rfl) (by decide)) ?_
    simp [string.decode_write, string.decode_option, TemplateVersion.faithful.decode_option, pure, Except.pure]
  ne_null _ h := by cases h
  plain t := .object (by simp [string.plain, string.plain_option, TemplateVersion.faithful.plain_option])

theorem BounceState.faithful_code : Faithful .string BounceState.decodeCode where
  decode_write _ := rfl
  ne_null := string.ne_null
  plain := string.plain

theorem BounceState.faithful : Faithful BounceState.toJson BounceState.decode where
  decode_write b := by
    refine Eq.trans (Json.Record.read_bind (by rfl) (by decide)) ?_
    simp [string.decode_write, string.decode_option, faithful_code.decode_option, pure, Except.pure]
  ne_null _ h := by cases h
  plain b := .object (by simp [string.plain, string.plain_option])

theorem ComplaintState.faithful : Faithful ComplaintState.toJson ComplaintState.decode where
  decode_write c := by
    refine Eq.trans (Json.Record.read_bind (by rfl) (by decide)) ?_
    simp [string.decode_write, string.decode_option, pure, Except.pure]
  ne_null _ h := by cases h
  plain c := .object (by simp [string.plain, string.plain_option])

theorem UnsubscribeState.faithful : Faithful UnsubscribeState.toJson UnsubscribeState.decode where
  decode_write u := by
    refine Eq.trans (Json.Record.read_bind (by rfl) (by decide)) ?_
    simp [string.decode_write, string.decode_option, (string.list.orNull []).decode_write, pure, Except.pure]
  ne_null _ h := by cases h
  plain u := .object (by simp [string.plain, string.plain_option, string.list.plain])

/-! ## Observed states -/

namespace Observed

/-- The kind of the resource. -/
def kind : Observed → ResourceKind
  | .domain _ => .domain
  | .route _ => .route
  | .mailingList _ => .mailingList
  | .webhook _ => .webhook
  | .credential _ => .credential
  | .template _ => .template
  | .bounce _ => .bounce
  | .complaint _ => .complaint
  | .unsubscribe _ => .unsubscribe

/-- Reads the observed state of a resource of a kind from JSON. -/
def decode (kind : ResourceKind) : Decoder Observed := fun j =>
  match kind with
  | .domain => (DomainState.decode j).map .domain
  | .route => (RouteState.decode j).map .route
  | .mailingList => (MailingListState.decode j).map .mailingList
  | .webhook => (WebhookState.decode j).map .webhook
  | .credential => (CredentialState.decode j).map .credential
  | .template => (TemplateState.decode j).map .template
  | .bounce => (BounceState.decode j).map .bounce
  | .complaint => (ComplaintState.decode j).map .complaint
  | .unsubscribe => (UnsubscribeState.decode j).map .unsubscribe

/-- Reads the observed state of a resource of a kind from a value that was read, if there was one. -/
def ofParsed (kind : ResourceKind) : Option Json → Except DecodeError Observed
  | none => .error .malformed
  | some j => decode kind j

theorem decode_toJson (state : Observed) : decode state.kind state.toJson = .ok state := by
  cases state with
  | domain d => exact congrArg (Except.map Observed.domain) (DomainState.faithful.decode_write d)
  | route r => exact congrArg (Except.map Observed.route) (RouteState.faithful.decode_write r)
  | mailingList l => exact congrArg (Except.map Observed.mailingList) (MailingListState.faithful.decode_write l)
  | webhook w => exact congrArg (Except.map Observed.webhook) (WebhookState.faithful.decode_write w)
  | credential c => exact congrArg (Except.map Observed.credential) (CredentialState.faithful.decode_write c)
  | template t => exact congrArg (Except.map Observed.template) (TemplateState.faithful.decode_write t)
  | bounce b => exact congrArg (Except.map Observed.bounce) (BounceState.faithful.decode_write b)
  | complaint c => exact congrArg (Except.map Observed.complaint) (ComplaintState.faithful.decode_write c)
  | unsubscribe u => exact congrArg (Except.map Observed.unsubscribe) (UnsubscribeState.faithful.decode_write u)

theorem plain_toJson (state : Observed) : Plain state.toJson := by
  cases state with
  | domain d => exact DomainState.faithful.plain d
  | route r => exact RouteState.faithful.plain r
  | mailingList l => exact MailingListState.faithful.plain l
  | webhook w => exact WebhookState.faithful.plain w
  | credential c => exact CredentialState.faithful.plain c
  | template t => exact TemplateState.faithful.plain t
  | bounce b => exact BounceState.faithful.plain b
  | complaint c => exact ComplaintState.faithful.plain c
  | unsubscribe u => exact UnsubscribeState.faithful.plain u

end Observed

/-! ## Codes of bounces -/

namespace Json

variable {names : List String} {name : String}

/-- A field with a name of the record is picked, between others, whatever its value is. -/
theorem pickFields_append (hname : name ∈ names) (before behind : List (String × Json)) :
    (∃ e, ∀ value, pickFields (names.map (·, [])) (before ++ (name, value) :: behind) = .error e) ∨
    ∃ a b, name ∉ a.map (·.1) ∧ ∀ value,
      pickFields (names.map (·, [])) (before ++ (name, value) :: behind) = .ok (a ++ (name, value) :: b) := by
  induction before with
  | nil =>
    simp only [List.nil_append, pickFields, fieldNamed?_of_mem hname]
    cases pickFields (names.map (·, [])) behind with
    | error e => exact .inl ⟨e, fun _ => rfl⟩
    | ok picked =>
      cases hrepeated : picked.any (·.1 == name) with
      | true => exact .inl ⟨.repeated name, fun _ => by simp [hrepeated]⟩
      | false => exact .inr ⟨[], picked, List.not_mem_nil, fun _ => by simp [hrepeated, pure, Except.pure]⟩
  | cons first rest ih =>
    obtain ⟨other, old⟩ := first
    simp only [List.cons_append, pickFields]
    rcases ih with ⟨e, he⟩ | ⟨a, b, ha, hpick⟩
    · exact .inl ⟨e, fun value => by rw [he]; rfl⟩
    · simp only [hpick, ok_bind]
      cases hfield : fieldNamed? (names.map (·, [])) other with
      | none => exact .inr ⟨a, b, ha, fun _ => rfl⟩
      | some field =>
        -- whether a field is there already does not depend on the value
        have hany (value : Json) :
            (a ++ (name, value) :: b).any (·.1 == field) = (a ++ (name, .null) :: b).any (·.1 == field) := by
          simp
        cases hrepeated : (a ++ (name, .null) :: b).any (·.1 == field) with
        | true => exact .inl ⟨.repeated field, fun value => by simp only [hany, hrepeated]; rfl⟩
        | false =>
          refine .inr ⟨(field, old) :: a, b, ?_, fun value => by simp only [hany, hrepeated]; rfl⟩
          rintro hmem
          rcases List.mem_cons.1 hmem with rfl | hmem
          · simp at hrepeated
          · exact ha hmem

theorem Record.get_append_self {α : Type} {a : Record} (ha : name ∉ a.map (·.1)) (value : Json) (b : Record)
    (default : α) (decode : Decoder α) : Record.get (a ++ (name, value) :: b) name default decode = decode value := by
  induction a with
  | nil => simp
  | cons first rest ih =>
    obtain ⟨hne, hrest⟩ := not_or.1 (mt List.mem_cons.2 ha)
    rw [List.cons_append, Record.get_cons, if_neg hne, ih hrest]

theorem Record.get_append_of_ne {α : Type} {other : String} (hne : other ≠ name) (a : Record) (value value' : Json)
    (b : Record) (default : α) (decode : Decoder α) :
    Record.get (a ++ (name, value) :: b) other default decode =
      Record.get (a ++ (name, value') :: b) other default decode := by
  induction a with
  | nil => simp [hne]
  | cons first rest ih => rw [List.cons_append, List.cons_append, Record.get_cons, Record.get_cons, ih]

end Json

/-- A code may be given as a number or as the text of one; the other members do not matter. -/
theorem BounceState.decode_code (n : Int) (before behind : List (String × Json)) :
    BounceState.decode (.object (before ++ ("code", .int n) :: behind)) =
      BounceState.decode (.object (before ++ ("code", .string (toString n)) :: behind)) ∧
    ∀ b, BounceState.decode (.object (before ++ ("code", .int n) :: behind)) = .ok b → b.code = some (toString n) := by
  have hname : "code" ∈ ["address", "code", "error", "created_at"] := by decide
  unfold BounceState.decode Record.read Json.Record.readNamed
  rcases Json.pickFields_append hname before behind with ⟨e, he⟩ | ⟨a, b, ha, hpick⟩
  · simp only [he]
    exact ⟨trivial, fun b h => by cases h⟩
  · have hcode : Decoder.option decodeCode (.int n) = .ok (some (toString n)) := rfl
    have htext : Decoder.option decodeCode (.string (toString n)) = .ok (some (toString n)) := rfl
    have hother : ∀ {other : String}, other ≠ "code" → ∀ {α : Type} (default : α) (decode : Decoder α),
        Record.get (a ++ ("code", .string (toString n)) :: b) other default decode =
          Record.get (a ++ ("code", .int n) :: b) other default decode :=
      fun hne _ default decode => Json.Record.get_append_of_ne hne a _ _ b default decode
    simp only [hpick, Json.ok_bind, Json.Record.get_append_self ha, hcode, htext,
      hother (show "address" ≠ "code" by decide), hother (show "error" ≠ "code" by decide),
      hother (show "created_at" ≠ "code" by decide), true_and]
    intro state h
    obtain ⟨address, -, h⟩ := Json.exists_ok_of_bind h
    obtain ⟨error, -, h⟩ := Json.exists_ok_of_bind h
    obtain ⟨created, -, h⟩ := Json.exists_ok_of_bind h
    cases h
    rfl

/-! ## Documents -/

namespace Observed

open Json (IsInteger)

/-- The text of an observed state. -/
def toText (state : Observed) : String := state.toJson.render

theorem ofParsed_toText (state : Observed) :
    ofParsed state.kind (Json.parse? state.toText) = .ok state ∧
      ofParsed state.kind (Json.parseBytes? (Text.encode state.toText)) = .ok state := by
  obtain ⟨htext, hbytes⟩ := Json.parse?_render state.plain_toJson
  unfold toText
  rw [htext, hbytes]
  exact ⟨state.decode_toJson, state.decode_toJson⟩

theorem kind_of_decode {kind : ResourceKind} {j : Json} {state : Observed} (h : decode kind j = .ok state) :
    state.kind = kind := by
  have hmap : ∀ {α : Type} {result : Except DecodeError α} {f : α → Observed}, result.map f = .ok state →
      (∀ a, (f a).kind = kind) → state.kind = kind := by
    intro α result f h hf
    cases result with
    | error e => cases h
    | ok a => cases h; exact hf a
  cases kind <;> exact hmap h fun _ => rfl

/-- What an accepted document is written as is accepted, and written as the same text. -/
theorem ofParsed_rewritten {kind : ResourceKind} {parsed : Option Json} {text : String}
    (h : (ofParsed kind parsed).map toText = .ok text) :
    (ofParsed kind (Json.parse? text)).map toText = .ok text ∧
      (ofParsed kind (Json.parseBytes? (Text.encode text))).map toText = .ok text := by
  cases hstate : ofParsed kind parsed with
  | error e => rw [hstate] at h; cases h
  | ok state =>
    rw [hstate] at h
    cases h
    cases parsed with
    | none => cases hstate
    | some j =>
      obtain ⟨htext, hbytes⟩ := state.ofParsed_toText
      rw [kind_of_decode hstate] at htext hbytes
      rw [htext, hbytes]
      exact ⟨rfl, rfl⟩

/-- The document of a bounce with a code between other members. -/
def bounceDocument (before behind : List (String × Json)) (code : Json) : Json :=
  .object (before ++ ("code", code) :: behind)

theorem plain_bounceDocument {before behind : List (String × Json)} (h : ∀ member ∈ before ++ behind, Plain member.2)
    {code : Json} (hcode : Plain code) : Plain (bounceDocument before behind code) := by
  refine .object fun member hmember => ?_
  rcases List.mem_append.1 hmember with hbefore | hbehind
  · exact h member (List.mem_append_left _ hbefore)
  · rcases List.mem_cons.1 hbehind with rfl | hbehind
    · exact hcode
    · exact h member (List.mem_append_right _ hbehind)

theorem code_of_decode_bounceDocument {n : Int} {before behind : List (String × Json)} {state : Observed}
    (h : decode .bounce (bounceDocument before behind (.int n)) = .ok state) :
    ∃ b, state = .bounce b ∧ b.code = some (toString n) := by
  cases hb : BounceState.decode (bounceDocument before behind (.int n)) with
  | error e => rw [decode, hb] at h; cases h
  | ok b =>
    rw [decode, hb] at h
    cases h
    exact ⟨b, rfl, (BounceState.decode_code n before behind).2 b hb⟩

/-- Whatever is observed of a resource of any kind, its JSON value is read as the same state, and so are the text and
the bytes of that value. So what a document, read from a text or from bytes, is written as once it has been accepted is
accepted again, and written as the same text. A bounce whose code is a number reads as one whose code is the text of the
number, with the same members around it, as a value and as a text. -/
theorem survives_wire :
    (∀ state : Observed, decode state.kind state.toJson = .ok state ∧
      ofParsed state.kind (Json.parse? state.toText) = .ok state ∧
      ofParsed state.kind (Json.parseBytes? (Text.encode state.toText)) = .ok state) ∧
    (∀ kind parsed text, (ofParsed kind parsed).map toText = .ok text →
      (ofParsed kind (Json.parse? text)).map toText = .ok text ∧
      (ofParsed kind (Json.parseBytes? (Text.encode text))).map toText = .ok text) ∧
    ∀ n before behind, IsInteger n →
      let number := bounceDocument before behind (.int n)
      let digits := bounceDocument before behind (.string (toString n))
      decode .bounce number = decode .bounce digits ∧
      (∀ state, decode .bounce number = .ok state → ∃ b, state = .bounce b ∧ b.code = some (toString n)) ∧
      ((∀ member ∈ before ++ behind, Plain member.2) →
        ofParsed .bounce (Json.parse? number.render) = ofParsed .bounce (Json.parse? digits.render)) := by
  refine ⟨fun state => ⟨state.decode_toJson, state.ofParsed_toText⟩, fun _ _ _ h => ofParsed_rewritten h,
    fun n before behind hn => ?_⟩
  have hsame : decode .bounce (bounceDocument before behind (.int n)) =
      decode .bounce (bounceDocument before behind (.string (toString n))) :=
    congrArg (Except.map Observed.bounce) (BounceState.decode_code n before behind).1
  refine ⟨hsame, fun _ h => code_of_decode_bounceDocument h, fun hplain => ?_⟩
  rw [(Json.parse?_render (plain_bounceDocument hplain (.integer hn))).1,
    (Json.parse?_render (plain_bounceDocument hplain (.string _))).1]
  exact hsame

/-- A bounce with the code 550, as a number behind its address. -/
theorem numbered_bounce_survives :
    (ofParsed .bounce (some (bounceDocument [("address", .string "a@b.io")] [] (.int 550)))).map toText =
      .ok (toText (.bounce { address := "a@b.io", code := some "550" })) ∧
    (ofParsed .bounce (Json.parse? (toText (.bounce { address := "a@b.io", code := some "550" })))).map toText =
      .ok (toText (.bounce { address := "a@b.io", code := some "550" })) ∧
    ofParsed .bounce (Json.parse? (bounceDocument [("address", .string "a@b.io")] [] (.int 550)).render) =
      ofParsed .bounce
        (Json.parse? (bounceDocument [("address", .string "a@b.io")] [] (.string (toString 550))).render) := by
  have hread : (ofParsed .bounce (some (bounceDocument [("address", .string "a@b.io")] [] (.int 550)))).map toText =
      .ok (toText (.bounce { address := "a@b.io", code := some "550" })) := rfl
  obtain ⟨-, hagain, hcode⟩ := survives_wire
  have hplain : ∀ member ∈ [("address", Json.string "a@b.io")] ++ [], Plain member.2 := by simp [Plain.string]
  have htext := (hcode 550 [("address", .string "a@b.io")] [] ⟨by decide, by decide⟩).2.2 hplain
  exact ⟨hread, (hagain _ _ _ hread).1, htext⟩

end Observed
end MailReconciler
