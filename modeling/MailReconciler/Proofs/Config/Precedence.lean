/-
Which source a setting comes from. The variables of an environment win over its credentials document, and the document
over the configuration; a source that is blank does not count. `applyVariables` succeeds exactly if what it looks at can
be read, and then nothing else of the configuration has changed.
-/
import MailReconciler.Config.Loading
import MailReconciler.Json.Complaint
import MailReconciler.Proofs.Json.Writing
import MailReconciler.Proofs.Resource.Vocabulary
import MailReconciler.Proofs.Text.Letters

namespace MailReconciler

/-! ## Regions -/

/-- A region is called by its word, in any letter case. -/
def Region.CalledBy (r : Region) (name : String) : Prop := Text.lowercaseAscii name = Word.word r

instance (r : Region) (name : String) : Decidable (r.CalledBy name) :=
  inferInstanceAs (Decidable (Text.lowercaseAscii name = Word.word r))

theorem Region.word_plain (r : Region) : ∀ d ∈ (Word.word r).toList, d.toNat < 0x80 ∧ d ≠ 'i' ∧ d ≠ 'k' := by
  have hall : ((Word.word r).toList.all fun d => d.toNat < 0x80 ∧ d ≠ 'i' ∧ d ≠ 'k') = true := by cases r <;> decide
  exact fun d hd => of_decide_eq_true (List.all_eq_true.1 hall d hd)

theorem Region.lowercase_eq_word_iff {r : Region} {name : String} :
    Text.lowercase name = Word.word r ↔ r.CalledBy name := by
  unfold CalledBy Text.lowercase Text.lowercaseAscii Text.lowerChars
  rw [← String.toList_inj, ← String.toList_inj, String.toList_ofList, String.toList_ofList]
  exact Text.lowerFrom_eq_iff r.word_plain

/-- Beyond ASCII no text is read as a region. -/
theorem Region.parse?_eq_some_iff {r : Region} {name : String} :
    (Word.parse? name : Option Region) = some r ↔ r.CalledBy name := by
  rw [← lowercase_eq_word_iff]
  exact LawfulWord.ofWord?_eq_some_iff

theorem Region.named_eq_ok_iff {α : Type} {name : String} {f : Region → α} {e : SetupError} {a : α} :
    (match (Word.parse? name : Option Region) with
      | some r => Except.ok (f r)
      | none => .error e) = .ok a ↔ ∃ r : Region, r.CalledBy name ∧ a = f r := by
  simp only [← parse?_eq_some_iff]
  cases (Word.parse? name : Option Region) <;> simp [eq_comm]

/-! ## Numbers -/

namespace Decimal

/-- A text spells a natural number in digits, with or without a plus sign. -/
def Spells (text : String) (n : Nat) : Prop :=
  ∃ digits, (text.toList = digits ∨ text.toList = '+' :: digits) ∧ natural? digits = some n

theorem le_foldl_digits (digits : List Char) (n : Nat) :
    n ≤ digits.foldl (fun n c => 10 * n + (digit? c).getD 0) n := by
  induction digits generalizing n with
  | nil => exact Nat.le_refl n
  | cons c digits ih =>
    have hle : n ≤ 10 * n + (digit? c).getD 0 := by omega
    exact Nat.le_trans hle (ih _)

theorem gatherBelow_eq_ok_iff {bound k n : Nat} {digits : List Char} (hk : k < bound) :
    gatherBelow bound k digits = .ok n ↔
      digits.all isDigit = true ∧ digits.foldl (fun n c => 10 * n + (digit? c).getD 0) k = n ∧ n < bound := by
  induction digits generalizing k with
  | nil =>
    simp only [gatherBelow, Except.ok.injEq, List.all_nil, List.foldl_nil, true_and]
    constructor
    · rintro rfl
      exact ⟨rfl, hk⟩
    · exact And.left
  | cons c digits ih =>
    rw [gatherBelow, List.all_cons, List.foldl_cons, isDigit]
    cases hc : digit? c with
    | none => simp
    | some d =>
      by_cases hlt : 10 * k + d < bound
      · simp [hlt, ih hlt]
      · -- more digits do not make the number smaller
        have hle := le_foldl_digits digits (10 * k + d)
        simp only [hlt, if_false, Option.isSome_some, Bool.true_and, Option.getD_some]
        constructor
        · intro h
          cases h
        · rintro ⟨-, rfl, h⟩
          omega

theorem natural?_eq_some_iff {digits : List Char} {n : Nat} :
    natural? digits = some n ↔ digits ≠ [] ∧ digits.all isDigit = true ∧ ofDigits digits = n := by
  unfold natural?
  cases digits <;> simp

theorem below_eq_ok_iff {bound n : Nat} {text : String} (hbound : 0 < bound) :
    below bound text = .ok n ↔ Spells text n ∧ n < bound := by
  unfold below Spells
  simp only [natural?_eq_some_iff]
  split
  · rename_i h
    simp [h]
  · rename_i d digits h
    have hplus : isDigit '+' = false := by decide
    simp only [gatherBelow_eq_ok_iff hbound, h]
    constructor
    · rintro ⟨hall, hn, hlt⟩
      exact ⟨⟨d :: digits, .inr rfl, List.cons_ne_nil _ _, hall, hn⟩, hlt⟩
    · rintro ⟨⟨_, rfl | heq, -, hall, hn⟩, hlt⟩
      · simp [hplus] at hall
      · obtain rfl := (List.cons.inj heq).2
        exact ⟨hall, hn, hlt⟩
  · rename_i hne hplus
    simp only [gatherBelow_eq_ok_iff hbound]
    constructor
    · rintro ⟨hall, hn, hlt⟩
      exact ⟨⟨_, .inl rfl, hne, hall, hn⟩, hlt⟩
    · rintro ⟨⟨digits, rfl | heq, hdigits, hall, hn⟩, hlt⟩
      · exact ⟨hall, hn, hlt⟩
      · cases digits with
        | nil => exact absurd rfl hdigits
        | cons d digits => exact absurd heq (hplus d digits)

end Decimal

/-! ## Documents -/

/-- The texts of a credentials document; two of them may be absent. -/
structure Secret where
  apiKey : String
  region : Option String
  baseUrl : Option String

/-- A text that is more than blanks, if it is given. -/
def Text.filled? (text : Option String) : Option String := text.filter fun t => !Text.isBlankText t

namespace Secret

/-- Bytes spell a document in JSON. -/
def SpelledBy (s : Secret) (bytes : List UInt8) : Prop :=
  ∃ j, Json.parseBytes? bytes = some j ∧ Credentials.decodeTexts j = .ok (s.apiKey, s.region, s.baseUrl)

/-- The name of the region, unless it is left out or blank. -/
def regionName? (s : Secret) : Option String := (Text.filled? s.region).map Text.trim

/-- The base, unless it is left out or blank. -/
def base? (s : Secret) : Option String := Text.filled? s.baseUrl

/-- The document without its blank texts. -/
def unblanked (s : Secret) : Secret := { s with region := Text.filled? s.region, baseUrl := Text.filled? s.baseUrl }

end Secret

/-- What an environment names as its credentials document, if it does. -/
def Environment.Names (env : Environment) : Option Secret → Prop
  | none => env.set? "MAILGUN_CREDENTIALS_FILE" = none
  | some s => ∃ path bytes, env.set? "MAILGUN_CREDENTIALS_FILE" = some path ∧ env.look path = .file bytes ∧
      s.SpelledBy bytes

/-- The environment without its blank variables. -/
def Environment.unblanked (env : Environment) : Environment := { env with value? := env.set? }

/-! ## Settings -/

/-- A setting is what a text spells, if there is one, and otherwise what it was. -/
def Settled {α : Type} (spells : String → α → Prop) (text : Option String) (old new : α) : Prop :=
  match text with
  | some t => spells t new
  | none => new = old

namespace Settled

variable {α : Type} {spells : String → α → Prop} {text first second : Option String} {old new : α}

/-- Of two sources the second counts only without the first. -/
theorem orElse_iff : (∃ mid, Settled spells second old mid ∧ Settled spells first mid new) ↔
    (∃ mid, Settled spells second old mid) ∧ Settled spells (first <|> second) old new := by
  cases first with
  | none =>
    constructor
    · rintro ⟨mid, h, rfl⟩
      exact ⟨⟨new, h⟩, h⟩
    · rintro ⟨-, h⟩
      exact ⟨new, h, rfl⟩
  | some t => exact exists_and_right

theorem exists_iff : (∃ new, Settled spells text old new) ↔ ∀ t ∈ text, ∃ a, spells t a := by
  cases text with
  | none => simp [Settled]
  | some t => simp [Settled]

end Settled

/-- What a configuration becomes when a document and the variables of an environment are laid over it, field by field.
-/
structure Overlaid (env : Environment) (secret : Option Secret) (c c' : Config) : Prop where
  apiKey : c'.api.apiKey = (env.set? "MAILGUN_API_KEY" <|> secret.map (·.apiKey)).getD c.api.apiKey
  region : Settled (fun name r => r.CalledBy name) (env.set? "MAILGUN_REGION" <|> secret.bind (·.regionName?))
    c.api.region c'.api.region
  baseUrl : c'.api.baseUrl = (env.set? "MAILGUN_BASE_URL" <|> secret.bind (·.base?) <|> c.api.baseUrl)
  maxConcurrency : Settled (fun text n => Decimal.Spells text n.toNat) (env.set? "PROVIDER_MAX_CONCURRENCY")
    c.controller.maxConcurrency c'.controller.maxConcurrency
  address : Settled (fun text a => SocketAddress.parse? text = some a) (env.set? "PROVIDER_HEALTH_ADDR")
    c.server.address c'.server.address
  /-- Every other field is kept. -/
  rest : c' = { c with
    api := { c.api with apiKey := c'.api.apiKey, region := c'.api.region, baseUrl := c'.api.baseUrl }
    controller := { c.controller with maxConcurrency := c'.controller.maxConcurrency }
    server := { c.server with address := c'.server.address } }

/-- A document that is accepted has a key, and its region is one unless it is blank. -/
structure Secret.Accepted (s : Secret) : Prop where
  apiKey : Text.isBlankText s.apiKey = false
  region : ∀ name ∈ s.regionName?, ∃ r : Region, r.CalledBy name

/-! ## Steps -/

theorem bind_eq_ok_iff {ε α β : Type} {first : Except ε α} {next : α → Except ε β} {b : β} :
    (first >>= next) = .ok b ↔ ∃ a, first = .ok a ∧ next a = .ok b := by
  cases first with
  | error e => simp [bind, Except.bind]
  | ok a => simp [bind, Except.bind]

theorem mapError_eq_ok_iff {ε ε' α : Type} {result : Except ε α} {f : ε → ε'} {a : α} :
    result.mapError f = .ok a ↔ result = .ok a := by
  cases result <;> simp [Except.mapError]

theorem Found.bytes_eq_ok_iff {f : Found} {bytes : List UInt8} : f.bytes = .ok bytes ↔ f = .file bytes := by
  cases f <;> simp [Found.bytes]

namespace Credentials

theorem region?_eq_ok_iff {s : Secret} {r : Option Region} : region? s.region = .ok r ↔
    Settled (fun name r => ∃ region : Region, region.CalledBy name ∧ r = some region) s.regionName? none r := by
  unfold Secret.regionName? Text.filled?
  cases hs : s.region with
  | none => simp [region?, Settled, eq_comm]
  | some text =>
    rw [Option.filter_some]
    cases hblank : Text.isBlankText text with
    | true => simp [region?, Text.trim_eq_empty_iff.2 hblank, Settled, eq_comm]
    | false =>
      have htrim : Text.trim text ≠ "" := by simp [Text.trim_eq_empty_iff, hblank]
      rw [region?, if_pos (Bool.not_false), Option.map_some]
      split
      · rename_i h
        cases h
      · rename_i h
        exact absurd (Option.some.inj h) htrim
      · rename_i h
        obtain rfl := Option.some.inj h
        generalize Text.trim text = name
        exact Region.named_eq_ok_iff

theorem region?_some_iff {name : String} {r : Region} :
    region? (some name) = .ok (some r) ↔ r.CalledBy (Text.trim name) := by
  rw [@region?_eq_ok_iff ⟨"", some name, none⟩]
  unfold Secret.regionName? Text.filled?
  rw [Option.filter_some]
  cases hblank : Text.isBlankText name with
  | true =>
    have hnone : ¬r.CalledBy "" := by cases r <;> decide
    simp [Text.trim_eq_empty_iff.2 hblank, Settled, hnone]
  | false => simp [Settled]

/-- What is read of a document's region is what lays it over another. -/
theorem settled_of_region? {s : Secret} {r : Option Region} (h : region? s.region = .ok r) (old : Region) :
    Settled (fun name r => r.CalledBy name) s.regionName? old (r.getD old) := by
  have h := region?_eq_ok_iff.1 h
  revert h
  cases s.regionName? with
  | none =>
    rintro rfl
    rfl
  | some name =>
    rintro ⟨region, hcalled, rfl⟩
    exact hcalled

theorem exists_region?_of_settled {s : Secret} {old new : Region}
    (h : Settled (fun name r => r.CalledBy name) s.regionName? old new) :
    ∃ r, region? s.region = .ok r ∧ r.getD old = new := by
  simp only [region?_eq_ok_iff]
  cases hname : s.regionName? with
  | none =>
    rw [hname] at h
    exact ⟨none, rfl, h.symm⟩
  | some name =>
    rw [hname] at h
    exact ⟨some new, ⟨new, h, rfl⟩, rfl⟩

theorem textsOf_eq_ok_iff {complaints : Json.Complaints} {bytes : List UInt8} {s : Secret} :
    textsOf complaints bytes = .ok (s.apiKey, s.region, s.baseUrl) ↔ s.SpelledBy bytes := by
  unfold textsOf Secret.SpelledBy Json.readAs?
  cases Json.parseBytes? bytes with
  | none => simp
  | some j => cases h : decodeTexts j <;> simp [h, Except.toOption]

theorem ofBytes_eq_ok_iff {complaints : Json.Complaints} {bytes : List UInt8} {c : Credentials} :
    ofBytes complaints bytes = .ok c ↔ ∃ s : Secret, s.SpelledBy bytes ∧ Text.isBlankText s.apiKey = false ∧
      ∃ r, region? s.region = .ok r ∧ c = ⟨s.apiKey, r, s.base?⟩ := by
  unfold ofBytes
  constructor
  · intro h
    obtain ⟨⟨key, region, base⟩, hread, h⟩ := bind_eq_ok_iff.1 h
    have hspelled : Secret.SpelledBy ⟨key, region, base⟩ bytes := textsOf_eq_ok_iff.1 hread
    cases hkey : Text.isBlankText key with
    | true => simp [hkey, bind, Except.bind] at h
    | false =>
      simp only [hkey, Bool.false_eq_true, if_false] at h
      obtain ⟨r, hr, h⟩ := bind_eq_ok_iff.1 h
      exact ⟨⟨key, region, base⟩, hspelled, hkey, r, hr, (Except.ok.inj h).symm⟩
  · rintro ⟨s, hspelled, hkey, r, hr, rfl⟩
    simp only [textsOf_eq_ok_iff.2 hspelled, hkey, hr, bind, Except.bind]
    rfl

end Credentials

namespace Config

variable {complaints : Json.Complaints} {env : Environment} {c c' : Config} {text : String}

theorem override_eq_ok_iff {α : Type} {spells : String → α → Prop} (get : Config → α) (put : α → Config → Config)
    {change : String → Config → Except SetupError Config} {name : String} (hput : ∀ c, put (get c) c = c)
    (hchange : ∀ text c c', change text c = .ok c' ↔ ∃ a, spells text a ∧ c' = put a c) :
    override env name change c = .ok c' ↔ ∃ a, Settled spells (env.set? name) (get c) a ∧ c' = put a c := by
  unfold override
  cases env.set? name with
  | none => simp [Settled, hput, eq_comm]
  | some text => exact hchange text c c'

theorem withRegion_eq_ok_iff : withRegion text c = .ok c' ↔
    ∃ r : Region, r.CalledBy text ∧ c' = { c with api := { c.api with region := r } } :=
  Region.named_eq_ok_iff

theorem withConcurrency_eq_ok_iff : withConcurrency text c = .ok c' ↔ ∃ n : UInt64, Decimal.Spells text n.toNat ∧
    c' = { c with controller := { c.controller with maxConcurrency := n } } := by
  unfold withConcurrency
  rw [bind_eq_ok_iff]
  simp only [mapError_eq_ok_iff, Decimal.below_eq_ok_iff (show 0 < UInt64.size by decide)]
  constructor
  · rintro ⟨n, ⟨hspells, hlt⟩, h⟩
    refine ⟨UInt64.ofNat n, ?_, (Except.ok.inj h).symm⟩
    rwa [UInt64.toNat_ofNat_of_lt' hlt]
  · rintro ⟨n, hspells, rfl⟩
    exact ⟨n.toNat, ⟨hspells, n.toNat_lt⟩, by rw [UInt64.ofNat_toNat]; rfl⟩

theorem withAddress_eq_ok_iff : withAddress text c = .ok c' ↔
    ∃ a, SocketAddress.parse? text = some a ∧ c' = { c with server := { c.server with address := a } } := by
  unfold withAddress
  cases SocketAddress.parse? text <;> simp [eq_comm]

theorem withDocument_eq_ok_iff :
    override env "MAILGUN_CREDENTIALS_FILE" (withCredentials complaints env) c = .ok c' ↔
    ∃ secret, env.Names secret ∧ (∀ s ∈ secret, Text.isBlankText s.apiKey = false) ∧
      ∃ r, Settled (fun name (r : Region) => r.CalledBy name) (secret.bind (·.regionName?)) c.api.region r ∧
        c' = { c with api := { c.api with
          apiKey := (secret.map (·.apiKey)).getD c.api.apiKey
          region := r
          baseUrl := secret.bind (·.base?) <|> c.api.baseUrl } } := by
  unfold override
  constructor
  · intro h
    split at h
    · rename_i hunset
      obtain rfl := Except.ok.inj h
      exact ⟨none, hunset, by simp, c.api.region, rfl, rfl⟩
    · rename_i path hset
      obtain ⟨bytes, hbytes, h⟩ := bind_eq_ok_iff.1 h
      obtain ⟨creds, hcreds, h⟩ := bind_eq_ok_iff.1 h
      obtain ⟨s, hspelled, hkey, r, hr, rfl⟩ := Credentials.ofBytes_eq_ok_iff.1 hcreds
      rw [mapError_eq_ok_iff, Found.bytes_eq_ok_iff] at hbytes
      refine ⟨some s, ⟨path, bytes, hset, hbytes, hspelled⟩, by simpa using hkey, r.getD c.api.region, ?_,
        (Except.ok.inj h).symm⟩
      exact Credentials.settled_of_region? hr c.api.region
  · rintro ⟨secret, hnames, hkey, r, hr, rfl⟩
    cases secret with
    | none =>
      obtain rfl : r = c.api.region := hr
      rw [show env.set? _ = none from hnames]
      rfl
    | some s =>
      obtain ⟨path, bytes, hset, hfile, hspelled⟩ := hnames
      obtain ⟨region, hregion, rfl⟩ := Credentials.exists_region?_of_settled hr
      have hcreds : Credentials.ofBytes complaints bytes = .ok _ :=
        Credentials.ofBytes_eq_ok_iff.2 ⟨s, hspelled, hkey s rfl, region, hregion, rfl⟩
      rw [hset]
      simp only [withCredentials, hfile, Found.bytes, hcreds, Except.mapError, bind, Except.bind]
      rfl

theorem applyVariables_eq_ok_iff : applyVariables complaints env c = .ok c' ↔
    ∃ secret, env.Names secret ∧ (∀ s ∈ secret, s.Accepted) ∧ Overlaid env secret c c' := by
  have hkey (c c' : Config) := @override_eq_ok_iff env c c' _ (fun text key => key = text) (·.api.apiKey)
    (fun key c => { c with api := { c.api with apiKey := key } })
    (fun key c => .ok { c with api := { c.api with apiKey := key } }) "MAILGUN_API_KEY" (fun _ => rfl)
    (fun key c c' => by simp [eq_comm])
  have hregion (c c' : Config) := @override_eq_ok_iff env c c' _ (fun name r => r.CalledBy name) (·.api.region)
    (fun r c => { c with api := { c.api with region := r } }) withRegion "MAILGUN_REGION" (fun _ => rfl)
    (fun _ _ _ => withRegion_eq_ok_iff)
  have hbase (c c' : Config) := @override_eq_ok_iff env c c' _ (fun text base => base = some text) (·.api.baseUrl)
    (fun base c => { c with api := { c.api with baseUrl := base } })
    (fun url c => .ok { c with api := { c.api with baseUrl := some url } }) "MAILGUN_BASE_URL" (fun _ => rfl)
    (fun url c c' => by simp [eq_comm])
  have hmax (c c' : Config) := @override_eq_ok_iff env c c' _ (fun text n => Decimal.Spells text n.toNat)
    (·.controller.maxConcurrency) (fun n c => { c with controller := { c.controller with maxConcurrency := n } })
    withConcurrency "PROVIDER_MAX_CONCURRENCY" (fun _ => rfl) (fun _ _ _ => withConcurrency_eq_ok_iff)
  have haddress (c c' : Config) := @override_eq_ok_iff env c c' _ (fun text a => SocketAddress.parse? text = some a)
    (·.server.address) (fun a c => { c with server := { c.server with address := a } }) withAddress
    "PROVIDER_HEALTH_ADDR" (fun _ => rfl) (fun _ _ _ => withAddress_eq_ok_iff)
  unfold applyVariables
  simp only [bind_eq_ok_iff, withDocument_eq_ok_iff, hkey, hregion, hbase, hmax, haddress]
  constructor
  · rintro ⟨_, ⟨secret, hnames, hkeys, r, hr, rfl⟩, _, ⟨key, hkey, rfl⟩, _, ⟨r', hr', rfl⟩, _, ⟨base, hbase, rfl⟩,
      _, ⟨n, hn, rfl⟩, a, ha, rfl⟩
    obtain ⟨⟨_, hdocument⟩, hboth⟩ := Settled.orElse_iff.1 ⟨r, hr, hr'⟩
    refine ⟨secret, hnames, fun s hs => ⟨hkeys s hs, fun name hname => ?_⟩, ?_, hboth, ?_, hn, ha, rfl⟩
    · exact Settled.exists_iff.1 ⟨_, hdocument⟩ name (Option.bind_eq_some_iff.2 ⟨s, hs, hname⟩)
    · cases hset : env.set? "MAILGUN_API_KEY" <;> simp_all [Settled]
    · cases hset : env.set? "MAILGUN_BASE_URL" <;> simp_all [Settled]
  · rintro ⟨secret, hnames, haccepted, h⟩
    have hdocument : ∃ r, Settled (fun name (r : Region) => r.CalledBy name) (secret.bind (·.regionName?))
        c.api.region r := by
      refine Settled.exists_iff.2 fun name hname => ?_
      obtain ⟨s, hs, hname⟩ := Option.bind_eq_some_iff.1 hname
      exact (haccepted s hs).region name hname
    obtain ⟨r, hr, hr'⟩ := Settled.orElse_iff.2 ⟨hdocument, h.region⟩
    refine ⟨_, ⟨secret, hnames, fun s hs => (haccepted s hs).apiKey, r, hr, rfl⟩, _, ⟨c'.api.apiKey, ?_, rfl⟩,
      _, ⟨c'.api.region, hr', rfl⟩, _, ⟨c'.api.baseUrl, ?_, rfl⟩, _,
      ⟨c'.controller.maxConcurrency, h.maxConcurrency, rfl⟩, c'.server.address, h.address, h.rest⟩
    · have hkey := h.apiKey
      cases hset : env.set? "MAILGUN_API_KEY" <;> simp_all [Settled]
    · have hbase := h.baseUrl
      cases hset : env.set? "MAILGUN_BASE_URL" <;> simp_all [Settled]

/-! ## Sources that do not count -/

theorem filled?_filled? (text : Option String) : Text.filled? (Text.filled? text) = Text.filled? text := by
  simp [Text.filled?, Option.filter_filter]

theorem set?_unblanked (name : String) : env.unblanked.set? name = env.set? name := filled?_filled? (env.value? name)

theorem applyVariables_unblanked :
    applyVariables complaints env.unblanked c = applyVariables complaints env c := by
  simp only [applyVariables, override, set?_unblanked]
  rfl

theorem overlaid_unblanked {secret : Option Secret} :
    Overlaid env (secret.map Secret.unblanked) c c' ↔ Overlaid env secret c c' := by
  have hkey : (secret.map Secret.unblanked).map (·.apiKey) = secret.map (·.apiKey) := by cases secret <;> rfl
  have hregion : (secret.map Secret.unblanked).bind (·.regionName?) = secret.bind (·.regionName?) := by
    cases secret <;> simp [Secret.regionName?, Secret.unblanked, filled?_filled?]
  have hbase : (secret.map Secret.unblanked).bind (·.base?) = secret.bind (·.base?) := by
    cases secret <;> simp [Secret.base?, Secret.unblanked, filled?_filled?]
  constructor
  · rintro ⟨h1, h2, h3, h4, h5, h6⟩
    exact ⟨hkey ▸ h1, hregion ▸ h2, hbase ▸ h3, h4, h5, h6⟩
  · rintro ⟨h1, h2, h3, h4, h5, h6⟩
    exact ⟨hkey ▸ h1, hregion ▸ h2, hbase ▸ h3, h4, h5, h6⟩

/-- The names of regions are read alike in any letter case, from a variable and from a document. -/
theorem region_of_same_letters {name other : String} (h : Text.lowercaseAscii name = Text.lowercaseAscii other)
    (r : Region) : ((Word.parse? name : Option Region) = some r ↔ Word.parse? other = some r) ∧
      (Credentials.region? (some name) = .ok (some r) ↔ Credentials.region? (some other) = .ok (some r)) := by
  have htrim : Text.lowercaseAscii (Text.trim name) = Text.lowercaseAscii (Text.trim other) := by
    rw [Text.lowercaseAscii_trim, Text.lowercaseAscii_trim, h]
  rw [Region.parse?_eq_some_iff, Region.parse?_eq_some_iff, Credentials.region?_some_iff, Credentials.region?_some_iff]
  unfold Region.CalledBy
  rw [h, htrim]
  exact ⟨Iff.rfl, Iff.rfl⟩

/-- Loading takes each setting from the first source that has it: the key of the API from its variable, the credentials
document or the configuration, and so its region and its base, unless they are blank in the document; the number of
operations and the address of the server from their variables or the configuration; everything else is kept. It succeeds
exactly if the document, if one is named, is one, and the texts that count are. Variables and texts of the document that
are blank might as well be absent, and the name of a region may be in any letter case. -/
theorem settings_by_precedence (complaints : Json.Complaints) (env : Environment) (c : Config) :
    (∀ c', applyVariables complaints env c = .ok c' ↔
      ∃ secret, env.Names secret ∧ (∀ s ∈ secret, s.Accepted) ∧ Overlaid env secret c c') ∧
    applyVariables complaints env.unblanked c = applyVariables complaints env c ∧
    (∀ secret c', Overlaid env (secret.map Secret.unblanked) c c' ↔ Overlaid env secret c c') ∧
    ∀ name other, Text.lowercaseAscii name = Text.lowercaseAscii other → ∀ r : Region,
      ((Word.parse? name : Option Region) = some r ↔ Word.parse? other = some r) ∧
      (Credentials.region? (some name) = .ok (some r) ↔ Credentials.region? (some other) = .ok (some r)) :=
  ⟨fun _ => applyVariables_eq_ok_iff, applyVariables_unblanked, fun _ _ => overlaid_unblanked,
    fun _ _ h r => region_of_same_letters h r⟩

/-- A document whose region is in capitals and whose base is blank, below a blank key and a base among the variables. -/
theorem document_below_variables :
    let secret := Json.object [("apiKey", .string "key-secret"), ("region", .string " EU "), ("baseUrl", .string " ")]
    let given := [("MAILGUN_CREDENTIALS_FILE", "secret.json"), ("MAILGUN_API_KEY", "  "),
      ("MAILGUN_BASE_URL", "http://127.0.0.1:1"), ("PROVIDER_MAX_CONCURRENCY", "+4")]
    let env : Environment := ⟨fun _ => .file (Text.encode secret.render), fun name => given.lookup name, none⟩
    applyVariables .placeless env {} = .ok {
      api := { region := .eu, baseUrl := some "http://127.0.0.1:1", apiKey := "key-secret" }
      controller := { maxConcurrency := 4 } } := by
  intro secret given env
  obtain ⟨hsettings, -⟩ := settings_by_precedence .placeless env {}
  have hplain : Json.Plain secret := .object (by simp [Json.Plain.string])
  have hspelled : Secret.SpelledBy ⟨"key-secret", some " EU ", some " "⟩ (Text.encode secret.render) :=
    ⟨secret, (Json.parse?_render hplain).2, rfl⟩
  have hcalled : Region.CalledBy .eu (Text.trim " EU ") := by decide
  have hfour : Decimal.Spells "+4" 4 := ⟨['4'], .inr rfl, rfl⟩
  have hregion : Secret.regionName? ⟨"key-secret", some " EU ", some " "⟩ = some (Text.trim " EU ") := by decide
  have hsets : env.set? "MAILGUN_CREDENTIALS_FILE" = some "secret.json" ∧ env.set? "MAILGUN_API_KEY" = none ∧
      env.set? "MAILGUN_REGION" = none ∧ env.set? "MAILGUN_BASE_URL" = some "http://127.0.0.1:1" ∧
      env.set? "PROVIDER_MAX_CONCURRENCY" = some "+4" ∧ env.set? "PROVIDER_HEALTH_ADDR" = none := by decide
  obtain ⟨hfile, hkey, hname, hbase, hmax, haddress⟩ := hsets
  refine (hsettings _).2 ⟨some ⟨"key-secret", some " EU ", some " "⟩, ⟨"secret.json", _, hfile, rfl, hspelled⟩, ?_, ?_⟩
  · intro s hs
    obtain rfl := Option.mem_some.1 hs
    refine ⟨by decide, fun name hname => ?_⟩
    rw [hregion] at hname
    obtain rfl := Option.mem_some.1 hname
    exact ⟨.eu, hcalled⟩
  · constructor
    · rw [hkey]
      rfl
    · rw [hname, Option.bind_some, hregion]
      exact hcalled
    · rw [hbase]
      rfl
    · rw [hmax]
      exact hfour
    · rw [haddress]
      rfl
    · rfl

end Config

end MailReconciler
