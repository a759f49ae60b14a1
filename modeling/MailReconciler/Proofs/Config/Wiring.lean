/-
Configurations that pass the check are those from which a provider can be put together: the check and the transport,
the breaker and the policy refuse the same settings. The policy of a checked configuration is its profile with what is
set in the place of the profile's own, and it is workable.
-/
import MailReconciler.Provider.Basic
import MailReconciler.Proofs.Breaker.Invariant
import MailReconciler.Proofs.Config.Precedence
import MailReconciler.Proofs.Retry.Backoff
import MailReconciler.Proofs.Text.Phrases

namespace MailReconciler

/-! ## Bases -/

/-- The URL of a web server. -/
def IsWebBase (names : HostNames) (base : String) : Prop :=
  ∃ url, Url.parse names base = .ok url ∧ (url.scheme = "http" ∨ url.scheme = "https")

variable {names : HostNames}

theorem Config.checkBase_eq_ok_iff {base : String} : checkBase names base = .ok () ↔ IsWebBase names base := by
  unfold checkBase IsWebBase
  cases Url.parse names base with
  | error e => simp
  | ok url => by_cases h : url.scheme = "http" ∨ url.scheme = "https" <;> simp [h]

theorem Transport.build_eq_ok_iff {t t' : Transport} : t.build names = .ok t' ↔ IsWebBase names t.base ∧
    (∀ agent ∈ t.userAgent, agent.toList.all isHeaderChar = true) ∧ t' = { t with base := trimSlashes t.base } := by
  have hagent : (t.userAgent.any fun agent => !agent.toList.all isHeaderChar) = true ↔
      ¬∀ agent ∈ t.userAgent, agent.toList.all isHeaderChar = true := by
    cases t.userAgent <;> simp
  unfold build IsWebBase
  cases Url.parse names t.base with
  | error e => simp
  | ok url =>
    simp only [hagent, Except.ok.injEq, exists_eq_left']
    by_cases hweb : url.scheme = "http" ∨ url.scheme = "https"
    · rw [if_neg (show ¬(url.scheme ≠ "http" ∧ url.scheme ≠ "https") by tauto)]
      by_cases hall : ∀ agent ∈ t.userAgent, agent.toList.all isHeaderChar = true
      · rw [if_neg (not_not_intro hall), Except.ok.injEq]
        exact ⟨fun h => ⟨hweb, hall, h.symm⟩, fun h => h.2.2.symm⟩
      · rw [if_pos hall]
        exact ⟨fun h => (by cases h), fun h => absurd h.2.1 hall⟩
    · rw [if_pos (show url.scheme ≠ "http" ∧ url.scheme ≠ "https" by tauto)]
      exact ⟨fun h => (by cases h), fun h => absurd h.1 hweb⟩

/-! ## Policies -/

/-- The policy that a profile stands for. -/
def RetryProfile.policy : RetryProfile → Policy
  | .conservative => .conservative
  | .api => .api

/-- A policy that retries by the settings of a section: each setting is the one that is set, or else the profile's. -/
structure RetrySection.Sets (s : RetrySection) (p : Policy) : Prop where
  maxAttempts : p.maxAttempts = s.maxAttempts.getD s.profile.policy.maxAttempts
  initial : p.initial = s.initial.getD s.profile.policy.initial
  longest : p.longest = s.longest.getD s.profile.policy.longest
  jitter : p.jitter = s.jitter.getD s.profile.policy.jitter
  mem_phrases : ∀ phrase, phrase ∈ p.phrases ↔
    phrase ∈ s.profile.policy.phrases ∨ ∃ extra ∈ s.phrases, phrase = Text.lowercase extra
  isPhraseSet : Text.IsPhraseSet p.phrases

/-- A policy that allows an attempt, whose first wait is not above its longest, and whose jitter is a part of one. -/
structure Policy.Workable (p : Policy) : Prop where
  one_le : 1 ≤ p.maxAttempts.toNat
  initial_le : p.initial ≤ p.longest
  isFinite : p.jitter.isFinite = true
  nonneg : 0.0 ≤ p.jitter
  le_one : p.jitter ≤ 1.0

theorem Policy.check_eq_ok_iff_workable {p q : Policy} : p.check = .ok q ↔ q = p ∧ p.Workable := by
  constructor
  · intro h
    have hq : q = p := by
      unfold check at h
      repeat' split at h
      all_goals cases h
      rfl
    subst hq
    obtain ⟨hmax, hle, hjitter⟩ := check_eq_ok_iff.1 h
    simp only [isFractionOfOne, Bool.and_eq_true, decide_eq_true_eq] at hjitter
    exact ⟨rfl, Breaker.toNat_pos_of_ne_zero hmax, hle, hjitter.1.1, hjitter.1.2, hjitter.2⟩
  · rintro ⟨rfl, h⟩
    refine check_eq_ok_iff.2 ⟨fun hzero => ?_, h.initial_le, by simp [isFractionOfOne, h.isFinite, h.nonneg, h.le_one]⟩
    have hone := h.one_le
    rw [hzero] at hone
    exact absurd hone (by decide)

theorem foldl_addPhrase (extras : List String) (p : Policy) : extras.foldl Policy.addPhrase p =
    { p with phrases := extras.foldl (fun set e => Text.insertPhrase (Text.lowercase e) set) p.phrases } := by
  induction extras generalizing p with
  | nil => rfl
  | cons e extras ih => exact ih (p.addPhrase e)

theorem RetryProfile.isPhraseSet (profile : RetryProfile) : Text.IsPhraseSet profile.policy.phrases := by
  cases profile <;> exact Text.isPhraseSet_phraseSet _

theorem RetrySection.Sets.unique {s : RetrySection} {p q : Policy} (hp : s.Sets p) (hq : s.Sets q) : p = q := by
  have hphrases : p.phrases = q.phrases :=
    hp.isPhraseSet.ext hq.isPhraseSet fun phrase => (hp.mem_phrases phrase).trans (hq.mem_phrases phrase).symm
  cases p
  cases q
  congr 1
  · exact hp.maxAttempts.trans hq.maxAttempts.symm
  · exact hp.initial.trans hq.initial.symm
  · exact hp.longest.trans hq.longest.symm
  · exact hp.jitter.trans hq.jitter.symm

/-- The policy that a section sets. -/
def RetrySection.tuned (s : RetrySection) : Policy where
  maxAttempts := s.maxAttempts.getD s.profile.policy.maxAttempts
  initial := s.initial.getD s.profile.policy.initial
  longest := s.longest.getD s.profile.policy.longest
  jitter := s.jitter.getD s.profile.policy.jitter
  phrases := s.phrases.foldl (fun set e => Text.insertPhrase (Text.lowercase e) set) s.profile.policy.phrases

theorem RetrySection.sets_tuned (s : RetrySection) : s.Sets s.tuned where
  maxAttempts := rfl
  initial := rfl
  longest := rfl
  jitter := rfl
  mem_phrases _ := Text.mem_foldl_insertPhrase _
  isPhraseSet := s.profile.isPhraseSet.foldl _

theorem RetrySection.policy_eq (s : RetrySection) : s.policy = s.tuned.check := by
  rw [policy, foldl_addPhrase, tuned]
  cases s.profile <;> rfl

/-- A section gives a policy exactly if the one that it sets is workable. -/
theorem RetrySection.policy_eq_ok_iff {s : RetrySection} {p : Policy} : s.policy = .ok p ↔ s.Sets p ∧ p.Workable := by
  rw [policy_eq, Policy.check_eq_ok_iff_workable]
  constructor
  · rintro ⟨rfl, h⟩
    exact ⟨s.sets_tuned, h⟩
  · rintro ⟨hsets, h⟩
    obtain rfl := hsets.unique s.sets_tuned
    exact ⟨rfl, h⟩

/-! ## Configurations -/

theorem BreakerSection.checkedSettings_eq_ok_iff {s : BreakerSection} {settings : BreakerSettings} :
    s.checkedSettings = .ok settings ↔ Text.isBlankText s.name = false ∧ s.settings.failureThreshold ≠ 0 ∧
      s.settings.successThreshold ≠ 0 ∧ settings = s.settings := by
  unfold checkedSettings BreakerSettings.check
  cases Text.isBlankText s.name with
  | true => simp
  | false =>
    by_cases hfailures : s.settings.failureThreshold = 0
    · simp [hfailures]
    · by_cases hsuccesses : s.settings.successThreshold = 0
      · simp [hfailures, hsuccesses]
      · simp [hfailures, hsuccesses, eq_comm]

namespace Config

variable {complaints : Json.Complaints} {c : Config}

theorem check_eq_ok_iff : c.check names = .ok () ↔
    Text.isBlankText c.api.apiKey = false ∧ Text.isBlankText c.api.username = false ∧
      1 ≤ c.controller.maxConcurrency.toNat ∧ (∃ settings, c.breaker.checkedSettings = .ok settings) ∧
      (∃ p, c.retry.policy = .ok p) ∧ IsWebBase names c.api.effectiveBase := by
  have hone : 1 ≤ c.controller.maxConcurrency.toNat ↔ c.controller.maxConcurrency ≠ 0 := by
    rw [Nat.one_le_iff_ne_zero, ne_eq, ne_eq, ← UInt64.toNat_inj]
    rfl
  rw [hone, ← checkBase_eq_ok_iff]
  unfold check
  cases Text.isBlankText c.api.apiKey with
  | true => simp [bind, Except.bind]
  | false =>
    cases Text.isBlankText c.api.username with
    | true => simp [bind, Except.bind]
    | false =>
      cases checkBase names c.api.effectiveBase with
      | error e => simp [bind, Except.bind]
      | ok =>
        by_cases hzero : c.controller.maxConcurrency = 0
        · simp [hzero, bind, Except.bind]
        · cases c.breaker.checkedSettings <;> cases c.retry.policy <;>
            simp [hzero, bind, Except.bind, pure, Except.pure]

/-- What is loaded was read, has the variables laid over it, and passes the check. -/
theorem load_eq_ok_iff {env : Environment} {path : Option String} : load names complaints env path = .ok c ↔
    ∃ read, (match path <|> env.probe? with
      | some path => loadFile complaints env path
      | none => .ok {}) = .ok read ∧ applyVariables complaints env read = .ok c ∧ c.check names = .ok () := by
  have hchecked (read : Config) : (do
      let c ← applyVariables complaints env read
      c.check names
      return c) = .ok c ↔ applyVariables complaints env read = .ok c ∧ c.check names = .ok () := by
    rw [bind_eq_ok_iff]
    constructor
    · rintro ⟨c', hvariables, h⟩
      obtain ⟨⟨⟩, hcheck, h⟩ := bind_eq_ok_iff.1 h
      obtain rfl := Except.ok.inj h
      exact ⟨hvariables, hcheck⟩
    · rintro ⟨hvariables, hcheck⟩
      exact ⟨c, hvariables, bind_eq_ok_iff.2 ⟨(), hcheck, rfl⟩⟩
  simp only [← hchecked]
  unfold load
  cases path <|> env.probe? with
  | some path => exact bind_eq_ok_iff
  | none => exact ⟨fun h => ⟨{}, rfl, h⟩, fun ⟨_, rfl, h⟩ => h⟩

theorem loadFile_of_text {env : Environment} {path text : String} {format : DocumentFormat} {j : Json}
    (hfile : env.look path = .file (Text.encode text)) (hformat : formatOf path = .ok format)
    (hread : format.read? text = some j) (hdecode : decode format j = .ok c) :
    loadFile complaints env path = .ok c := by
  have htext : (env.look path).text = .ok text := by
    simp only [hfile, Found.text, Found.bytes, bind, Except.bind, Text.decodeStrict?_encode]
  have hpresent : (env.look path).present = true := by rw [hfile]; rfl
  simp only [loadFile, hpresent, htext, hformat, ofText, Json.readAs?, hread, Option.bind_some, hdecode,
    Except.mapError, bind, Except.bind]
  rfl

theorem userAgent_sendable : userAgent.toList.all Transport.isHeaderChar = true := by decide

/-- Nothing of a checked configuration is refused by the transport. -/
theorem exists_transport (h : c.check names = .ok ()) : ∃ t, c.transport names = .ok t := by
  obtain ⟨-, -, -, -, -, hbase⟩ := check_eq_ok_iff.1 h
  refine ⟨_, Transport.build_eq_ok_iff.2 ⟨hbase, fun agent hagent => ?_, rfl⟩⟩
  obtain rfl := Option.mem_some.1 hagent
  exact userAgent_sendable

/-- Nothing of a checked configuration is refused by the breaker or the policy, over any service. -/
theorem exists_assembled (h : c.check names = .ok ()) {ρ : Type} (service : Service ρ) (clock : BreakerClock)
    (random : RandomWords) (remote : ρ) : ∃ p w, Provider.assemble c service clock random remote = .ok (p, w) ∧
      p.config = c ∧ p.client.service = service ∧ c.retry.Sets p.client.policy ∧ p.client.policy.Workable := by
  obtain ⟨-, -, -, ⟨settings, hsettings⟩, ⟨policy, hpolicy⟩, -⟩ := check_eq_ok_iff.1 h
  obtain ⟨-, hfailures, hsuccesses, rfl⟩ := BreakerSection.checkedSettings_eq_ok_iff.1 hsettings
  obtain ⟨hsets, hworkable⟩ := RetrySection.policy_eq_ok_iff.1 hpolicy
  obtain ⟨breaker, samples, hcreate⟩ : ∃ b samples,
      Breaker.create c.breaker.name c.breaker.settings = .ok (b, samples) :=
    ⟨_, _, Breaker.create_eq_ok_iff.2 ⟨hfailures, hsuccesses, rfl, rfl⟩⟩
  have hguards : Provider.guards c = .ok (breaker, samples, policy) := by
    simp only [Provider.guards, hsettings, hcreate, hpolicy, bind, Except.bind]
    rfl
  exact ⟨⟨c, ⟨service, policy⟩⟩, _, by rw [Provider.assemble, hguards], rfl, rfl, hsets, hworkable⟩

theorem exists_overCarrier (h : c.check names = .ok ()) {ρ : Type} (carrier : Carrier ρ) (random : RandomWords)
    (remote : ρ) : ∃ p w, Provider.overCarrier names complaints c carrier random remote = .ok (p, w) := by
  obtain ⟨t, ht⟩ := exists_transport h
  obtain ⟨p, w, hassemble, -⟩ := exists_assembled h (t.service names complaints carrier) .ofRun random remote
  exact ⟨p, w, by rw [Provider.overCarrier, ht]; exact hassemble⟩

/-- The check accepts exactly the configurations with a key, a user and an operation at a time whose breaker and
policy are accepted on their own and whose base is accepted by a transport, whatever international host names there
are. So what has been loaded is refused neither by the transport nor by the breaker or the policy, whatever service or
carrier the provider is put together over. The policy in use is what the retry section sets: each setting that is set,
the profile's for the others, and the phrases of both; it allows an attempt, begins with a wait that is not above its
longest, and has a jitter between zero and one. -/
theorem check_accepts_wirable (names : HostNames) (complaints : Json.Complaints) :
    (∀ c : Config, c.check names = .ok () ↔
      Text.isBlankText c.api.apiKey = false ∧ Text.isBlankText c.api.username = false ∧
      1 ≤ c.controller.maxConcurrency.toNat ∧ (∃ settings, c.breaker.checkedSettings = .ok settings) ∧
      (∃ p, c.retry.policy = .ok p) ∧ ∃ t, Transport.build names { base := c.api.effectiveBase } = .ok t) ∧
    ∀ env path c, load names complaints env path = .ok c →
      (∃ t, c.transport names = .ok t) ∧
      (∀ (ρ : Type) (service : Service ρ) clock random remote, ∃ p w,
        Provider.assemble c service clock random remote = .ok (p, w) ∧ p.config = c ∧ p.client.service = service ∧
        c.retry.Sets p.client.policy ∧ p.client.policy.Workable) ∧
      ∀ (ρ : Type) (carrier : Carrier ρ) random remote, ∃ p w,
        Provider.overCarrier names complaints c carrier random remote = .ok (p, w) := by
  constructor
  · intro c
    have hbase : (∃ t, Transport.build names { base := c.api.effectiveBase } = .ok t) ↔
        IsWebBase names c.api.effectiveBase := by
      simp [Transport.build_eq_ok_iff]
    rw [check_eq_ok_iff, hbase]
  · intro env path c h
    obtain ⟨-, -, -, hcheck⟩ := load_eq_ok_iff.1 h
    exact ⟨exists_transport hcheck, fun _ => exists_assembled hcheck, fun _ => exists_overCarrier hcheck⟩

/-- A file that sets a key, the number of attempts and a phrase of its own. -/
theorem tuned_file_wired :
    let document := Json.object [
      ("api", .object [("api_key", .string "key-test")]),
      ("retry", .object [("max_attempts", .int 7), ("extra_retryable_substrings", .array [.string "Upstream Reset"])])]
    let env : Environment := ⟨fun _ => .file (Text.encode document.render), fun _ => none, none⟩
    let c : Config := {
      api := { apiKey := "key-test" }
      retry := { maxAttempts := some 7, phrases := ["Upstream Reset"] } }
    load .plain .placeless env (some "config.json") = .ok c ∧
      ∃ p w, Provider.overCarrier .plain .placeless c .offline (.cycle [0]) () = .ok (p, w) := by
  intro document env c
  have hplain : Json.Plain document := by
    have hapi : Json.Plain (.object [("api_key", .string "key-test")]) := .object (by simp [Json.Plain.string])
    have hphrases : Json.Plain (.array [.string "Upstream Reset"]) := .array (by simp [Json.Plain.string])
    have hretry : Json.Plain (.object [("max_attempts", .int 7),
        ("extra_retryable_substrings", .array [.string "Upstream Reset"])]) :=
      .object (by simpa [hphrases] using Json.Plain.integer ⟨by decide, by decide⟩)
    exact .object (by simpa using ⟨hapi, hretry⟩)
  have hfile : loadFile .placeless env "config.json" = .ok c := by
    have hformat : formatOf "config.json" = .ok .json := by decide
    have hread : DocumentFormat.json.read? document.render = some document := (Json.parse?_render hplain).1
    exact loadFile_of_text rfl hformat hread rfl
  have hpolicy : c.retry.policy = .ok c.retry.tuned :=
    RetrySection.policy_eq_ok_iff.2 ⟨c.retry.sets_tuned, by decide, by decide, by decide +kernel, by decide +kernel,
      by decide +kernel⟩
  have hbase : IsWebBase .plain c.api.effectiveBase := by
    have hscheme : ((Url.parse .plain c.api.effectiveBase).toOption.any fun url => url.scheme == "https") = true := by
      decide +kernel
    cases hurl : Url.parse .plain c.api.effectiveBase with
    | error e => simp [hurl, Except.toOption] at hscheme
    | ok url => exact ⟨url, hurl, .inr (by simpa [hurl, Except.toOption] using hscheme)⟩
  have hcheck : c.check .plain = .ok () :=
    check_eq_ok_iff.2 ⟨by decide, by decide, by decide,
      ⟨_, BreakerSection.checkedSettings_eq_ok_iff.2 ⟨by decide, by decide, by decide, rfl⟩⟩, ⟨_, hpolicy⟩, hbase⟩
  have hload : load .plain .placeless env (some "config.json") = .ok c := load_eq_ok_iff.2 ⟨c, hfile, rfl, hcheck⟩
  obtain ⟨-, hwired⟩ := check_accepts_wirable .plain .placeless
  obtain ⟨-, -, hcarrier⟩ := hwired env _ c hload
  exact ⟨hload, hcarrier _ _ _ _⟩

end Config

end MailReconciler
