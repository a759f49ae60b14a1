/-
Policies that are built change by change. A phrase that is added, by whatever way and in whatever letter case, is found
in every error whose text holds it in some letter case: an ASCII phrase is lower-cased letter by letter, and so is what
stands for it in the text, whatever is around it. The phrases are a set, so a built policy is determined by which
phrases are in force at the end, and not by how often or in which order they were given.
-/
import MailReconciler.Failure.Plain
import MailReconciler.Proofs.Config.Wiring
import MailReconciler.Proofs.Text.Letters
import MailReconciler.Retry.Classification

namespace MailReconciler

/-! ## Phrases in any letter case -/

namespace Text

variable {phrase text : String}

/-- All characters are ASCII characters. -/
def IsAscii (text : String) : Prop := ∀ c ∈ text.toList, c.toNat < 0x80

/-- The phrase stands somewhere in the text, up to the case of ASCII letters. -/
def HoldsInAnyCase (text phrase : String) : Prop :=
  ∃ left found right, text = left ++ found ++ right ∧ lowercaseAscii found = lowercaseAscii phrase

theorem map_lowerAscii_inj {a b : String} :
    lowercaseAscii a = lowercaseAscii b ↔ a.toList.map lowerAscii = b.toList.map lowerAscii :=
  String.ofList_inj

/-- What is an ASCII text in another letter case is one itself. -/
theorem IsAscii.of_lowercaseAscii_eq {a b : String} (hb : IsAscii b) (h : lowercaseAscii a = lowercaseAscii b) :
    IsAscii a := by
  intro c hc
  have hin : lowerAscii c ∈ b.toList.map lowerAscii := map_lowerAscii_inj.1 h ▸ List.mem_map_of_mem hc
  obtain ⟨d, hd, heq⟩ := List.mem_map.1 hin
  rw [← ascii_lowerAscii_iff, ← heq, ascii_lowerAscii_iff]
  exact hb d hd

theorem IsAscii.lowercase_eq (h : IsAscii text) : lowercase text = lowercaseAscii text := by
  rw [lowercase, lowercaseAscii, lowerChars, lowerFrom_of_not_mem (sigma_not_mem_of_ascii h),
    flatMap_lowerAlone_of_ascii h]

/-- A text that holds an ASCII phrase in any letter case mentions it in lower case. -/
theorem mentions_lowercase (hphrase : IsAscii phrase) (h : HoldsInAnyCase text phrase) :
    mentions (lowercase text) (lowercase phrase) = true := by
  obtain ⟨left, found, right, rfl, hfound⟩ := h
  have hascii : IsAscii found := hphrase.of_lowercaseAscii_eq hfound
  have hin : found.toList <:+: (left ++ found ++ right).toList := by
    rw [String.toList_append, String.toList_append]
    exact ⟨_, _, rfl⟩
  have hlower := infix_lowerChars (sigma_not_mem_of_ascii hascii) hin
  rw [flatMap_lowerAlone_of_ascii hascii, map_lowerAscii_inj.1 hfound] at hlower
  rw [mentions, holdsPhrase_iff, hphrase.lowercase_eq, toList_lowercase, lowercaseAscii, String.toList_ofList]
  exact hlower

end Text

/-! ## Changes of a policy -/

namespace Policy

/-- What can be asked for while a policy is built. -/
inductive Change where
  | attempts (n : UInt32)
  | initial (wait : Duration)
  | longest (wait : Duration)
  | jitter (fraction : Float)
  /-- One phrase more. -/
  | add (phrase : String)
  /-- These phrases in the place of all there are. -/
  | replace (phrases : List String)

namespace Change

/-- The policy after a change. -/
def apply (p : Policy) : Change → Policy
  | attempts n => { p with maxAttempts := n }
  | initial wait => { p with initial := wait }
  | longest wait => { p with longest := wait }
  | jitter fraction => { p with jitter := fraction }
  | add phrase => p.addPhrase phrase
  | replace phrases => p.setPhrases phrases

/-- The phrases that a change gives. -/
def given : Change → List String
  | add phrase => [phrase]
  | replace phrases => phrases
  | _ => []

/-- Whether a change drops the phrases that there are. -/
def replaces : Change → Bool
  | replace _ => true
  | _ => false

/-- Whether a change is about phrases. -/
def isWording : Change → Bool
  | add _ | replace _ => true
  | _ => false

/-- The set of phrases after a change. -/
def reword (set : List String) : Change → List String
  | add phrase => Text.insertPhrase (Text.lowercase phrase) set
  | replace phrases => phrasesOf phrases
  | _ => set

end Change

/-- The policy that changes make of another one, checked. -/
def build (p : Policy) (changes : List Change) : Except SetupError Policy := (changes.foldl Change.apply p).check

/-- The phrases in force after some changes: those given by one of them and not dropped by a later one. -/
def InForce (phrase : String) : List Change → Prop
  | [] => False
  | change :: later => phrase ∈ change.given ∧ (∀ c ∈ later, c.replaces = false) ∨ InForce phrase later

variable {p : Policy} {change : Change} {changes changes' : List Change} {phrase word : String} {set : List String}

/-! ## Phrases and settings apart -/

theorem Change.phrases_apply (p : Policy) (change : Change) : (change.apply p).phrases = change.reword p.phrases := by
  cases change <;> rfl

theorem Change.apply_of_isWording (h : change.isWording = true) (p : Policy) :
    change.apply p = { p with phrases := change.reword p.phrases } := by
  cases change with
  | add _ | replace _ => rfl
  | attempts _ | initial _ | longest _ | jitter _ => cases h

/-- A change that is not about phrases leaves them alone, and does not read them. -/
theorem Change.apply_of_not_isWording (h : change.isWording = false) (p : Policy) (set : List String) :
    change.apply { p with phrases := set } = { change.apply p with phrases := set } ∧ change.reword set = set := by
  cases change with
  | add _ | replace _ => cases h
  | attempts _ | initial _ | longest _ | jitter _ => exact ⟨rfl, rfl⟩

theorem foldl_apply_settings (h : ∀ c ∈ changes, c.isWording = false) (p : Policy) (set : List String) :
    changes.foldl Change.apply { p with phrases := set } = { changes.foldl Change.apply p with phrases := set } := by
  induction changes generalizing p with
  | nil => rfl
  | cons change later ih =>
    rw [List.foldl_cons, (Change.apply_of_not_isWording (h _ List.mem_cons_self) p set).1,
      ih fun c hc => h c (List.mem_cons_of_mem _ hc)]
    rfl

/-- The settings come from the changes that are not about phrases, in their order, and the phrases from the others. -/
theorem foldl_apply (changes : List Change) (p : Policy) : changes.foldl Change.apply p =
    { (changes.filter fun c => !c.isWording).foldl Change.apply p with
      phrases := changes.foldl Change.reword p.phrases } := by
  induction changes generalizing p with
  | nil => rfl
  | cons change later ih =>
    rw [List.foldl_cons, List.foldl_cons, ih, Change.phrases_apply, List.filter_cons]
    cases hwording : change.isWording with
    | true =>
      have hrest : ∀ c ∈ later.filter fun c => !c.isWording, c.isWording = false := fun c hc => by
        simpa using (List.mem_filter.1 hc).2
      rw [Change.apply_of_isWording hwording, foldl_apply_settings hrest]
      rfl
    | false => rfl

/-! ## Phrases in force -/

theorem mem_reword (change : Change) (set : List String) : word ∈ change.reword set ↔
    (∃ phrase ∈ change.given, word = Text.lowercase phrase) ∨ change.replaces = false ∧ word ∈ set := by
  cases change with
  | add phrase => simp [Change.reword, Change.given, Change.replaces, Text.mem_insertPhrase]
  | replace phrases =>
    simp [Change.reword, Change.given, Change.replaces, phrasesOf, Text.phraseSet, List.foldl_map,
      Text.mem_foldl_insertPhrase]
  | attempts _ | initial _ | longest _ | jitter _ => simp [Change.reword, Change.given, Change.replaces]

/-- The phrases of a built policy: those in force in lower case, and those that were there before, unless they are
dropped. -/
theorem mem_foldl_reword : word ∈ changes.foldl Change.reword set ↔
    (∃ phrase, InForce phrase changes ∧ word = Text.lowercase phrase) ∨
      (∀ c ∈ changes, c.replaces = false) ∧ word ∈ set := by
  induction changes generalizing set with
  | nil => simp [InForce]
  | cons change later ih =>
    rw [List.foldl_cons, ih, mem_reword, List.forall_mem_cons]
    constructor
    · rintro (⟨phrase, hforce, hword⟩ | ⟨hlater, ⟨phrase, hgiven, hword⟩ | ⟨hkept, hset⟩⟩)
      · exact .inl ⟨phrase, .inr hforce, hword⟩
      · exact .inl ⟨phrase, .inl ⟨hgiven, hlater⟩, hword⟩
      · exact .inr ⟨⟨hkept, hlater⟩, hset⟩
    · rintro (⟨phrase, ⟨hgiven, hlater⟩ | hforce, hword⟩ | ⟨⟨hkept, hlater⟩, hset⟩)
      · exact .inr ⟨hlater, .inl ⟨phrase, hgiven, hword⟩⟩
      · exact .inl ⟨phrase, hforce, hword⟩
      · exact .inr ⟨hlater, .inr ⟨hkept, hset⟩⟩

theorem isPhraseSet_reword (hset : Text.IsPhraseSet set) (change : Change) :
    Text.IsPhraseSet (change.reword set) := by
  cases change with
  | add _ => exact hset.insertPhrase
  | replace _ => exact Text.isPhraseSet_phraseSet _
  | attempts _ | initial _ | longest _ | jitter _ => exact hset

theorem isPhraseSet_foldl_reword (hset : Text.IsPhraseSet set) (changes : List Change) :
    Text.IsPhraseSet (changes.foldl Change.reword set) := by
  induction changes generalizing set with
  | nil => exact hset
  | cons change later ih => exact ih (isPhraseSet_reword hset change)

theorem eq_foldl_of_build {q : Policy} (h : p.build changes = .ok q) : q = changes.foldl Change.apply p :=
  (check_eq_ok_iff_workable.1 h).1

theorem lowercase_mem_of_inForce {q : Policy} (h : p.build changes = .ok q) (hforce : InForce phrase changes) :
    Text.lowercase phrase ∈ q.phrases := by
  rw [eq_foldl_of_build h, foldl_apply]
  exact mem_foldl_reword.2 (.inl ⟨phrase, hforce, rfl⟩)

/-- The same settings in the same order and the same phrases in force make the same policy. -/
theorem build_congr (hset : Text.IsPhraseSet p.phrases)
    (hsettings : (changes.filter fun c => !c.isWording) = changes'.filter fun c => !c.isWording)
    (hdrop : (∀ c ∈ changes, c.replaces = false) ↔ ∀ c ∈ changes', c.replaces = false)
    (hforce : ∀ phrase, InForce phrase changes ↔ InForce phrase changes') : p.build changes = p.build changes' := by
  have hphrases : changes.foldl Change.reword p.phrases = changes'.foldl Change.reword p.phrases :=
    (isPhraseSet_foldl_reword hset changes).ext (isPhraseSet_foldl_reword hset changes') fun word => by
      simp only [mem_foldl_reword, hforce, hdrop]
  rw [build, build, foldl_apply, foldl_apply changes', hsettings, hphrases]

/-- The policy retries every error whose text holds the phrase in some letter case, whatever else the text holds. -/
def Heeds (p : Policy) (phrase : String) : Prop :=
  ∀ {ε : Type} [Report ε] (e : ε), Text.HoldsInAnyCase (Report.message e) phrase → p.retries e = true

theorem heeds_of_mem (hascii : Text.IsAscii phrase) (hmem : Text.lowercase phrase ∈ p.phrases) : p.Heeds phrase := by
  intro ε _ e hholds
  have hany : (p.phrases.any (Text.mentions (Text.lowercase (Report.message e)))) = true :=
    List.any_eq_true.2 ⟨_, hmem, Text.mentions_lowercase hascii hholds⟩
  simp only [retries, retriesText, hany, Bool.or_true]

end Policy

/-! ## Sections -/

namespace RetrySection

open Policy (Change)

theorem lowercase_mem_of_policy {s : RetrySection} {p : Policy} {phrase : String} (h : s.policy = .ok p)
    (hphrase : phrase ∈ s.phrases) : Text.lowercase phrase ∈ p.phrases :=
  ((policy_eq_ok_iff.1 h).1.mem_phrases _).2 (.inr ⟨phrase, hphrase, rfl⟩)

/-- The same phrases in another order and number make the same policy. -/
theorem policy_congr {s : RetrySection} {phrases : List String} (h : ∀ phrase, phrase ∈ phrases ↔ phrase ∈ s.phrases) :
    ({ s with phrases } : RetrySection).policy = s.policy := by
  have hsets : ({ s with phrases } : RetrySection).Sets s.tuned := by
    obtain ⟨hmax, hinitial, hlongest, hjitter, hmem, hset⟩ := s.sets_tuned
    refine ⟨hmax, hinitial, hlongest, hjitter, fun phrase => ?_, hset⟩
    simp only [hmem, h]
  rw [policy_eq, policy_eq, RetrySection.Sets.unique (sets_tuned _) hsets]

end RetrySection

/-- A built policy retries every error whose text holds, in some letter case, an ASCII phrase that was given while the
policy was built and not dropped by a later replacement, in whatever letter case it was given; so does the policy of a
section for the phrases of the section, also after changes that drop none. Built policies with the same settings and
the same phrases in force are the same, in whatever order and however often these were given. -/
theorem given_phrase_heeded :
    (∀ (p : Policy) (changes : List Policy.Change) (phrase : String) (q : Policy), Text.IsAscii phrase →
      Policy.InForce phrase changes → p.build changes = .ok q → q.Heeds phrase) ∧
    (∀ (s : RetrySection) (phrase : String) (p : Policy), Text.IsAscii phrase → phrase ∈ s.phrases →
      s.policy = .ok p → p.Heeds phrase ∧
        ∀ later q, (∀ c ∈ later, c.replaces = false) → p.build later = .ok q → q.Heeds phrase) ∧
    (∀ (p : Policy) (changes changes' : List Policy.Change), Text.IsPhraseSet p.phrases →
      (changes.filter fun c => !c.isWording) = (changes'.filter fun c => !c.isWording) →
      ((∀ c ∈ changes, c.replaces = false) ↔ ∀ c ∈ changes', c.replaces = false) →
      (∀ phrase, Policy.InForce phrase changes ↔ Policy.InForce phrase changes') →
      p.build changes = p.build changes') ∧
    ∀ (s : RetrySection) (phrases : List String), (∀ phrase, phrase ∈ phrases ↔ phrase ∈ s.phrases) →
      ({ s with phrases } : RetrySection).policy = s.policy := by
  refine ⟨fun p changes phrase q hascii hforce hbuild => ?_, fun s phrase p hascii hphrase hpolicy => ⟨?_, ?_⟩,
    fun p changes changes' => Policy.build_congr, fun s phrases => RetrySection.policy_congr⟩
  · exact Policy.heeds_of_mem hascii (Policy.lowercase_mem_of_inForce hbuild hforce)
  · exact Policy.heeds_of_mem hascii (RetrySection.lowercase_mem_of_policy hpolicy hphrase)
  · intro later q hkept hbuild
    refine Policy.heeds_of_mem hascii ?_
    rw [Policy.eq_foldl_of_build hbuild, Policy.foldl_apply]
    exact Policy.mem_foldl_reword.2 (.inr ⟨hkept, RetrySection.lowercase_mem_of_policy hpolicy hphrase⟩)

/-- A phrase for quotas, given after phrases that it replaces and before the number of attempts. -/
def quotaChanges : List Policy.Change := [.add "timeout", .replace ["QUOTA exceeded", "busy"], .attempts 7]

/-- The same phrases one by one, one of them twice. -/
def quotaChangesAgain : List Policy.Change := [.replace ["busy"], .attempts 7, .add "QUOTA exceeded", .add "busy"]

/-- A text in which the phrase stands in another letter case, between a sigma and a dotted capital I. -/
def quotaFailure : PlainError := ⟨"ΟΔΟΣQuota ExceedeDİ", .none⟩

/-- Such a policy retries such an error, and so does the policy of a section with the phrase. -/
theorem quota_heeded_in_any_case :
    (∃ q, Policy.api.build quotaChanges = .ok q ∧ Policy.api.build quotaChangesAgain = .ok q ∧
      q.retries quotaFailure = true) ∧
    ∃ p, ({ phrases := ["busy", "QUOTA exceeded", "busy"] } : RetrySection).policy = .ok p ∧
      ({ phrases := ["QUOTA exceeded", "busy"] } : RetrySection).policy = .ok p ∧ p.retries quotaFailure = true ∧
      ∃ q, p.build [.attempts 7, .add "late"] = .ok q ∧ q.retries quotaFailure = true := by
  obtain ⟨hbuilt, hsection, hsame, hsectionSame⟩ := given_phrase_heeded
  have hascii : Text.IsAscii "QUOTA exceeded" := by
    have hall : "QUOTA exceeded".toList.all (fun c => decide (c.toNat < 0x80)) = true := by decide
    exact fun c hc => of_decide_eq_true (List.all_eq_true.1 hall c hc)
  have hholds : Text.HoldsInAnyCase (Report.message quotaFailure) "QUOTA exceeded" :=
    ⟨"ΟΔΟΣ", "Quota ExceedeD", "İ", by decide, by decide⟩
  have hforce (phrase : String) : Policy.InForce phrase quotaChanges ↔ Policy.InForce phrase quotaChangesAgain := by
    simp [Policy.InForce, quotaChanges, quotaChangesAgain, Policy.Change.given, Policy.Change.replaces]
    tauto
  have hbuild : Policy.api.build quotaChanges = .ok (quotaChanges.foldl Policy.Change.apply .api) :=
    Policy.check_eq_ok_iff_workable.2
      ⟨rfl, by decide, by decide, by decide +kernel, by decide +kernel, by decide +kernel⟩
  have hagain : Policy.api.build quotaChanges = Policy.api.build quotaChangesAgain :=
    hsame _ _ _ (RetryProfile.isPhraseSet .api) rfl (by simp [quotaChanges, quotaChangesAgain, Policy.Change.replaces])
      hforce
  let s : RetrySection := { phrases := ["busy", "QUOTA exceeded", "busy"] }
  have hpolicy : s.policy = .ok s.tuned :=
    RetrySection.policy_eq_ok_iff.2 ⟨s.sets_tuned, by decide, by decide, by decide +kernel, by decide +kernel,
      by decide +kernel⟩
  obtain ⟨hheeds, hlater⟩ := hsection s "QUOTA exceeded" _ hascii (by decide) hpolicy
  refine ⟨⟨_, hbuild, hagain ▸ hbuild, ?_⟩, ⟨_, hpolicy, ?_, hheeds _ hholds, ?_⟩⟩
  · exact hbuilt _ quotaChanges "QUOTA exceeded" _ hascii (Or.inr (Or.inl ⟨by decide, by decide⟩)) hbuild _ hholds
  · rw [← hpolicy]
    exact hsectionSame s ["QUOTA exceeded", "busy"] (by simp [s, or_comm])
  · have hchanged : s.tuned.build [.attempts 7, .add "late"] =
        .ok ([.attempts 7, .add "late"].foldl Policy.Change.apply s.tuned) :=
      Policy.check_eq_ok_iff_workable.2
        ⟨rfl, by decide, by decide, by decide +kernel, by decide +kernel, by decide +kernel⟩
    exact ⟨_, hchanged, hlater _ _ (by decide) hchanged _ hholds⟩

end MailReconciler
