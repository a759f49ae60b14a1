/-
Logins of credentials. A login is a local part or a full address, and is compared in full and in lower case; so it does
not matter in which of the two forms it is given. The credential that is found is the first one of the page that
matches. Letters are compared after lower-casing whole addresses, where a sigma is written by what stands around it, but
the case of the ASCII letters around it does not count; so the case of ASCII letters never decides what is found.
-/
import MailReconciler.Proofs.Text.Letters
import MailReconciler.Resource.Credential
import Mathlib.Order.Bounds.Basic

namespace MailReconciler

/-! ## Qualified logins -/

/-- A qualified login is not qualified again. -/
theorem qualifyLogin_qualifyLogin (login domain : String) :
    qualifyLogin (qualifyLogin login domain) domain = qualifyLogin login domain := by
  unfold qualifyLogin
  by_cases h : login.toList.contains '@' = true
  · simp only [h, if_true]
  · have hat : (login ++ "@" ++ domain).toList.contains '@' = true := by
      rw [List.contains_iff_mem, String.toList_append, String.toList_append]
      exact List.mem_append_left _ (List.mem_append_right _ List.mem_cons_self)
    simp only [h, Bool.false_eq_true, if_false, hat, if_true]

theorem isEmpty_qualifyLogin {login : String} (h : login.isEmpty = false) (domain : String) :
    (qualifyLogin login domain).isEmpty = false := by
  rw [String.isEmpty_eq_false_iff] at h ⊢
  unfold qualifyLogin
  split
  · exact h
  · intro hempty
    rw [String.append_eq_empty_iff, String.append_eq_empty_iff] at hempty
    exact h hempty.1.1

theorem Text.lowercaseAscii_append (a b : String) :
    lowercaseAscii (a ++ b) = lowercaseAscii a ++ lowercaseAscii b := by
  rw [lowercaseAscii, String.toList_append, List.map_append, String.ofList_append]
  rfl

/-- The case of its letters does not decide whether a login is a full address. -/
theorem qualifyLogin_lowercaseAscii (login domain : String) :
    qualifyLogin (Text.lowercaseAscii login) (Text.lowercaseAscii domain) =
      Text.lowercaseAscii (qualifyLogin login domain) := by
  have hat : (Text.lowercaseAscii login).toList.contains '@' = login.toList.contains '@' := by
    have hletter : (fun c => '@' == Text.lowerAscii c) = fun c => '@' == c :=
      funext (Text.apply_lowerAscii (f := fun c => '@' == c) (by decide))
    rw [List.contains_eq_any_beq, List.contains_eq_any_beq, Text.lowercaseAscii, String.toList_ofList, List.any_map]
    exact congrArg login.toList.any hletter
  unfold qualifyLogin
  rw [hat]
  split
  · rfl
  · rw [Text.lowercaseAscii_append, Text.lowercaseAscii_append]
    rfl

/-! ## Matching credentials -/

/-- Whether a listed credential is the wanted one: both logins in full are the same in lower case. -/
def CredentialState.Matches (domain login : String) (item : CredentialState) : Prop :=
  Text.lowercase (qualifyLogin item.login domain) = Text.lowercase (qualifyLogin login domain)

/-- The case of ASCII letters does not count, neither in the logins nor in the domain. -/
theorem CredentialState.matches_congr {domain domain' login login' : String} {item item' : CredentialState}
    (hdomain : Text.lowercaseAscii domain' = Text.lowercaseAscii domain)
    (hlogin : Text.lowercaseAscii login' = Text.lowercaseAscii login)
    (hitem : Text.lowercaseAscii item'.login = Text.lowercaseAscii item.login) :
    item'.Matches domain' login' ↔ item.Matches domain login := by
  have hfull {a a' : String} (ha : Text.lowercaseAscii a' = Text.lowercaseAscii a) :
      Text.lowercase (qualifyLogin a' domain') = Text.lowercase (qualifyLogin a domain) := by
    rw [← Text.lowercase_lowercaseAscii, ← qualifyLogin_lowercaseAscii, ha, hdomain, qualifyLogin_lowercaseAscii,
      Text.lowercase_lowercaseAscii]
  rw [Matches, Matches, hfull hitem, hfull hlogin]

namespace CredentialPage

variable {page page' : CredentialPage} {domain login : String} {item : CredentialState} {i : Nat}

/-! ## Positions -/

/-- The position of the wanted credential: the first one at which a credential matches. -/
def FoundAt (page : CredentialPage) (domain login : String) (i : Nat) : Prop :=
  IsLeast {i | ∃ item, page.items[i]? = some item ∧ item.Matches domain login} i

theorem find?_eq_none_iff :
    page.find? domain login = none ↔ ∀ item ∈ page.items, ¬item.Matches domain login := by
  simp only [find?, List.find?_eq_none, beq_iff_eq, CredentialState.Matches]

theorem find?_eq_some_iff :
    page.find? domain login = some item ↔ ∃ i, page.FoundAt domain login i ∧ page.items[i]? = some item := by
  rw [find?, List.find?_eq_some_iff_getElem]
  constructor
  · rintro ⟨hmatches, i, hi, hitem, hbefore⟩
    have hget : page.items[i]? = some item := by rw [List.getElem?_eq_getElem hi, hitem]
    refine ⟨i, ⟨⟨item, hget, beq_iff_eq.1 hmatches⟩, ?_⟩, hget⟩
    rintro j ⟨other, hother, hmatchesOther⟩
    refine Nat.le_of_not_lt fun hj => ?_
    obtain ⟨_, rfl⟩ := List.getElem?_eq_some_iff.1 hother
    have hne := hbefore j hj
    rw [beq_iff_eq.2 hmatchesOther] at hne
    cases hne
  · rintro ⟨i, ⟨⟨found, hfound, hmatches⟩, hleast⟩, hget⟩
    obtain rfl := Option.some.inj (hfound.symm.trans hget)
    obtain ⟨hi, hitem⟩ := List.getElem?_eq_some_iff.1 hget
    refine ⟨beq_iff_eq.2 hmatches, i, hi, hitem, fun j hj => ?_⟩
    rw [Bool.not_eq_true', beq_eq_false_iff_ne]
    intro hmatchesOther
    have hle : i ≤ j := hleast ⟨page.items[j], List.getElem?_eq_getElem _, hmatchesOther⟩
    omega

/-- What is found and where depends on the logins of the page only up to the case of ASCII letters. -/
theorem foundAt_congr {domain' login' : String} (hdomain : Text.lowercaseAscii domain' = Text.lowercaseAscii domain)
    (hlogin : Text.lowercaseAscii login' = Text.lowercaseAscii login)
    (hitems : page'.items.map (fun item => Text.lowercaseAscii item.login) =
      page.items.map fun item => Text.lowercaseAscii item.login) :
    page'.FoundAt domain' login' i ↔ page.FoundAt domain login i := by
  have hat (j : Nat) : (∃ item : CredentialState, page'.items[j]? = some item ∧ item.Matches domain' login') ↔
      ∃ item : CredentialState, page.items[j]? = some item ∧ item.Matches domain login := by
    -- both pages end at the same position, and their logins there differ in the case of letters only
    have hget := congrArg (·[j]?) hitems
    simp only [List.getElem?_map] at hget
    cases h : page.items[j]? <;> cases h' : page'.items[j]? <;> rw [h, h'] at hget
    · simp
    · cases hget
    · cases hget
    · simp [CredentialState.matches_congr hdomain hlogin (Option.some.inj hget)]
  simp only [FoundAt, hat]

end CredentialPage

/-- A login is qualified once and for all, and a credential is found by it in either form: the first one of the page
whose full login is the wanted one in lower case, or none exactly if there is no such credential. The case of ASCII
letters, in the login, the domain or the logins of the page, changes nothing about the position at which it is found. -/
theorem login_lookup_coherent (domain login : String) (page : CredentialPage) :
    qualifyLogin (qualifyLogin login domain) domain = qualifyLogin login domain ∧
    page.find? domain (qualifyLogin login domain) = page.find? domain login ∧
    (∀ item, page.find? domain login = some item ↔
      ∃ i, page.FoundAt domain login i ∧ page.items[i]? = some item) ∧
    (page.find? domain login = none ↔ ∀ item ∈ page.items, ¬item.Matches domain login) ∧
    ∀ (domain' login' : String) (page' : CredentialPage),
      Text.lowercaseAscii domain' = Text.lowercaseAscii domain →
      Text.lowercaseAscii login' = Text.lowercaseAscii login →
      page'.items.map (fun item => Text.lowercaseAscii item.login) =
        page.items.map (fun item => Text.lowercaseAscii item.login) →
      ∀ i, page'.FoundAt domain' login' i ↔ page.FoundAt domain login i := by
  refine ⟨qualifyLogin_qualifyLogin login domain, ?_, fun item => CredentialPage.find?_eq_some_iff,
    CredentialPage.find?_eq_none_iff, fun domain' login' page' hdomain hlogin hitems i =>
    CredentialPage.foundAt_congr hdomain hlogin hitems⟩
  rw [CredentialPage.find?, CredentialPage.find?, qualifyLogin_qualifyLogin]

/-- A page with a local part and a full address, in which a sigma stands at the end of a word. -/
def greekPage : CredentialPage := { items := [{ login := "bob" }, { login := "ΟΔΟΣ" }, { login := "ΟΔΟΣ@mg.io" }] }

/-- The same page with other letter cases. -/
def greekPageAgain : CredentialPage :=
  { items := [{ login := "Bob" }, { login := "ΟΔΟΣ" }, { login := "ΟΔΟΣ@MG.io" }] }

/-- The credential is found at the same position, by its full address in another letter case. -/
theorem greek_login_found_again :
    Text.lowercaseAscii "MG.IO" = Text.lowercaseAscii "mg.io" ∧
    Text.lowercaseAscii "ΟΔΟΣ@Mg.Io" = Text.lowercaseAscii "ΟΔΟΣ@mg.io" ∧
    greekPage.find? "mg.io" "ΟΔΟΣ@mg.io" = some { login := "ΟΔΟΣ" } ∧
    greekPage.FoundAt "mg.io" "ΟΔΟΣ@mg.io" 1 ∧ greekPageAgain.FoundAt "MG.IO" "ΟΔΟΣ@Mg.Io" 1 := by
  have hdomain : Text.lowercaseAscii "MG.IO" = Text.lowercaseAscii "mg.io" := by decide
  have hlogin : Text.lowercaseAscii "ΟΔΟΣ@Mg.Io" = Text.lowercaseAscii "ΟΔΟΣ@mg.io" := by decide
  have hitems : greekPageAgain.items.map (fun item => Text.lowercaseAscii item.login) =
      greekPage.items.map fun item => Text.lowercaseAscii item.login := by decide
  have hfind : greekPage.find? "mg.io" "ΟΔΟΣ@mg.io" = some { login := "ΟΔΟΣ" } := by decide +kernel
  obtain ⟨-, -, hsome, -, hcase⟩ := login_lookup_coherent "mg.io" "ΟΔΟΣ@mg.io" greekPage
  have hat : greekPage.FoundAt "mg.io" "ΟΔΟΣ@mg.io" 1 := by
    obtain ⟨i, hat, hget⟩ := (hsome _).1 hfind
    match i, hget with
    | 0, hget => exact absurd hget (by decide)
    | 1, _ => exact hat
    | 2, hget => exact absurd hget (by decide)
  exact ⟨hdomain, hlogin, hfind, hat, (hcase _ _ greekPageAgain hdomain hlogin hitems 1).2 hat⟩

end MailReconciler
