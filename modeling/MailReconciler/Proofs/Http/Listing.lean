/-
Lookups in listings. There is no endpoint for a single credential: a lookup asks for the listing of a domain's
credentials and looks through what comes back. A listing holds the first credentials, up to the limit that the request
names, and says how many there are. The lookup names a limit of a thousand, asks once and does not look at that number;
so it finds exactly the credentials among the first thousand, and says of every other one that there is none.
-/
import MailReconciler.Proofs.Http.Acknowledgement
import MailReconciler.Proofs.Resource.Logins
import MailReconciler.Proofs.Resource.Wire

namespace MailReconciler

-- only whether a request can be built matters here, and not what its URL comes to
attribute [local irreducible] Transport.prepare

/-! ## Pages -/

namespace CredentialPage

/-- Whether a page is what a listing of some credentials holds: the first of them up to a limit, and their number. -/
structure Lists (page : CredentialPage) (all : List CredentialState) (limit : Nat) : Prop where
  items : page.items = all.take limit
  totalCount : page.totalCount.toNat = all.length

variable {page : CredentialPage} {all : List CredentialState} {limit i : Nat} {domain login : String}
  {item : CredentialState}

/-- In a page of the first credentials the wanted one stands where it stands among all of them, if that is in reach. -/
theorem Lists.foundAt_iff (h : page.Lists all limit) :
    page.FoundAt domain login i ↔ FoundAt { items := all } domain login i ∧ i < limit := by
  have hget (j : Nat) (item : CredentialState) : page.items[j]? = some item ↔ all[j]? = some item ∧ j < limit := by
    rw [h.items, List.getElem?_take]
    split <;> simp_all
  simp only [FoundAt, hget]
  constructor
  · rintro ⟨⟨found, ⟨hfound, hi⟩, hmatches⟩, hleast⟩
    refine ⟨⟨⟨found, hfound, hmatches⟩, ?_⟩, hi⟩
    rintro j ⟨other, hother, hmatchesOther⟩
    rcases Nat.lt_or_ge j limit with hj | hj
    · exact hleast ⟨other, ⟨hother, hj⟩, hmatchesOther⟩
    · omega
  · rintro ⟨⟨⟨found, hfound, hmatches⟩, hleast⟩, hi⟩
    refine ⟨⟨found, ⟨hfound, hi⟩, hmatches⟩, ?_⟩
    rintro j ⟨other, ⟨hother, -⟩, hmatchesOther⟩
    exact hleast ⟨other, hother, hmatchesOther⟩

/-! ## Pages as JSON -/

/-- Writes a page as JSON. -/
def toJson (page : CredentialPage) : Json :=
  .object [
    ("items", .array (page.items.map CredentialState.toJson)),
    ("total_count", .nat page.totalCount.toNat)]

theorem faithful : Faithful toJson decode where
  decode_write page := by
    refine Eq.trans (Json.Record.read_bind (by rfl) (by decide)) ?_
    simp [CredentialState.faithful.list.decode_write, Faithful.uint64.decode_write, pure, Except.pure]
  ne_null _ h := by cases h
  plain page := .object (by simp [CredentialState.faithful.list.plain, Faithful.uint64.plain])

end CredentialPage

/-! ## Answers -/

/-- The limit that a request names. -/
def Request.limit? (r : Request) : Option Nat :=
  (r.query.find? (·.1 = "limit")).bind fun pair => Decimal.natural? pair.2.toList

/-- Whether an answer to a request lists some credentials. -/
def Http.AnswersListing (request : Request) (r : Received) (all : List CredentialState) : Prop :=
  ∃ limit value page, request.limit? = some limit ∧ Carries r value ∧
    CredentialPage.decode value = .ok page ∧ page.Lists all limit

theorem limit_getCredential (domain login : String) :
    (Call.getCredential domain login).request.limit? = some 1000 := by
  show Decimal.natural? "1000".toList = some 1000
  decide

/-- There is such an answer, whatever the credentials are, if they can be counted. -/
theorem Http.exists_answersListing {request : Request} {limit : Nat} (hlimit : request.limit? = some limit)
    (all : List CredentialState) (hall : all.length < UInt64.size) :
    ∃ body, AnswersListing request ⟨200, body⟩ all := by
  let page : CredentialPage := { items := all.take limit, totalCount := UInt64.ofNat all.length }
  have hparse : Json.parseBytes? (Text.encode page.toJson.render) = some page.toJson :=
    (Json.parse?_render (CredentialPage.faithful.plain page)).2
  have hbrace : (Text.encode page.toJson.render).all isBlankByte = false := by
    rw [Json.render, Text.encode_ofList, CredentialPage.toJson, Json.write]
    rfl
  refine ⟨Text.encode page.toJson.render, limit, page.toJson, page, hlimit, ?_,
    CredentialPage.faithful.decode_write page, ⟨rfl, UInt64.toNat_ofNat_of_lt' hall⟩⟩
  unfold Carries
  dsimp only
  rw [hbrace, if_neg (by decide)]
  exact hparse

/-! ## Lookups -/

section Lookups

variable {ρ : Type} {names : HostNames} {complaints : Json.Complaints} {t : Transport} {c : Carrier ρ}
  {sent : SentRequest} {r : Received} {now u : Instant} {s s' : ρ} {domain login : String} {all : List CredentialState}

open Call (findCredential)

theorem findCredential_eq_ok_iff {page : CredentialPage} {limit : Nat} (h : page.Lists all limit)
    (item : CredentialState) : findCredential domain login page = .ok item ↔
      ∃ i, CredentialPage.FoundAt { items := all } domain login i ∧ i < limit ∧ all[i]? = some item := by
  have hfind : findCredential domain login page = .ok item ↔ page.find? domain login = some item := by
    unfold findCredential
    cases page.find? domain login <;> simp
  rw [hfind, CredentialPage.find?_eq_some_iff]
  refine exists_congr fun i => ?_
  rw [h.foundAt_iff, and_assoc]
  refine and_congr_right fun _ => and_congr_right fun hi => ?_
  rw [h.items, List.getElem?_take_of_lt hi]

theorem findCredential_eq_error_iff {page : CredentialPage} {limit : Nat} (h : page.Lists all limit) (e : ApiFailure) :
    findCredential domain login page = .error e ↔
      e = .status "GET" (Endpoint.credentials domain) 404 "credential not found" ∧
        ∀ item ∈ all.take limit, ¬item.Matches domain login := by
  rw [← h.items, ← CredentialPage.find?_eq_none_iff]
  unfold findCredential
  cases page.find? domain login <;> simp [eq_comm]

theorem perform_getCredential : (t.service names complaints c).perform (.getCredential domain login) =
    (t.ask names c (Call.getCredential domain login).request).bind fun outcome =>
      .done (outcome.bind fun received =>
        (Http.understand complaints (Call.getCredential domain login).request received CredentialPage.decode).bind
          (findCredential domain login)) :=
  rfl

/-- What is read in a listing is a page of it. -/
theorem understand_of_answersListing (complaints : Json.Complaints) (hstatus : 200 ≤ r.status ∧ r.status < 300)
    (hlisting : Http.AnswersListing (Call.getCredential domain login).request r all) :
    ∃ page : CredentialPage, page.Lists all 1000 ∧
      Http.understand complaints (Call.getCredential domain login).request r CredentialPage.decode = .ok page := by
  obtain ⟨limit, value, page, hlimit, hcarries, hdecode, hlists⟩ := hlisting
  obtain rfl : 1000 = limit := Option.some.inj ((limit_getCredential domain login).symm.trans hlimit)
  refine ⟨page, hlists, ?_⟩
  rw [Http.understand_of_success hstatus]
  exact Http.decodeAnswer_eq_ok_iff.2 ⟨value, hcarries, hdecode⟩

theorem run_getCredential_of_answers {page : CredentialPage}
    (hsent : t.prepare names (Call.getCredential domain login).request = .ok sent)
    (hanswer : c.Answers t.timeout sent now s r u s') (hstatus : 200 ≤ r.status ∧ r.status < 300)
    (hread : Http.understand complaints (Call.getCredential domain login).request r CredentialPage.decode = .ok page) :
    ((t.service names complaints c).perform (.getCredential domain login)).run now s =
      some (findCredential domain login page, u, s') := by
  have hgood := Http.ne_badGateway_of_success hstatus
  rw [perform_getCredential, Work.run_bind_of_some _ (Transport.run_ask_of_answers hsent hanswer hgood)]
  show some (Except.bind (Http.understand _ _ _ _) _, _) = _
  rw [hread]
  rfl

end Lookups

/-- A lookup of a credential, by its local part or its full address, that is answered with the listing of some
credentials, as many as there are, ends with this answer and hands over nothing more. It gives the first credential of
all of them that matches if that is among the first thousand, and says that there is none if none of these matches,
whatever stands behind them. So of no more than a thousand credentials it finds one exactly if there is one. -/
theorem credential_found_among_first_thousand {ρ : Type} (names : HostNames) (complaints : Json.Complaints)
    (t : Transport) (c : Carrier ρ) (domain login : String) (all : List CredentialState) {sent : SentRequest}
    (hsent : t.prepare names (Call.getCredential domain login).request = .ok sent) {status : Nat}
    (hstatus : 200 ≤ status ∧ status < 300) {body : List UInt8}
    (hlisting : Http.AnswersListing (Call.getCredential domain login).request ⟨status, body⟩ all) {now u : Instant}
    {r r' : ρ} (hanswer : c.Answers t.timeout sent now r ⟨status, body⟩ u r') :
    (t.service names complaints c).perform (.getCredential domain (qualifyLogin login domain)) =
        (t.service names complaints c).perform (.getCredential domain login) ∧
      ∃ result,
        ((t.service names complaints c).perform (.getCredential domain login)).run now r = some (result, u, r') ∧
        (∀ before, ((t.service names complaints c.noted).perform (.getCredential domain login)).run now ⟨before, r⟩ =
          some (result, u, ⟨before ++ [(now, sent)], r'⟩)) ∧
        (∀ item, result = .ok item ↔
          ∃ i, CredentialPage.FoundAt { items := all } domain login i ∧ i < 1000 ∧ all[i]? = some item) ∧
        (∀ e, result = .error e ↔
          e = .status "GET" (Endpoint.credentials domain) 404 "credential not found" ∧
            ∀ item ∈ all.take 1000, ¬item.Matches domain login) ∧
        (all.length ≤ 1000 → (result.isOk = true ↔ ∃ item ∈ all, item.Matches domain login)) := by
  constructor
  · have hqualified : Call.findCredential domain (qualifyLogin login domain) = Call.findCredential domain login := by
      funext page
      simp only [Call.findCredential, CredentialPage.find?, qualifyLogin_qualifyLogin]
    rw [perform_getCredential, perform_getCredential, hqualified]
    rfl
  · obtain ⟨page, hlists, hread⟩ := understand_of_answersListing complaints hstatus hlisting
    refine ⟨Call.findCredential domain login page, run_getCredential_of_answers hsent hanswer hstatus hread,
      fun before => run_getCredential_of_answers hsent (hanswer.noted before) hstatus hread,
      findCredential_eq_ok_iff hlists, findCredential_eq_error_iff hlists, fun hall => ?_⟩
    cases hresult : Call.findCredential domain login page with
    | ok item =>
      obtain ⟨i, ⟨⟨found, hfound, hmatches⟩, -⟩, -⟩ := (findCredential_eq_ok_iff hlists item).1 hresult
      exact ⟨fun _ => ⟨found, List.mem_of_getElem? hfound, hmatches⟩, fun _ => rfl⟩
    | error e =>
      refine ⟨fun h => absurd h Bool.false_ne_true, ?_⟩
      rintro ⟨item, hitem, hmatches⟩
      have hnone := ((findCredential_eq_error_iff hlists e).1 hresult).2
      rw [List.take_of_length_le hall] at hnone
      exact absurd hmatches (hnone item hitem)

def aliceLookup : Call CredentialState := .getCredential "mg.example.com" "alice"

theorem exists_prepare_aliceLookup : ∃ sent, plainTransport.prepare .plain aliceLookup.request = .ok sent :=
  Transport.exists_prepare (by decide +kernel)

/-- A carrier to a server that answers with some body. -/
def listingCarrier (body : List UInt8) : Carrier Nat := .alike ⟨200, body⟩ 1 30000000

theorem answers_listingCarrier (body : List UInt8) (sent : SentRequest) :
    (listingCarrier body).Answers plainTransport.timeout sent 0 0 ⟨200, body⟩ 30000000 1 :=
  Carrier.answers_alike plainTransport.timeout sent 0 0

/-- Two credentials, the second one with its full address. -/
def couple : List CredentialState := [{ login := "bob" }, { login := "Alice@mg.example.com" }]

/-- In their listing the second one is found. -/
theorem alice_found_behind_bob : ∃ sent body, plainTransport.prepare .plain aliceLookup.request = .ok sent ∧
    Http.AnswersListing aliceLookup.request ⟨200, body⟩ couple ∧
    ((plainTransport.service .plain .placeless (listingCarrier body).noted).perform aliceLookup).run 0 ⟨[], 0⟩ =
      some (.ok { login := "Alice@mg.example.com" }, 30000000, ⟨[(0, sent)], 1⟩) := by
  obtain ⟨sent, hsent⟩ := exists_prepare_aliceLookup
  have hbob : ¬CredentialState.Matches "mg.example.com" "alice" { login := "bob" } := by
    unfold CredentialState.Matches
    decide
  have halice : CredentialState.Matches "mg.example.com" "alice" { login := "Alice@mg.example.com" } := by
    unfold CredentialState.Matches
    decide
  have hat : CredentialPage.FoundAt { items := couple } "mg.example.com" "alice" 1 := by
    refine ⟨⟨_, rfl, halice⟩, ?_⟩
    rintro j ⟨item, hitem, hmatches⟩
    cases j with
    | zero => cases hitem; exact absurd hmatches hbob
    | succ j => omega
  obtain ⟨body, hlisting⟩ := Http.exists_answersListing (limit_getCredential "mg.example.com" "alice") couple
    (by decide)
  obtain ⟨-, result, -, hrun, hok, -⟩ := credential_found_among_first_thousand .plain .placeless plainTransport
    (listingCarrier body) "mg.example.com" "alice" couple hsent (by decide) hlisting (answers_listingCarrier body sent)
  obtain rfl := (hok _).2 ⟨1, hat, by decide, rfl⟩
  exact ⟨sent, body, hsent, hlisting, hrun []⟩

/-- A thousand credentials and one more. -/
def crowd : List CredentialState :=
  (List.range 1000).map (fun k => { login := "u" ++ toString k }) ++ [{ login := "alice" }]

/-- The logins `u0`, `u1` and so on, in full and in lower case, begin with their letter. -/
theorem head_lowercase_qualifyLogin (rest domain : String) :
    (Text.lowercase (qualifyLogin ("u" ++ rest) domain)).toList.head? = some 'u' := by
  have hhead : ∃ tail, (qualifyLogin ("u" ++ rest) domain).toList = 'u' :: tail := by
    unfold qualifyLogin
    split
    · exact ⟨rest.toList, String.toList_append⟩
    · exact ⟨rest.toList ++ "@".toList ++ domain.toList, by simp only [String.toList_append]; rfl⟩
  obtain ⟨tail, htail⟩ := hhead
  rw [Text.lowercase, String.toList_ofList, Text.lowerChars, htail]
  rfl

/-- The last one of them is listed by an answer that names their number, and yet its lookup says that there is none. -/
theorem listed_credential_missed : ∃ sent body, plainTransport.prepare .plain aliceLookup.request = .ok sent ∧
    Http.AnswersListing aliceLookup.request ⟨200, body⟩ crowd ∧
    (∃ item ∈ crowd, item.Matches "mg.example.com" "alice") ∧
    ((plainTransport.service .plain .placeless (listingCarrier body).noted).perform aliceLookup).run 0 ⟨[], 0⟩ =
      some (.error (.status "GET" "/v3/domains/mg.example.com/credentials" 404 "credential not found"), 30000000,
        ⟨[(0, sent)], 1⟩) := by
  obtain ⟨sent, hsent⟩ := exists_prepare_aliceLookup
  have hpath : Endpoint.credentials "mg.example.com" = "/v3/domains/mg.example.com/credentials" := by decide
  have hfirst : crowd.take 1000 = (List.range 1000).map fun k => { login := "u" ++ toString k } :=
    List.take_left' (by rw [List.length_map, List.length_range])
  have hnone : ∀ item ∈ crowd.take 1000, ¬item.Matches "mg.example.com" "alice" := by
    rw [hfirst]
    intro item hitem hmatches
    obtain ⟨k, -, rfl⟩ := List.mem_map.1 hitem
    have hhead := head_lowercase_qualifyLogin (toString k) "mg.example.com"
    rw [show Text.lowercase _ = _ from hmatches] at hhead
    exact absurd hhead (by decide)
  obtain ⟨body, hlisting⟩ := Http.exists_answersListing (limit_getCredential "mg.example.com" "alice") crowd
    (by rw [crowd, List.length_append, List.length_map, List.length_range]; decide)
  have hstatus : 200 ≤ 200 ∧ 200 < 300 := by decide
  obtain ⟨page, hlists, hread⟩ := understand_of_answersListing .placeless hstatus hlisting
  have hrun : ((plainTransport.service .plain .placeless (listingCarrier body).noted).perform aliceLookup).run 0
      ⟨[], 0⟩ = some (Call.findCredential "mg.example.com" "alice" page, 30000000, ⟨[(0, sent)], 1⟩) :=
    run_getCredential_of_answers hsent ((answers_listingCarrier body sent).noted []) hstatus hread
  rw [(findCredential_eq_error_iff hlists _).2 ⟨rfl, hnone⟩, hpath] at hrun
  exact ⟨sent, body, hsent, hlisting, ⟨_, List.mem_append_right _ List.mem_cons_self, rfl⟩, hrun⟩

end MailReconciler
