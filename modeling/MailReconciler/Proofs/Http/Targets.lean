/-
Targets of requests. The endpoints of the API overlap: an identifier may be any text, also a word that stands in the
path of another endpoint. Still the method, the path and the query of a request tell which operation it asks for and of
what, since no two endpoints leave room for the same path, unless their methods or their queries differ.
-/
import MailReconciler.Http.Endpoint
import MailReconciler.Proofs.Text.Segments

namespace MailReconciler

/-! ## Endpoints -/

/-- What the requests of an operation look like. A segment of the path is a word, or none where an identifier stands. -/
structure Shape where
  operation : String
  method : String
  segments : List (Option String)
  query : List (String × String) := []
deriving DecidableEq

/-- The endpoints of the API. -/
def shapes : List Shape :=
  [⟨"create_domain", "POST", [some "v4", some "domains"], []⟩,
    ⟨"get_domain", "GET", [some "v4", some "domains", none], []⟩,
    ⟨"update_domain", "PUT", [some "v4", some "domains", none], []⟩,
    ⟨"delete_domain", "DELETE", [some "v3", some "domains", none], []⟩,
    ⟨"create_route", "POST", [some "v3", some "routes"], []⟩,
    ⟨"get_route", "GET", [some "v3", some "routes", none], []⟩,
    ⟨"update_route", "PUT", [some "v3", some "routes", none], []⟩,
    ⟨"delete_route", "DELETE", [some "v3", some "routes", none], []⟩,
    ⟨"create_mailing_list", "POST", [some "v3", some "lists"], []⟩,
    ⟨"get_mailing_list", "GET", [some "v3", some "lists", none], []⟩,
    ⟨"update_mailing_list", "PUT", [some "v3", some "lists", none], []⟩,
    ⟨"delete_mailing_list", "DELETE", [some "v3", some "lists", none], []⟩,
    ⟨"create_webhook", "POST", [some "v3", some "domains", none, some "webhooks"], []⟩,
    ⟨"get_webhook", "GET", [some "v3", some "domains", none, some "webhooks", none], []⟩,
    ⟨"update_webhook", "PUT", [some "v3", some "domains", none, some "webhooks", none], []⟩,
    ⟨"delete_webhook", "DELETE", [some "v3", some "domains", none, some "webhooks", none], []⟩,
    ⟨"create_smtp_credential", "POST", [some "v3", some "domains", none, some "credentials"], []⟩,
    ⟨"get_smtp_credential", "GET", [some "v3", some "domains", none, some "credentials"], [("limit", "1000")]⟩,
    ⟨"update_smtp_credential_password", "PUT", [some "v3", some "domains", none, some "credentials", none], []⟩,
    ⟨"delete_smtp_credential", "DELETE", [some "v3", some "domains", none, some "credentials", none], []⟩,
    ⟨"create_template", "POST", [some "v3", none, some "templates"], []⟩,
    ⟨"get_template", "GET", [some "v3", none, some "templates", none], [("active", "yes")]⟩,
    ⟨"update_template", "PUT", [some "v3", none, some "templates", none], []⟩,
    ⟨"delete_template", "DELETE", [some "v3", none, some "templates", none], []⟩,
    ⟨"create_bounce", "POST", [some "v3", none, some "bounces"], []⟩,
    ⟨"get_bounce", "GET", [some "v3", none, some "bounces", none], []⟩,
    ⟨"delete_bounce", "DELETE", [some "v3", none, some "bounces", none], []⟩,
    ⟨"create_complaint", "POST", [some "v3", none, some "complaints"], []⟩,
    ⟨"get_complaint", "GET", [some "v3", none, some "complaints", none], []⟩,
    ⟨"delete_complaint", "DELETE", [some "v3", none, some "complaints", none], []⟩,
    ⟨"create_unsubscribe", "POST", [some "v3", none, some "unsubscribes"], []⟩,
    ⟨"get_unsubscribe", "GET", [some "v3", none, some "unsubscribes", none], []⟩,
    ⟨"delete_unsubscribe", "DELETE", [some "v3", none, some "unsubscribes", none], []⟩]

def shapeOf? (operation : String) : Option Shape := shapes.find? (·.operation = operation)

namespace Call

/-- What the path of a call's request names, in order: a domain, and a name, an address, a login or a kind in it. The
login that a credential is looked up by is not sent. -/
def identifiers {α : Type} : Call α → List String
  | createDomain _ | createRoute _ | createMailingList _ => []
  | getDomain name | updateDomain name _ | deleteDomain name => [name]
  | getRoute id | updateRoute id _ | deleteRoute id => [id]
  | getMailingList address | updateMailingList address _ | deleteMailingList address => [address]
  | createWebhook w => [w.domain]
  | updateWebhook w => [w.domain, Word.word w.event]
  | getWebhook domain event | deleteWebhook domain event => [domain, Word.word event]
  | createCredential c => [c.domain]
  | getCredential domain _ => [domain]
  | updatePassword c => [c.domain, c.login]
  | deleteCredential domain login => [domain, login]
  | createTemplate t => [t.domain]
  | updateTemplate t => [t.domain, t.name]
  | getTemplate domain name | deleteTemplate domain name => [domain, name]
  | createBounce b => [b.domain]
  | createComplaint c => [c.domain]
  | createUnsubscribe u => [u.domain]
  | getBounce domain address | deleteBounce domain address | getComplaint domain address
  | deleteComplaint domain address | getUnsubscribe domain address | deleteUnsubscribe domain address =>
    [domain, address]

end Call

/-! ## Paths of a shape -/

/-- The parts of a path. -/
def pathParts (path : String) : List String := (Text.splitAt '/' path.toList).map String.ofList

/-- The parts of a path have a shape and name some identifiers: each word of the shape stands in its place, and
percent-decoding any other part gives the identifier in its place. -/
inductive Fits : List (Option String) → List String → List String → Prop
  | done : Fits [] [] []
  | word {segments : List (Option String)} {identifiers parts : List String} (w : String)
    (h : Fits segments identifiers parts) : Fits (some w :: segments) identifiers (w :: parts)
  | identifier {segments : List (Option String)} {identifiers parts : List String} {part identifier : String}
    (hpart : Text.decodeStrict? (Text.percentDecode (Text.encode part)) = some identifier)
    (h : Fits segments identifiers parts) : Fits (none :: segments) (identifier :: identifiers) (part :: parts)

/-- A path that begins with a slash, behind which its parts have a shape and name some identifiers. -/
def Addresses (path : String) (segments : List (Option String)) (identifiers : List String) : Prop :=
  ∃ parts, pathParts path = "" :: parts ∧ Fits segments identifiers parts

variable {segments segments' : List (Option String)} {identifiers identifiers' parts parts' : List String}

theorem Fits.append (h : Fits segments identifiers parts) (h' : Fits segments' identifiers' parts') :
    Fits (segments ++ segments') (identifiers ++ identifiers') (parts ++ parts') := by
  induction h with
  | done => exact h'
  | word w _ ih => exact .word w ih
  | identifier hpart _ ih => exact .identifier hpart ih

theorem Fits.length_eq (h : Fits segments identifiers parts) : parts.length = segments.length := by
  induction h with
  | done => rfl
  | word _ _ ih | identifier _ _ ih => exact congrArg (· + 1) ih

/-- The parts of a path of a known shape name but one list of identifiers. -/
theorem Fits.identifiers_eq (h : Fits segments identifiers parts) (h' : Fits segments identifiers' parts) :
    identifiers = identifiers' := by
  induction h generalizing identifiers' with
  | done => cases h'; rfl
  | word w _ ih =>
    cases h' with
    | word _ h' => exact ih h'
  | identifier hpart _ ih =>
    cases h' with
    | identifier hpart' h' => rw [Option.some.inj (hpart.symm.trans hpart'), ih h']

/-- Whether some path may have two shapes. -/
def meet : List (Option String) → List (Option String) → Bool
  | [], [] => true
  | some w :: segments, some w' :: segments' => w = w' && meet segments segments'
  | _ :: segments, _ :: segments' => meet segments segments'
  | _, _ => false

theorem Fits.meet_eq_true (h : Fits segments identifiers parts) (h' : Fits segments' identifiers' parts) :
    meet segments segments' = true := by
  induction h generalizing segments' identifiers' with
  | done => cases h'; rfl
  | word w _ ih =>
    cases h' with
    | word _ h' => simp [meet, ih h']
    | identifier _ h' => exact ih h'
  | identifier _ _ ih =>
    cases h' with
    | word _ h' => exact ih h'
    | identifier _ h' => exact ih h'

/-! ## Paths part by part -/

theorem pathParts_append (path part : String) : pathParts (path ++ "/" ++ part) = pathParts path ++ pathParts part := by
  unfold pathParts
  rw [String.append_assoc, String.toList_append, String.toList_append]
  show (Text.splitAt '/' (path.toList ++ '/' :: part.toList)).map String.ofList = _
  rw [Text.splitAt_append, List.map_append]

theorem pathParts_of_not_mem {part : String} (h : '/' ∉ part.toList) : pathParts part = [part] := by
  unfold pathParts
  rw [Text.splitAt_of_not_mem h, List.map_singleton, String.ofList_toList]

theorem addresses_root : Addresses "" [] [] := ⟨[], rfl, .done⟩

theorem Addresses.word {path : String} (h : Addresses path segments identifiers) (w : String)
    (hw : '/' ∉ w.toList) : Addresses (path ++ "/" ++ w) (segments ++ [some w]) identifiers := by
  obtain ⟨parts, hparts, hfits⟩ := h
  refine ⟨parts ++ [w], ?_, ?_⟩
  · rw [pathParts_append, hparts, pathParts_of_not_mem hw, List.cons_append]
  · have hlast := hfits.append (.word w .done)
    rwa [List.append_nil] at hlast

theorem Addresses.identifier {path : String} (h : Addresses path segments identifiers) (identifier : String) :
    Addresses (path ++ "/" ++ Text.segment identifier) (segments ++ [none]) (identifiers ++ [identifier]) := by
  obtain ⟨parts, hparts, hfits⟩ := h
  refine ⟨parts ++ [Text.segment identifier], ?_, ?_⟩
  · rw [pathParts_append, hparts, pathParts_of_not_mem (Text.slash_not_mem_segment identifier), List.cons_append]
  · exact hfits.append (.identifier (Text.decodeStrict?_segment identifier) .done)

/-! ## Paths of the endpoints -/

namespace Endpoint

theorem addresses_domain (name : String) : Addresses (domain name) [some "v4", some "domains", none] [name] := by
  have h := ((addresses_root.word "v4" (by decide)).word "domains" (by decide)).identifier name
  rwa [show "" ++ "/" ++ "v4" ++ "/" ++ "domains" ++ "/" = "/v4/domains/" by decide] at h

theorem addresses_olderDomain (name : String) :
    Addresses (olderDomain name) [some "v3", some "domains", none] [name] := by
  have h := ((addresses_root.word "v3" (by decide)).word "domains" (by decide)).identifier name
  rwa [show "" ++ "/" ++ "v3" ++ "/" ++ "domains" ++ "/" = "/v3/domains/" by decide] at h

theorem addresses_route (id : String) : Addresses (route id) [some "v3", some "routes", none] [id] := by
  have h := ((addresses_root.word "v3" (by decide)).word "routes" (by decide)).identifier id
  rwa [show "" ++ "/" ++ "v3" ++ "/" ++ "routes" ++ "/" = "/v3/routes/" by decide] at h

theorem addresses_mailingList (address : String) :
    Addresses (mailingList address) [some "v3", some "lists", none] [address] := by
  have h := ((addresses_root.word "v3" (by decide)).word "lists" (by decide)).identifier address
  rwa [show "" ++ "/" ++ "v3" ++ "/" ++ "lists" ++ "/" = "/v3/lists/" by decide] at h

theorem addresses_webhooks (name : String) :
    Addresses (webhooks name) [some "v3", some "domains", none, some "webhooks"] [name] := by
  have h := (addresses_olderDomain name).word "webhooks" (by decide)
  rwa [String.append_assoc, show "/" ++ "webhooks" = "/webhooks" by decide] at h

/-- The words of the kinds of webhooks need no encoding. -/
theorem segment_word (event : WebhookEvent) : Text.segment (Word.word event) = Word.word event := by
  cases event <;> decide +kernel

theorem addresses_webhook (name : String) (event : WebhookEvent) : Addresses (webhook name event)
    [some "v3", some "domains", none, some "webhooks", none] [name, Word.word event] := by
  have h := (addresses_webhooks name).identifier (Word.word event)
  rwa [segment_word] at h

theorem addresses_credentials (name : String) :
    Addresses (credentials name) [some "v3", some "domains", none, some "credentials"] [name] := by
  have h := (addresses_olderDomain name).word "credentials" (by decide)
  rwa [String.append_assoc, show "/" ++ "credentials" = "/credentials" by decide] at h

theorem addresses_credential (name login : String) : Addresses (credential name login)
    [some "v3", some "domains", none, some "credentials", none] [name, login] :=
  (addresses_credentials name).identifier login

theorem addresses_entries {kind : String} (hkind : '/' ∉ kind.toList) (name : String) :
    Addresses (entries name kind) [some "v3", none, some kind] [name] := by
  have h := ((addresses_root.word "v3" (by decide)).identifier name).word kind hkind
  rwa [show "" ++ "/" ++ "v3" ++ "/" = "/v3/" by decide] at h

theorem addresses_entry {kind : String} (hkind : '/' ∉ kind.toList) (name id : String) :
    Addresses (entry name kind id) [some "v3", none, some kind, none] [name, id] :=
  (addresses_entries hkind name).identifier id

end Endpoint

namespace Call

open Endpoint

variable {α β : Type}

/-- The request of a call has the shape of its operation and names its identifiers. -/
theorem exists_shape (call : Call α) : ∃ s, shapeOf? call.name = some s ∧ call.request.method = s.method ∧
    call.request.query = s.query ∧ Addresses call.request.path s.segments call.identifiers := by
  have hdomains : Addresses "/v4/domains" [some "v4", some "domains"] [] :=
    ⟨["v4", "domains"], by decide, .word _ (.word _ .done)⟩
  have hroutes : Addresses "/v3/routes" [some "v3", some "routes"] [] :=
    ⟨["v3", "routes"], by decide, .word _ (.word _ .done)⟩
  have hlists : Addresses "/v3/lists" [some "v3", some "lists"] [] :=
    ⟨["v3", "lists"], by decide, .word _ (.word _ .done)⟩
  cases call with
  | createDomain _ => exact ⟨_, rfl, rfl, rfl, hdomains⟩
  | getDomain name => exact ⟨_, rfl, rfl, rfl, addresses_domain name⟩
  | updateDomain name _ => exact ⟨_, rfl, rfl, rfl, addresses_domain name⟩
  | deleteDomain name => exact ⟨_, rfl, rfl, rfl, addresses_olderDomain name⟩
  | createRoute _ => exact ⟨_, rfl, rfl, rfl, hroutes⟩
  | getRoute id => exact ⟨_, rfl, rfl, rfl, addresses_route id⟩
  | updateRoute id _ => exact ⟨_, rfl, rfl, rfl, addresses_route id⟩
  | deleteRoute id => exact ⟨_, rfl, rfl, rfl, addresses_route id⟩
  | createMailingList _ => exact ⟨_, rfl, rfl, rfl, hlists⟩
  | getMailingList address => exact ⟨_, rfl, rfl, rfl, addresses_mailingList address⟩
  | updateMailingList address _ => exact ⟨_, rfl, rfl, rfl, addresses_mailingList address⟩
  | deleteMailingList address => exact ⟨_, rfl, rfl, rfl, addresses_mailingList address⟩
  | createWebhook w => exact ⟨_, rfl, rfl, rfl, addresses_webhooks w.domain⟩
  | getWebhook name event => exact ⟨_, rfl, rfl, rfl, addresses_webhook name event⟩
  | updateWebhook w => exact ⟨_, rfl, rfl, rfl, addresses_webhook w.domain w.event⟩
  | deleteWebhook name event => exact ⟨_, rfl, rfl, rfl, addresses_webhook name event⟩
  | createCredential c => exact ⟨_, rfl, rfl, rfl, addresses_credentials c.domain⟩
  | getCredential name _ => exact ⟨_, rfl, rfl, rfl, addresses_credentials name⟩
  | updatePassword c => exact ⟨_, rfl, rfl, rfl, addresses_credential c.domain c.login⟩
  | deleteCredential name login => exact ⟨_, rfl, rfl, rfl, addresses_credential name login⟩
  | createTemplate t => exact ⟨_, rfl, rfl, rfl, addresses_entries (by decide) t.domain⟩
  | getTemplate name template => exact ⟨_, rfl, rfl, rfl, addresses_entry (by decide) name template⟩
  | updateTemplate t => exact ⟨_, rfl, rfl, rfl, addresses_entry (by decide) t.domain t.name⟩
  | deleteTemplate name template => exact ⟨_, rfl, rfl, rfl, addresses_entry (by decide) name template⟩
  | createBounce b => exact ⟨_, rfl, rfl, rfl, addresses_entries (by decide) b.domain⟩
  | getBounce name address => exact ⟨_, rfl, rfl, rfl, addresses_entry (by decide) name address⟩
  | deleteBounce name address => exact ⟨_, rfl, rfl, rfl, addresses_entry (by decide) name address⟩
  | createComplaint c => exact ⟨_, rfl, rfl, rfl, addresses_entries (by decide) c.domain⟩
  | getComplaint name address => exact ⟨_, rfl, rfl, rfl, addresses_entry (by decide) name address⟩
  | deleteComplaint name address => exact ⟨_, rfl, rfl, rfl, addresses_entry (by decide) name address⟩
  | createUnsubscribe u => exact ⟨_, rfl, rfl, rfl, addresses_entries (by decide) u.domain⟩
  | getUnsubscribe name address => exact ⟨_, rfl, rfl, rfl, addresses_entry (by decide) name address⟩
  | deleteUnsubscribe name address => exact ⟨_, rfl, rfl, rfl, addresses_entry (by decide) name address⟩

/-- The shapes stand in the order of the operations. -/
theorem idxOf_name (call : Call α) : (shapes.map Shape.operation).idxOf call.name = call.ctorIdx := by
  cases call <;> rfl

end Call

theorem shapes_apart : ∀ a ∈ shapes, ∀ b ∈ shapes, a.method = b.method → a.query = b.query →
    meet a.segments b.segments = true → a = b := by
  decide +kernel

theorem operation_of_shapeOf? {operation : String} {s : Shape} (h : shapeOf? operation = some s) :
    s ∈ shapes ∧ s.operation = operation := by
  unfold shapeOf? at h
  exact ⟨List.mem_of_find?_eq_some h, by simpa using List.find?_some h⟩

theorem ofWord?_word (event : WebhookEvent) : Word.ofWord? (Word.word event) = some event := by
  cases event <;> decide +kernel

/-- The path of a request, cut at its slashes, has behind the first of them the words of the endpoint in their places,
and percent-decoding the other parts gives the identifiers of the call back. Two calls whose requests agree in the
method, the path and the query are of one operation, made by one constructor, and name the same identifiers. No two
operations share a name, and no two kinds of webhooks a word. -/
theorem request_determines_target :
    (∀ {α : Type} (call : Call α), ∃ s, shapeOf? call.name = some s ∧ call.request.method = s.method ∧
      call.request.query = s.query ∧ ∃ parts, pathParts call.request.path = "" :: parts ∧
        parts.length = s.segments.length ∧ Fits s.segments call.identifiers parts) ∧
    (∀ {α β : Type} (call : Call α) (call' : Call β), call.request.method = call'.request.method →
      call.request.path = call'.request.path → call.request.query = call'.request.query →
        call.name = call'.name ∧ call.ctorIdx = call'.ctorIdx ∧ call.identifiers = call'.identifiers) ∧
    (shapes.length = 33 ∧ (shapes.map Shape.operation).Nodup) ∧
    ∀ event event' : WebhookEvent, Word.word event = Word.word event' → event = event' := by
  refine ⟨?_, ?_, ⟨rfl, by decide +kernel⟩, ?_⟩
  · intro α call
    obtain ⟨s, hs, hmethod, hquery, parts, hparts, hfits⟩ := call.exists_shape
    exact ⟨s, hs, hmethod, hquery, parts, hparts, hfits.length_eq, hfits⟩
  · intro α β call call' hmethod hpath hquery
    obtain ⟨s, hs, hmethod₁, hquery₁, parts, hparts, hfits⟩ := call.exists_shape
    obtain ⟨s', hs', hmethod₂, hquery₂, parts', hparts', hfits'⟩ := call'.exists_shape
    obtain ⟨hmem, hname⟩ := operation_of_shapeOf? hs
    obtain ⟨hmem', hname'⟩ := operation_of_shapeOf? hs'
    rw [hpath, hparts'] at hparts
    obtain rfl : parts' = parts := (List.cons.inj hparts).2
    -- one path has both shapes, and so they are one
    obtain rfl : s = s' := shapes_apart s hmem s' hmem' (by rw [← hmethod₁, hmethod, hmethod₂])
      (by rw [← hquery₁, hquery, hquery₂]) (hfits.meet_eq_true hfits')
    have hsame : call.name = call'.name := hname.symm.trans hname'
    exact ⟨hsame, by rw [← call.idxOf_name, hsame, call'.idxOf_name], hfits.identifiers_eq hfits'⟩
  · intro event event' h
    have hread := ofWord?_word event
    rw [h, ofWord?_word] at hread
    exact (Option.some.inj hread).symm

/-- Two lookups of credentials of one domain, whose name is no harmless one, send the same request. Its path has five
parts, and the fourth of them gives the domain back. -/
theorem credential_lookups_share_target :
    let first : Call CredentialState := .getCredential "a/ü%2F" "alice"
    let second : Call CredentialState := .getCredential "a/ü%2F" "bob"
    (first.request = second.request ∧ first.name = second.name ∧ first.identifiers = ["a/ü%2F"]) ∧
      ∃ parts, pathParts first.request.path = "" :: parts ∧ parts.length = 4 ∧
        Fits [some "v3", some "domains", none, some "credentials"] ["a/ü%2F"] parts := by
  intro first second
  obtain ⟨hshape, hsame, -, -⟩ := request_determines_target
  have hrequest : first.request = second.request := rfl
  obtain ⟨hname, -⟩ := hsame first second (by rw [hrequest]) (by rw [hrequest]) (by rw [hrequest])
  obtain ⟨s, hs, -, -, parts, hparts, hlength, hfits⟩ := hshape first
  obtain rfl : _ = s := Option.some.inj hs
  exact ⟨⟨hrequest, hname, rfl⟩, parts, hparts, hlength, hfits⟩

/-- Only the query tells these two apart. -/
example :
    let template : Call TemplateState := .getTemplate "domains" "credentials"
    let credential : Call CredentialState := .getCredential "templates" "alice"
    template.request.method = credential.request.method ∧ template.request.path = credential.request.path ∧
      template.request.query ≠ credential.request.query := by
  decide +kernel

end MailReconciler
