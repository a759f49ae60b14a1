/-
Webhooks of a sending domain: the desired addresses for one event with their forms, and those that the API reports.
-/
import MailReconciler.Resource.Form
import MailReconciler.Resource.Vocabulary

namespace MailReconciler

open Json (Decoder Record)

/-! ## Desired -/

/-- The addresses to call on one event of a domain. -/
structure WebhookSpec where
  domain : String
  event : WebhookEvent
  urls : List String := []
deriving Repr, DecidableEq

namespace WebhookSpec

/-- Refuses a webhook without a domain, and fewer than one or more than three addresses. -/
def check (w : WebhookSpec) : Except ApiFailure Unit := do
  requireText "domain" w.domain
  if w.urls.isEmpty then .error (.invalidRequest "urls must not be empty")
  else if 3 < w.urls.length then .error (.invalidRequest "at most 3 urls per webhook")
  else .ok ()

/-- The form that changes the webhook. -/
def updateForm (w : WebhookSpec) : Form := Form.each "url" w.urls

/-- The form that creates the webhook: the event goes by the key `id`. -/
def createForm (w : WebhookSpec) : Form := ("id", Word.word w.event) :: w.updateForm

/-- Reads a desired webhook from JSON; only the addresses may be absent. -/
def decode : Decoder WebhookSpec := fun j => do
  let r ← Record.read ["domain", "kind", "urls"] j
  return {
    domain := ← r.require "domain" Decoder.string
    event := ← r.require "kind" Word.decode
    urls := ← r.get "urls" [] (Decoder.list Decoder.string) }

/-- Writes a desired webhook as JSON. -/
def toJson (w : WebhookSpec) : Json :=
  .object [
    ("domain", .string w.domain),
    ("kind", Word.toJson w.event),
    ("urls", .array (w.urls.map .string))]

end WebhookSpec

/-! ## Observed -/

/-- A webhook as the API reports it. -/
structure WebhookState where
  domain : String
  event : WebhookEvent
  urls : List String
deriving Repr, DecidableEq

namespace WebhookState

/-- Reads a webhook from JSON. -/
def decode : Decoder WebhookState := fun j => do
  let r ← Record.read ["domain", "kind", "urls"] j
  return {
    domain := ← r.require "domain" Decoder.string
    event := ← r.require "kind" Word.decode
    urls := ← r.require "urls" (Decoder.list Decoder.string) }

/-- Writes a webhook as JSON. -/
def toJson (w : WebhookState) : Json :=
  .object [
    ("domain", .string w.domain),
    ("kind", Word.toJson w.event),
    ("urls", .array (w.urls.map .string))]

/-- The addresses in an answer, some of which carry a single `url` beside or instead of the list. -/
def decodeUrls : Decoder (List String) := fun j => do
  let r ← Record.read ["urls", "url"] j
  let urls ← r.get "urls" [] (Decoder.list Decoder.string)
  let url ← r.get "url" none (Decoder.option Decoder.string)
  return match url with
    | none => urls
    | some url => if urls.contains url then urls else urls ++ [url]

/-- Reads an answer that holds the addresses for an event of a domain. -/
def decodeEnvelope (domain : String) (event : WebhookEvent) : Decoder WebhookState := fun j => do
  let urls ← (← Record.read ["webhook"] j).require "webhook" decodeUrls
  return ⟨domain, event, urls⟩

end WebhookState

/-- Whether two lists hold the same texts, in any order and number. -/
def sameTexts (a b : List String) : Bool := a.all b.contains && b.all a.contains

/-- Whether a webhook calls exactly the desired addresses. -/
def WebhookSpec.metBy (desired : WebhookSpec) (observed : WebhookState) : Bool :=
  sameTexts desired.urls observed.urls

end MailReconciler
