/-
Stored message templates: the desired template with its first version, and the template that the API reports.
-/
import MailReconciler.Resource.Form
import MailReconciler.Resource.Vocabulary

namespace MailReconciler

open Json (Decoder Record)

/-! ## Desired -/

/-- A desired template with the content of its first version. -/
structure TemplateSpec where
  domain : String := ""
  name : String := ""
  description : Option String := none
  template : String := ""
  engine : Option String := none
  tag : Option String := none
  comment : Option String := none
deriving Repr, DecidableEq

namespace TemplateSpec

/-- Refuses a template without a domain, a name or content. -/
def check (t : TemplateSpec) : Except ApiFailure Unit := do
  requireText "domain" t.domain
  requireText "name" t.name
  requireText "template" t.template

/-- The form that creates the template. -/
def createForm (t : TemplateSpec) : Form :=
  [("name", t.name)] ++
  Form.optional "description" t.description ++
  [("template", t.template)] ++
  Form.optional "engine" t.engine ++
  Form.optional "tag" t.tag ++
  Form.optional "comment" t.comment

/-- The form that changes the template: only its description can change. -/
def updateForm (t : TemplateSpec) : Form := [("description", t.description.getD "")]

/-- Reads a desired template from JSON. -/
def decode : Decoder TemplateSpec := fun j => do
  let r ← Record.read ["domain", "name", "description", "template", "engine", "tag", "comment"] j
  return {
    domain := ← r.get "domain" "" Decoder.string
    name := ← r.get "name" "" Decoder.string
    description := ← r.get "description" none (Decoder.option Decoder.string)
    template := ← r.get "template" "" Decoder.string
    engine := ← r.get "engine" none (Decoder.option Decoder.string)
    tag := ← r.get "tag" none (Decoder.option Decoder.string)
    comment := ← r.get "comment" none (Decoder.option Decoder.string) }

/-- Writes a desired template as JSON. -/
def toJson (t : TemplateSpec) : Json :=
  .object [
    ("domain", .string t.domain),
    ("name", .string t.name),
    ("description", .ofOption .string t.description),
    ("template", .string t.template),
    ("engine", .ofOption .string t.engine),
    ("tag", .ofOption .string t.tag),
    ("comment", .ofOption .string t.comment)]

end TemplateSpec

/-! ## Observed -/

/-- One stored version of a template. -/
structure TemplateVersion where
  tag : String := ""
  template : String := ""
  engine : String := ""
  comment : String := ""
  active : Bool := false
  createdAt : Option String := none
deriving Repr, DecidableEq

namespace TemplateVersion

/-- Reads a version from JSON. -/
def decode : Decoder TemplateVersion := fun j => do
  let r ← Record.read ["tag", "template", "engine", "comment", "active", "createdAt"] j
  return {
    tag := ← r.get "tag" "" Decoder.string
    template := ← r.get "template" "" Decoder.string
    engine := ← r.get "engine" "" Decoder.string
    comment := ← r.get "comment" "" Decoder.string
    active := ← r.get "active" false Decoder.bool
    createdAt := ← r.get "createdAt" none (Decoder.option Decoder.string) }

/-- Writes a version as JSON. -/
def toJson (v : TemplateVersion) : Json :=
  .object [
    ("tag", .string v.tag),
    ("template", .string v.template),
    ("engine", .string v.engine),
    ("comment", .string v.comment),
    ("active", .bool v.active),
    ("createdAt", .ofOption .string v.createdAt)]

end TemplateVersion

/-- A template as the API reports it. -/
structure TemplateState where
  id : String := ""
  name : String := ""
  description : String := ""
  createdAt : Option String := none
  createdBy : Option String := none
  version : Option TemplateVersion := none
deriving Repr, DecidableEq

namespace TemplateState

/-- Reads a template from JSON. -/
def decode : Decoder TemplateState := fun j => do
  let r ← Record.read ["id", "name", "description", "createdAt", "createdBy", "version"] j
  return {
    id := ← r.get "id" "" Decoder.string
    name := ← r.get "name" "" Decoder.string
    description := ← r.get "description" "" Decoder.string
    createdAt := ← r.get "createdAt" none (Decoder.option Decoder.string)
    createdBy := ← r.get "createdBy" none (Decoder.option Decoder.string)
    version := ← r.get "version" none (Decoder.option TemplateVersion.decode) }

/-- Writes a template as JSON. -/
def toJson (t : TemplateState) : Json :=
  .object [
    ("id", .string t.id),
    ("name", .string t.name),
    ("description", .string t.description),
    ("createdAt", .ofOption .string t.createdAt),
    ("createdBy", .ofOption .string t.createdBy),
    ("version", .ofOption TemplateVersion.toJson t.version)]

/-- Reads an answer that holds a template. -/
def decodeEnvelope : Decoder TemplateState := fun j => do
  (← Record.read ["template"] j).require "template" decode

end TemplateState

/-- Whether a template has the desired description, if one is set. -/
def TemplateSpec.metBy (desired : TemplateSpec) (observed : TemplateState) : Bool :=
  desired.description.all (· == observed.description)

end MailReconciler
