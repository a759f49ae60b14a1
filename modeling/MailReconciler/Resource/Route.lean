/-
Inbound routes: the desired rule with its form, and the rule that the API reports.
-/
import MailReconciler.Resource.Form
import MailReconciler.Resource.Vocabulary

namespace MailReconciler

open Json (Decoder Record)

/-- A number of thirty-two bits with a sign. -/
def Json.Decoder.int32 : Decoder Int32 := fun j =>
  (Decoder.integer Int32.minValue.toInt Int32.maxValue.toInt "i32" j).map Int32.ofInt

/-! ## Desired -/

/-- A desired route. -/
structure RouteSpec where
  priority : Int32 := 0
  description : String := ""
  expression : String := ""
  actions : List String := []
deriving Repr, DecidableEq

namespace RouteSpec

/-- Refuses a route without an expression or without actions. -/
def check (r : RouteSpec) : Except ApiFailure Unit := do
  requireText "expression" r.expression
  if r.actions.isEmpty then .error (.invalidRequest "actions must not be empty") else .ok ()

/-- The form that creates or changes the route. -/
def form (r : RouteSpec) : Form :=
  [("priority", toString r.priority.toInt), ("description", r.description), ("expression", r.expression)] ++
  Form.each "action" r.actions

/-- Reads a desired route from JSON. -/
def decode : Decoder RouteSpec := fun j => do
  let r ← Record.read ["priority", "description", "expression", "actions"] j
  return {
    priority := ← r.get "priority" 0 Decoder.int32
    description := ← r.get "description" "" Decoder.string
    expression := ← r.get "expression" "" Decoder.string
    actions := ← r.get "actions" [] (Decoder.list Decoder.string) }

/-- Writes a desired route as JSON. -/
def toJson (r : RouteSpec) : Json :=
  .object [
    ("priority", .int r.priority.toInt),
    ("description", .string r.description),
    ("expression", .string r.expression),
    ("actions", .array (r.actions.map .string))]

end RouteSpec

/-! ## Observed -/

/-- A route as the API reports it. -/
structure RouteState where
  id : String := ""
  priority : Int32 := 0
  description : String := ""
  expression : String := ""
  actions : List String := []
  createdAt : Option String := none
deriving Repr, DecidableEq

namespace RouteState

/-- Reads a route from JSON. -/
def decode : Decoder RouteState := fun j => do
  let r ← Record.read ["id", "priority", "description", "expression", "actions", "created_at"] j
  return {
    id := ← r.get "id" "" Decoder.string
    priority := ← r.get "priority" 0 Decoder.int32
    description := ← r.get "description" "" Decoder.string
    expression := ← r.get "expression" "" Decoder.string
    actions := ← r.get "actions" [] (Decoder.orNull [] (Decoder.list Decoder.string))
    createdAt := ← r.get "created_at" none (Decoder.option Decoder.string) }

/-- Writes a route as JSON. -/
def toJson (r : RouteState) : Json :=
  .object [
    ("id", .string r.id),
    ("priority", .int r.priority.toInt),
    ("description", .string r.description),
    ("expression", .string r.expression),
    ("actions", .array (r.actions.map .string)),
    ("created_at", .ofOption .string r.createdAt)]

/-- Reads an answer that holds a route. -/
def decodeEnvelope : Decoder RouteState := fun j => do
  (← Record.read ["route"] j).require "route" decode

end RouteState

/-- Whether a route is the desired one. -/
def RouteSpec.metBy (desired : RouteSpec) (observed : RouteState) : Bool :=
  desired.priority == observed.priority && desired.description == observed.description &&
    desired.expression == observed.expression && desired.actions == observed.actions

end MailReconciler
