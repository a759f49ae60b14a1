/-
Suppression lists of a sending domain: bounces, complaints and unsubscribes. Creating an entry that exists
overwrites it.
-/
import MailReconciler.Resource.Webhook
import MailReconciler.Decimal.Reading

namespace MailReconciler

open Json (Decoder Record)

/-! ## Bounces -/

/-- A desired bounce entry. -/
structure BounceSpec where
  domain : String := ""
  address : String := ""
  code : Option UInt16 := none
  error : Option String := none
deriving Repr, DecidableEq

namespace BounceSpec

/-- Refuses an entry without a domain or an address. -/
def check (b : BounceSpec) : Except ApiFailure Unit := do
  requireText "domain" b.domain
  requireText "address" b.address

/-- The form that creates or overwrites the entry. -/
def form (b : BounceSpec) : Form :=
  [("address", b.address)] ++
  Form.optional "code" (b.code.map (toString ·.toNat)) ++
  Form.optional "error" b.error

/-- Reads a desired entry from JSON. -/
def decode : Decoder BounceSpec := fun j => do
  let r ← Record.read ["domain", "address", "code", "error"] j
  return {
    domain := ← r.get "domain" "" Decoder.string
    address := ← r.get "address" "" Decoder.string
    code := ← r.get "code" none (Decoder.option fun j => (Decoder.natural 16 j).map UInt16.ofNat)
    error := ← r.get "error" none (Decoder.option Decoder.string) }

/-- Writes a desired entry as JSON. -/
def toJson (b : BounceSpec) : Json :=
  .object [
    ("domain", .string b.domain),
    ("address", .string b.address),
    ("code", .ofOption (fun n => .nat n.toNat) b.code),
    ("error", .ofOption .string b.error)]

end BounceSpec

/-- A bounce entry as the API reports it. -/
structure BounceState where
  address : String := ""
  code : Option String := none
  error : Option String := none
  createdAt : Option String := none
deriving Repr, DecidableEq

namespace BounceState

/-- A string, or the text of a number. -/
def decodeCode : Decoder String
  | .string s => .ok s
  | .number (.integer n) => .ok (toString n)
  | .number (.double x) => if x.isFinite then .ok (Decimal.json.render x) else .error .noneFits
  | _ => .error .noneFits

/-- Reads an entry from JSON. -/
def decode : Decoder BounceState := fun j => do
  let r ← Record.read ["address", "code", "error", "created_at"] j
  return {
    address := ← r.get "address" "" Decoder.string
    code := ← r.get "code" none (Decoder.option decodeCode)
    error := ← r.get "error" none (Decoder.option Decoder.string)
    createdAt := ← r.get "created_at" none (Decoder.option Decoder.string) }

/-- Writes an entry as JSON. -/
def toJson (b : BounceState) : Json :=
  .object [
    ("address", .string b.address),
    ("code", .ofOption .string b.code),
    ("error", .ofOption .string b.error),
    ("created_at", .ofOption .string b.createdAt)]

end BounceState

/-- Whether an entry has the desired code and error, where they are set. -/
def BounceSpec.metBy (desired : BounceSpec) (observed : BounceState) : Bool :=
  desired.code.all (fun code => observed.code == some (toString code.toNat)) &&
    desired.error.all (fun e => observed.error == some e)

/-! ## Complaints -/

/-- A desired complaint entry. -/
structure ComplaintSpec where
  domain : String := ""
  address : String := ""
deriving Repr, DecidableEq

namespace ComplaintSpec

/-- Refuses an entry without a domain or an address. -/
def check (c : ComplaintSpec) : Except ApiFailure Unit := do
  requireText "domain" c.domain
  requireText "address" c.address

/-- The form that creates or overwrites the entry. -/
def form (c : ComplaintSpec) : Form := [("address", c.address)]

/-- Reads a desired entry from JSON. -/
def decode : Decoder ComplaintSpec := fun j => do
  let r ← Record.read ["domain", "address"] j
  return {
    domain := ← r.get "domain" "" Decoder.string
    address := ← r.get "address" "" Decoder.string }

/-- Writes a desired entry as JSON. -/
def toJson (c : ComplaintSpec) : Json := .object [("domain", .string c.domain), ("address", .string c.address)]

end ComplaintSpec

/-- A complaint entry as the API reports it. -/
structure ComplaintState where
  address : String := ""
  createdAt : Option String := none
deriving Repr, DecidableEq

namespace ComplaintState

/-- Reads an entry from JSON. -/
def decode : Decoder ComplaintState := fun j => do
  let r ← Record.read ["address", "created_at"] j
  return {
    address := ← r.get "address" "" Decoder.string
    createdAt := ← r.get "created_at" none (Decoder.option Decoder.string) }

/-- Writes an entry as JSON. -/
def toJson (c : ComplaintState) : Json :=
  .object [("address", .string c.address), ("created_at", .ofOption .string c.createdAt)]

end ComplaintState

/-! ## Unsubscribes -/

/-- A desired unsubscribe entry. -/
structure UnsubscribeSpec where
  domain : String := ""
  address : String := ""
  tags : List String := []
deriving Repr, DecidableEq

namespace UnsubscribeSpec

/-- Refuses an entry without a domain or an address. -/
def check (u : UnsubscribeSpec) : Except ApiFailure Unit := do
  requireText "domain" u.domain
  requireText "address" u.address

/-- The tags in effect: no tags mean every tag. -/
def effectiveTags (u : UnsubscribeSpec) : List String := if u.tags.isEmpty then ["*"] else u.tags

/-- The form that creates or overwrites the entry. -/
def form (u : UnsubscribeSpec) : Form := ("address", u.address) :: Form.each "tag" u.effectiveTags

/-- Reads a desired entry from JSON. -/
def decode : Decoder UnsubscribeSpec := fun j => do
  let r ← Record.read ["domain", "address", "tags"] j
  return {
    domain := ← r.get "domain" "" Decoder.string
    address := ← r.get "address" "" Decoder.string
    tags := ← r.get "tags" [] (Decoder.list Decoder.string) }

/-- Writes a desired entry as JSON. -/
def toJson (u : UnsubscribeSpec) : Json :=
  .object [
    ("domain", .string u.domain),
    ("address", .string u.address),
    ("tags", .array (u.tags.map .string))]

end UnsubscribeSpec

/-- An unsubscribe entry as the API reports it. -/
structure UnsubscribeState where
  address : String := ""
  tags : List String := []
  createdAt : Option String := none
deriving Repr, DecidableEq

namespace UnsubscribeState

/-- Reads an entry from JSON. -/
def decode : Decoder UnsubscribeState := fun j => do
  let r ← Record.read ["address", "tags", "created_at"] j
  return {
    address := ← r.get "address" "" Decoder.string
    tags := ← r.get "tags" [] (Decoder.orNull [] (Decoder.list Decoder.string))
    createdAt := ← r.get "created_at" none (Decoder.option Decoder.string) }

/-- Writes an entry as JSON. -/
def toJson (u : UnsubscribeState) : Json :=
  .object [
    ("address", .string u.address),
    ("tags", .array (u.tags.map .string)),
    ("created_at", .ofOption .string u.createdAt)]

end UnsubscribeState

/-- Whether an entry has exactly the tags in effect. -/
def UnsubscribeSpec.metBy (desired : UnsubscribeSpec) (observed : UnsubscribeState) : Bool :=
  sameTexts desired.effectiveTags observed.tags

end MailReconciler
