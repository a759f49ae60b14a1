/-
Mailing lists: the desired settings with their form, and the list that the API reports.
-/
import MailReconciler.Resource.Form
import MailReconciler.Resource.Vocabulary

namespace MailReconciler

open Json (Decoder Record)

/-! ## Desired -/

/-- The desired settings of a mailing list. -/
structure MailingListSpec where
  address : String := ""
  name : Option String := none
  description : Option String := none
  accessLevel : Option AccessLevel := none
  replyPreference : Option ReplyPreference := none
deriving Repr, DecidableEq

namespace MailingListSpec

/-- Refuses a list without an address. -/
def check (l : MailingListSpec) : Except ApiFailure Unit := requireText "address" l.address

/-- The form that creates or changes the list. -/
def form (l : MailingListSpec) : Form :=
  [("address", l.address)] ++
  Form.optional "name" l.name ++
  Form.optional "description" l.description ++
  Form.optional "access_level" (l.accessLevel.map Word.word) ++
  Form.optional "reply_preference" (l.replyPreference.map Word.word)

/-- Reads the settings from JSON. -/
def decode : Decoder MailingListSpec := fun j => do
  let r ← Record.read ["address", "name", "description", "access_level", "reply_preference"] j
  return {
    address := ← r.get "address" "" Decoder.string
    name := ← r.get "name" none (Decoder.option Decoder.string)
    description := ← r.get "description" none (Decoder.option Decoder.string)
    accessLevel := ← r.get "access_level" none (Decoder.option Word.decode)
    replyPreference := ← r.get "reply_preference" none (Decoder.option Word.decode) }

/-- Writes the settings as JSON. -/
def toJson (l : MailingListSpec) : Json :=
  .object [
    ("address", .string l.address),
    ("name", .ofOption .string l.name),
    ("description", .ofOption .string l.description),
    ("access_level", .ofOption Word.toJson l.accessLevel),
    ("reply_preference", .ofOption Word.toJson l.replyPreference)]

end MailingListSpec

/-! ## Observed -/

/-- A mailing list as the API reports it. -/
structure MailingListState where
  address : String := ""
  name : String := ""
  description : String := ""
  accessLevel : Option AccessLevel := none
  replyPreference : Option ReplyPreference := none
  membersCount : UInt64 := 0
  createdAt : Option String := none
deriving Repr, DecidableEq

namespace MailingListState

/-- Reads a list from JSON. -/
def decode : Decoder MailingListState := fun j => do
  let r ← Record.read ["address", "name", "description", "access_level", "reply_preference", "members_count",
    "created_at"] j
  return {
    address := ← r.get "address" "" Decoder.string
    name := ← r.get "name" "" Decoder.string
    description := ← r.get "description" "" Decoder.string
    accessLevel := ← r.get "access_level" none (Decoder.option Word.decode)
    replyPreference := ← r.get "reply_preference" none (Decoder.option Word.decode)
    membersCount := ← r.get "members_count" 0 Decoder.uint64
    createdAt := ← r.get "created_at" none (Decoder.option Decoder.string) }

/-- Writes a list as JSON. -/
def toJson (l : MailingListState) : Json :=
  .object [
    ("address", .string l.address),
    ("name", .string l.name),
    ("description", .string l.description),
    ("access_level", .ofOption Word.toJson l.accessLevel),
    ("reply_preference", .ofOption Word.toJson l.replyPreference),
    ("members_count", .nat l.membersCount.toNat),
    ("created_at", .ofOption .string l.createdAt)]

/-- Reads an answer that holds a list. -/
def decodeEnvelope : Decoder MailingListState := fun j => do
  (← Record.read ["list"] j).require "list" decode

end MailingListState

/-- Whether a list has the desired address, in any ASCII letter case, and every setting that is set. -/
def MailingListSpec.metBy (desired : MailingListSpec) (observed : MailingListState) : Bool :=
  Text.lowercaseAscii desired.address == Text.lowercaseAscii observed.address &&
    desired.name.all (· == observed.name) && desired.description.all (· == observed.description) &&
    desired.accessLevel.all (some · == observed.accessLevel) &&
    desired.replyPreference.all (some · == observed.replyPreference)

end MailReconciler
