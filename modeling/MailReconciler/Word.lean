/-
Closed vocabularies: each value has one fixed word. Words are read in any letter case where people write them
and exactly where programs do.
-/
import MailReconciler.Json.Decoding
import MailReconciler.Text.Lowercase

namespace MailReconciler

/-- A vocabulary. -/
class Word (α : Type) where
  /-- What messages call the vocabulary. -/
  title : String
  /-- Its values in order. -/
  all : List α
  word : α → String

namespace Word

variable {α : Type} [Word α]

/-- The value whose word is exactly `text`. -/
def ofWord? (text : String) : Option α := (all (α := α)).find? fun a => word a == text

/-- The value whose word is `text` in any letter case. -/
def parse? (text : String) : Option α := ofWord? (Text.lowercase text)

/-- The message about a text that is no word of the vocabulary. -/
def refusal (α : Type) [Word α] (text : String) : String := "invalid " ++ title α ++ ": " ++ text

/-- The word as a JSON string. -/
def toJson (a : α) : Json := .string (word a)

/-- The exact word as a string, or as the only member of an object, with null. -/
def decode : Json.Decoder α := fun j =>
  let look (text : String) : Except Json.DecodeError α :=
    match ofWord? text with
    | some a => .ok a
    | none => .error (.unknownWord text ((all (α := α)).map word))
  match j with
  | .string s => look s
  | .object [(name, .null)] => look name
  | .object [(name, value)] => (look name).bind fun _ => .error (.mismatch value "unit")
  | j => .error (.mismatch j ("a word of " ++ title α))

end Word
end MailReconciler
