/-
Documents that hold a configuration: their formats, and how sections, words and durations are read from either.
-/
import MailReconciler.Duration
import MailReconciler.Toml.Reading
import MailReconciler.Json.Reading
import MailReconciler.Word

namespace MailReconciler

open Json (Decoder Record)

/-- The format of a document. -/
inductive DocumentFormat where
  | toml
  | json
deriving Repr, DecidableEq

namespace DocumentFormat

/-- The value of a document's text. -/
def read? : DocumentFormat → String → Option Json
  | .toml, text => Toml.read? text
  | .json, text => Json.parse? text

/-- What is said of a text that does not hold the data of a decoder. -/
def complaint {α : Type} (complaints : Json.Complaints) (decode : Decoder α) (text : String) :
    DocumentFormat → String
  | .toml => "Invalid TOML format: " ++ complaints.ofToml decode text
  | .json => "Invalid JSON format: " ++ complaints.ofJson decode (Text.encode text)

/-- The fields of a section. A list that is too long is an error in JSON; in TOML the rest is passed over. -/
def fields (format : DocumentFormat) (names : List String) : Decoder Record := fun j =>
  match format, j with
  | .toml, .array items => Record.read names (.array (items.take names.length))
  | _, j => Record.read names j

/-- A word of a vocabulary. In TOML it may also be the key of a table with one empty table or list. -/
def word {α : Type} [Word α] (format : DocumentFormat) : Decoder α := fun j =>
  match format, j with
  | .toml, .object [(name, .object [])] | .toml, .object [(name, .array [])] => Word.decode (.string name)
  | _, j => Word.decode j

end DocumentFormat

/-! ## Durations -/

/-- A whole number of milliseconds as a duration. -/
def Duration.decodeMillis : Decoder Duration := fun j => (Decoder.natural 64 j).map Duration.ofMillis

/-- A duration as a whole number of milliseconds. -/
def Duration.millisJson (d : Duration) : Json := .nat d.millis

end MailReconciler
