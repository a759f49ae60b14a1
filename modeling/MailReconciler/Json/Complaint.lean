/-
What the readers of this program say of documents that they cannot take in: what is wrong, but not where. Nothing else
depends on these texts.
-/
import MailReconciler.Json.Decoding
import MailReconciler.Json.Reading
import MailReconciler.Text.Quoted
import MailReconciler.Toml.Reading

namespace MailReconciler.Json

/-- What a message calls a value. -/
def describe : Json → String
  | .null => "null"
  | .bool b => "boolean `" ++ toString b ++ "`"
  | .number (.integer n) => "integer `" ++ toString n ++ "`"
  | .number (.double x) => "floating point `" ++ Decimal.json.render x ++ "`"
  | .string s => "string " ++ Text.quote s
  | .array _ => "sequence"
  | .object _ => "map"
  | .unreadable => "unreadable value"

/-- The known words as a message lists them. -/
def listWords (known : List String) : String :=
  let quoted := known.map fun word => "`" ++ word ++ "`"
  match quoted with
  | [a] => a
  | [a, b] => a ++ " or " ++ b
  | all => "one of " ++ ", ".intercalate all

/-- The text of a decode error. -/
def DecodeError.message : DecodeError → String
  | .malformed => "malformed text"
  | .mismatch found expected => "invalid type: " ++ found.describe ++ ", expected " ++ expected
  | .outOfRange found expected => "invalid value: integer `" ++ toString found ++ "`, expected " ++ expected
  | .missing name => "missing field `" ++ name ++ "`"
  | .repeated name => "duplicate field `" ++ name ++ "`"
  | .tooMany fields => "trailing items behind " ++ toString fields ++ " fields"
  | .unknownWord word known => "unknown variant `" ++ word ++ "`, expected " ++ listWords known
  | .noneFits => "data did not match any variant"

/-- What is said of a value that is none or not the expected one. -/
def complain {α : Type} (decode : Decoder α) (value : Option Json) : String :=
  match value.map decode with
  | some (.error e) => e.message
  | _ => DecodeError.malformed.message

/-- Complaints that do not tell the place. -/
def Complaints.placeless : Complaints where
  ofJson decode bytes := complain decode (parseBytes? bytes)
  ofNull decode := complain decode (some .null)
  ofToml decode text := complain decode (Toml.read? text)

end MailReconciler.Json
