/-
Taking JSON values in as typed data. A record is an object or an array of its fields in order; members of other
names are passed over, and a member given twice is refused. What readers of documents say of one that they cannot take
in is a parameter.
-/
import MailReconciler.Json.Basic

namespace MailReconciler.Json

/-- Why a value cannot be taken in. -/
inductive DecodeError where
  /-- The text is no JSON text. -/
  | malformed
  /-- The value is of another kind than the one expected. -/
  | mismatch (found : Json) (expected : String)
  /-- The number is of the expected kind but too small or too large. -/
  | outOfRange (found : Int) (expected : String)
  | missing (name : String)
  | repeated (name : String)
  /-- An array has more items than the record has fields. -/
  | tooMany (fields : Nat)
  | unknownWord (word : String) (known : List String)
  /-- No reading of the value fits. -/
  | noneFits
deriving Repr, Inhabited

/-- A reading of values as `α`. -/
abbrev Decoder (α : Type) := Json → Except DecodeError α

namespace Decoder

/-! ## Plain values -/

/-- Strings only. -/
def string : Decoder String
  | .string s => .ok s
  | j => .error (.mismatch j "a string")

/-- Truth values only. -/
def bool : Decoder Bool
  | .bool b => .ok b
  | j => .error (.mismatch j "a boolean")

/-- Integers between two bounds. -/
def integer (low high : Int) (expected : String) : Decoder Int
  | .number (.integer n) => if low ≤ n ∧ n ≤ high then .ok n else .error (.outOfRange n expected)
  | j => .error (.mismatch j expected)

/-- Natural numbers of at most `bits` bits. -/
def natural (bits : Nat) : Decoder Nat := fun j =>
  (integer 0 ((1 <<< bits : Nat) - 1) ("u" ++ toString bits) j).map Int.toNat

/-- Natural numbers of thirty-two bits. -/
def uint32 : Decoder UInt32 := fun j => (natural 32 j).map UInt32.ofNat

/-- Natural numbers of sixty-four bits. -/
def uint64 : Decoder UInt64 := fun j => (natural 64 j).map UInt64.ofNat

/-- Any number, as a double. -/
def double : Decoder Float
  | .number (.double x) => .ok x
  | .number (.integer n) =>
    .ok (if n < 0 then -(UInt64.ofNat n.natAbs).toFloat else (UInt64.ofNat n.toNat).toFloat)
  | j => .error (.mismatch j "f64")

/-- Any value, which is passed over. -/
def ignored : Decoder Unit := fun _ => .ok ()

/-- Null is nothing. -/
def option {α : Type} (decode : Decoder α) : Decoder (Option α)
  | .null => .ok none
  | j => (decode j).map some

/-- Null is the default. -/
def orNull {α : Type} (default : α) (decode : Decoder α) : Decoder α
  | .null => .ok default
  | j => decode j

/-- Arrays, item by item. -/
def list {α : Type} (decode : Decoder α) : Decoder (List α)
  | .array items => items.mapM decode
  | j => .error (.mismatch j "a sequence")

end Decoder

/-! ## Records -/

/-- The values given for the fields of a record. -/
abbrev Record := List (String × Json)

/-- The field that a member's name stands for: its own name or one of its other names. -/
def fieldNamed? (fields : List (String × List String)) (name : String) : Option String :=
  (fields.find? fun field => field.1 == name || field.2.contains name).map (·.1)

/-- The members that belong to the fields of a record, each at most once. -/
def pickFields (fields : List (String × List String)) :
    List (String × Json) → Except DecodeError Record
  | [] => .ok []
  | (name, value) :: rest => do
    let picked ← pickFields fields rest
    match fieldNamed? fields name with
    | none => return picked
    | some field =>
      if picked.any (·.1 == field) then .error (.repeated field) else return (field, value) :: picked

/-- Reads a record whose fields may go by other names too. -/
def Record.readNamed (fields : List (String × List String)) : Decoder Record
  | .object members => pickFields fields members
  | .array items =>
    if fields.length < items.length then .error (.tooMany fields.length)
    else .ok ((fields.map (·.1)).zip items)
  | j => .error (.mismatch j "a record")

/-- Reads a record with the given fields in order. -/
def Record.read (names : List String) : Decoder Record := Record.readNamed (names.map (·, []))

/-- A field that may be absent. -/
def Record.get {α : Type} (r : Record) (name : String) (default : α) (decode : Decoder α) :
    Except DecodeError α :=
  match r.lookup name with
  | none => .ok default
  | some value => decode value

/-- A field that must be there. -/
def Record.require {α : Type} (r : Record) (name : String) (decode : Decoder α) : Except DecodeError α :=
  match r.lookup name with
  | none => .error (.missing name)
  | some value => decode value

/-! ## Documents -/

/-- The data that a decoder finds in the value of a document, if there is a value and it is as expected. -/
def readAs? {α : Type} (decode : Decoder α) (value : Option Json) : Option α :=
  value.bind fun j => (decode j).toOption

/-- What readers of documents say of one that they cannot take in. They tell what is wrong and where: so that depends on
the whole document and on the data that it should hold. -/
structure Complaints where
  /-- Of the bytes of a JSON text. -/
  ofJson : {α : Type} → Decoder α → List UInt8 → String
  /-- Of null in the place of a document. -/
  ofNull : {α : Type} → Decoder α → String
  /-- Of a TOML text. -/
  ofToml : {α : Type} → Decoder α → String → String

end MailReconciler.Json
