/-
JSON values. Objects keep the order and the repetitions of their members, and a value that is well formed but
cannot be represented is kept as such, so that a reader who has no use for it may pass over it.
-/
import MailReconciler.Decimal.Layout

namespace MailReconciler

/-- A number: an integer from `-2 ^ 63` up to, but not including, `2 ^ 64`, or a double. -/
inductive Json.Number where
  | integer (n : Int)
  | double (x : Float)
deriving Repr, BEq, Inhabited

/-- A JSON value. -/
inductive Json where
  | null
  | bool (b : Bool)
  | number (n : Json.Number)
  | string (s : String)
  | array (items : List Json)
  | object (members : List (String × Json))
  /-- A well-formed value that holds half of a surrogate pair, undecodable bytes or a number beyond every double. -/
  | unreadable
deriving Repr, Inhabited

namespace Json

/-- An integer as a value. -/
def int (n : Int) : Json := .number (.integer n)

/-- A natural number as a value. -/
def nat (n : Nat) : Json := .number (.integer n)

/-- A double, or null when it is not finite. -/
def ofFloat (x : Float) : Json := if x.isFinite then .number (.double x) else .null

/-- An absent value is null. -/
def ofOption {α : Type} (write : α → Json) : Option α → Json
  | none => .null
  | some a => write a

/-- The first member of an object with a name. -/
def member? (name : String) : Json → Option Json
  | .object members => (members.find? (·.1 == name)).map (·.2)
  | _ => none

/-! ## Values as data -/

/-- Puts a member into a list that is in increasing order of names; a member of the same name is replaced. -/
def insertMember (name : String) (value : Json) : List (String × Json) → List (String × Json)
  | [] => [(name, value)]
  | (first, old) :: rest =>
    if name < first then (name, value) :: (first, old) :: rest
    else if name = first then (name, value) :: rest
    else (first, old) :: insertMember name value rest

mutual

/-- The value as data, `fuel` levels of nesting allowed: members in increasing order of names, the last of a name
winning. None if a part is unreadable or nested too deep. -/
def settle? (fuel : Nat) : Json → Option Json
  | .unreadable => none
  | .array items => match fuel with
    | 0 => none
    | fuel + 1 => (settleItems? fuel items).map .array
  | .object members => match fuel with
    | 0 => none
    | fuel + 1 => (settleMembers? fuel members).map fun settled =>
        .object (settled.foldl (fun acc (name, value) => insertMember name value acc) [])
  | value => some value

/-- Settles every item of an array. -/
def settleItems? (fuel : Nat) : List Json → Option (List Json)
  | [] => some []
  | item :: rest => do
    let item ← settle? fuel item
    let rest ← settleItems? fuel rest
    return item :: rest

/-- Settles the value of every member. -/
def settleMembers? (fuel : Nat) : List (String × Json) → Option (List (String × Json))
  | [] => some []
  | (name, value) :: rest => do
    let value ← settle? fuel value
    let rest ← settleMembers? fuel rest
    return (name, value) :: rest

end

/-- A value may be nested up to this many levels to be taken as data. -/
def maxDepth : Nat := 127

/-- A read value as plain data. -/
def asData? (j : Json) : Option Json := settle? maxDepth j

end Json
end MailReconciler
