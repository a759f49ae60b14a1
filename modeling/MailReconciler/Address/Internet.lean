/-
Internet addresses of four bytes and of eight groups: their texts, and the one way to write each of them.
-/
import MailReconciler.Decimal.Reading
import MailReconciler.Text.Percent
import MailReconciler.Text.Quoted

namespace MailReconciler

/-! ## Digits -/

/-- The value of a digit in a base of at most sixteen. -/
def digitOf? (base : Nat) (c : Char) : Option Nat :=
  if c.toNat < 128 then (Text.hexByte? (UInt8.ofNat c.toNat)).filter (· < base) else none

/-- The number that digits of a base spell, and what follows; none without a digit. -/
def takeNumber? (base : Nat) (text : List Char) : Option (List Char × Nat × List Char) :=
  let digits := text.takeWhile fun c => (digitOf? base c).isSome
  if digits.isEmpty then none
  else some (digits, digits.foldl (fun n c => n * base + (digitOf? base c).getD 0) 0, text.drop digits.length)

/-- Drops a character from the front of a text. -/
def dropChar? (c : Char) : List Char → Option (List Char)
  | d :: rest => if c = d then some rest else none
  | [] => none

/-! ## Four bytes -/

/-- An address of four bytes. -/
structure Ipv4 where
  first : UInt8
  second : UInt8
  third : UInt8
  fourth : UInt8
deriving Repr, DecidableEq

namespace Ipv4

/-- A byte in decimal digits without leading zeros, and what follows. -/
def byte? (text : List Char) : Option (UInt8 × List Char) := do
  let (digits, n, rest) ← takeNumber? 10 text
  if 3 < digits.length ∨ (digits.head? = some '0' ∧ 1 < digits.length) ∨ 255 < n then none
  else some (UInt8.ofNat n, rest)

/-- An address at the front of a text, and what follows. -/
def take? (text : List Char) : Option (Ipv4 × List Char) := do
  let (a, rest) ← byte? text
  let (b, rest) ← byte? (← dropChar? '.' rest)
  let (c, rest) ← byte? (← dropChar? '.' rest)
  let (d, rest) ← byte? (← dropChar? '.' rest)
  return (⟨a, b, c, d⟩, rest)

/-- The text of an address. -/
def render (a : Ipv4) : String :=
  ".".intercalate ([a.first, a.second, a.third, a.fourth].map fun b => toString b.toNat)

/-- The address of a 32-bit number. -/
def ofNat (n : Nat) : Ipv4 :=
  ⟨UInt8.ofNat (n >>> 24), UInt8.ofNat (n >>> 16), UInt8.ofNat (n >>> 8), UInt8.ofNat n⟩

end Ipv4

/-! ## Eight groups -/

/-- An address of eight groups of sixteen bits. -/
structure Ipv6 where
  groups : List UInt16
  length_eq : groups.length = 8
deriving DecidableEq

namespace Ipv6

/-- A group of one to four hexadecimal digits, and what follows. -/
def group? (text : List Char) : Option (UInt16 × List Char) := do
  let (digits, n, rest) ← takeNumber? 16 text
  if 4 < digits.length then none else some (UInt16.ofNat n, rest)

/-- The two groups of an address of four bytes. -/
def groupsOf (a : Ipv4) : List UInt16 :=
  [UInt16.ofNat (a.first.toNat * 256 + a.second.toNat), UInt16.ofNat (a.third.toNat * 256 + a.fourth.toNat)]

/-- Drops the colon between two groups; the first group has none before it. -/
def separated? (first : Bool) (text : List Char) : Option (List Char) :=
  if first then some text else dropChar? ':' text

/-- At most `room` groups with colons between them, and what follows. An address of four bytes may stand for the last
two; whether it did is told. -/
def takeGroups (first : Bool) (room : Nat) (text : List Char) : List UInt16 × Bool × List Char :=
  match room with
  | 0 => ([], false, text)
  | room + 1 =>
    match separated? first text with
    | none => ([], false, text)
    | some behind =>
      match if room = 0 then none else Ipv4.take? behind with
      | some (a, rest) => (groupsOf a, true, rest)
      | none =>
        match group? behind with
        | none => ([], false, text)
        | some (g, rest) =>
          let (more, dotted, rest) := takeGroups false room rest
          (g :: more, dotted, rest)

/-- An address of exactly eight groups. -/
def ofGroups? (groups : List UInt16) : Option Ipv6 := if h : groups.length = 8 then some ⟨groups, h⟩ else none

/-- An address at the front of a text, and what follows. Two colons stand for one or more groups of zero. -/
def take? (text : List Char) : Option (Ipv6 × List Char) := do
  let (head, dotted, rest) := takeGroups true 8 text
  if head.length = 8 then return (← ofGroups? head, rest)
  else if dotted then none
  else
    let rest ← dropChar? ':' (← dropChar? ':' rest)
    let (tail, _, rest) := takeGroups true (7 - head.length) rest
    let zeros := List.replicate (8 - head.length - tail.length) 0
    return (← ofGroups? (head ++ zeros ++ tail), rest)

/-- The address that a whole text spells. -/
def parse? (text : List Char) : Option Ipv6 :=
  match take? text with
  | some (a, []) => some a
  | _ => none

/-! ## Text -/

/-- The lengths of the runs of zeros that begin at each group. -/
def zeroRuns : List UInt16 → List Nat
  | [] => []
  | g :: rest =>
    let runs := zeroRuns rest
    (if g = 0 then runs.headD 0 + 1 else 0) :: runs

/-- Where the first of the longest runs of zeros begins, and its length; none if no run has two groups. -/
def longestRun? (groups : List UInt16) : Option (Nat × Nat) :=
  let runs := zeroRuns groups
  let longest := runs.foldl max 0
  if longest < 2 then none else some (runs.findIdx (· == longest), longest)

/-- Groups with colons between them. -/
def joinGroups (groups : List UInt16) : String := ":".intercalate (groups.map fun g => Text.hex g.toNat)

/-- The text of an address: the first of the longest runs of zeros is left out, and the address of four bytes inside a
mapped one is written as such. -/
def render (a : Ipv6) : String :=
  match a.groups with
  | [0, 0, 0, 0, 0, 0xFFFF, high, low] => "::ffff:" ++ (Ipv4.ofNat (high.toNat * 65536 + low.toNat)).render
  | groups =>
    match longestRun? groups with
    | none => joinGroups groups
    | some (start, length) => joinGroups (groups.take start) ++ "::" ++ joinGroups (groups.drop (start + length))

end Ipv6
end MailReconciler
