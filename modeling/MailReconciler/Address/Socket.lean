/-
Where a server listens: an internet address and a port.
-/
import MailReconciler.Address.Internet

namespace MailReconciler

/-- An internet address and a port. -/
inductive SocketAddress where
  | v4 (address : Ipv4) (port : UInt16)
  /-- The scope of an address tells links apart; zero is none. -/
  | v6 (address : Ipv6) (scope : UInt32) (port : UInt16)
deriving DecidableEq

namespace SocketAddress

/-- A decimal number below a bound, and what follows. -/
def numberBelow? (bound : Nat) (text : List Char) : Option (Nat × List Char) :=
  (takeNumber? 10 text).bind fun (_, n, rest) => if n < bound then some (n, rest) else none

/-- The port that ends a text, behind a colon. -/
def port? (text : List Char) : Option UInt16 := do
  match ← numberBelow? UInt16.size (← dropChar? ':' text) with
  | (n, []) => some (UInt16.ofNat n)
  | _ => none

/-- The scope at the front of a text, behind a percent sign; zero without one. -/
def scope? : List Char → Option (UInt32 × List Char)
  | '%' :: rest => (numberBelow? UInt32.size rest).map fun (n, rest) => (UInt32.ofNat n, rest)
  | text => some (0, text)

/-- The socket address that a text spells. -/
def parse? (text : String) : Option SocketAddress :=
  match text.toList with
  | '[' :: rest => do
    let (address, rest) ← Ipv6.take? rest
    let (scope, rest) ← scope? rest
    return .v6 address scope (← port? (← dropChar? ']' rest))
  | rest => do
    let (address, rest) ← Ipv4.take? rest
    return .v4 address (← port? rest)

/-- The text of a socket address. -/
def render : SocketAddress → String
  | .v4 address port => address.render ++ ":" ++ toString port.toNat
  | .v6 address scope port =>
    "[" ++ address.render ++ (if scope = 0 then "" else "%" ++ toString scope.toNat) ++ "]:" ++ toString port.toNat

end SocketAddress
end MailReconciler
