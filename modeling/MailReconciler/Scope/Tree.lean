/-
Scopes derived from scopes. Cancelling one cancels all that are derived from it, at once and later; a derived scope
never outlasts its origin.
-/
import MailReconciler.Scope.Basic

namespace MailReconciler

/-- One scope of a tree. -/
structure ScopeNode where
  /-- The scope it is derived from; absent for one that is derived from none. -/
  parent : Option Nat
  deadline : Option Instant
  cancelled : Bool
deriving Repr, DecidableEq

/-- Scopes in the order of their creation, so that each stands behind the one it is derived from, and the present
instant. -/
structure ScopeTree where
  nodes : List ScopeNode
  now : Instant
deriving Repr, DecidableEq

namespace ScopeTree

/-- A tree without scopes, at the start of time. -/
def empty : ScopeTree := ⟨[], 0⟩

/-- Adds a scope that is derived from none and never ends by itself. -/
def addRoot (t : ScopeTree) : ScopeTree := { t with nodes := t.nodes ++ [⟨none, none, false⟩] }

/-- The number that the next scope gets. -/
def next (t : ScopeTree) : Nat := t.nodes.length

/-- Derives a scope, with a deadline of its own or without. A scope derived from a cancelled one is cancelled. -/
def derive (t : ScopeTree) (origin : Nat) (deadline : Option Instant) : ScopeTree :=
  match t.nodes[origin]? with
  | none => t
  | some node =>
    { t with nodes := t.nodes ++ [⟨some origin, Scope.earlier node.deadline deadline, node.cancelled⟩] }

/-- Walks through the scopes in order and cancels those derived from a cancelled one. `seen` holds the marks of the
scopes before. -/
def spread (seen : List Bool) : List ScopeNode → List ScopeNode
  | [] => []
  | node :: rest =>
    let mark := node.cancelled || (node.parent.any fun p => seen[p]?.getD false)
    { node with cancelled := mark } :: spread (seen ++ [mark]) rest

/-- Cancels a scope and all that are derived from it. -/
def cancel (t : ScopeTree) (i : Nat) : ScopeTree :=
  { t with nodes := spread [] (t.nodes.modify i fun node => { node with cancelled := true }) }

/-- Lets time pass. -/
def pass (t : ScopeTree) (nanos : Nat) : ScopeTree := { t with now := t.now + nanos }

/-- The deadline of a scope. -/
def deadline? (t : ScopeTree) (i : Nat) : Option Instant := t.nodes[i]?.bind (·.deadline)

/-- The time left to a scope with a deadline. -/
def remaining? (t : ScopeTree) (i : Nat) : Option Nat := (t.deadline? i).map (· - t.now)

/-- A scope of the tree on its own: cancelled now or never. -/
def scope (t : ScopeTree) (i : Nat) : Scope :=
  match t.nodes[i]? with
  | none => .endless
  | some node => ⟨if node.cancelled then some t.now else none, node.deadline⟩

/-- Why a scope has ended, if it has. -/
def reason? (t : ScopeTree) (i : Nat) : Option EndReason := (t.scope i).reason? t.now

/-- What a wait for the end of a scope finds when it is polled: it looks at the cancellation first, and then, if there
is a deadline, at the alarm that is set to it. -/
def pollEnd (t : ScopeTree) (i : Nat) : Option EndReason :=
  match t.nodes[i]? with
  | none => none
  | some ⟨_, some deadline, cancelled⟩ =>
    if cancelled then some .cancelled else if deadline ≤ t.now then some .deadlinePassed else none
  | some ⟨_, none, cancelled⟩ => if cancelled then some .cancelled else none

/-- Waits for the end of a scope, but not longer than `nanos`. -/
def await (t : ScopeTree) (i : Nat) (nanos : Nat) : ScopeTree × Option EndReason :=
  match t.pollEnd i with
  | some reason => (t, some reason)
  | none =>
    let limit := t.now + nanos
    let wake := match t.deadline? i with
      | none => limit
      | some deadline => min deadline limit
    let t := { t with now := wake }
    (t, t.pollEnd i)

end ScopeTree
end MailReconciler
