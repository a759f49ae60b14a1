/-
What a scope has from its line of descent. A tree keeps a mark and a deadline with each of its scopes; a lineage keeps
only what was asked for: the scope from which each is derived, the deadline given to it, and the scopes that were
cancelled. Whatever is done, the two agree (`fits_play`): a scope is marked if and only if it or one that it is derived
from was cancelled, and its deadline is the least one given on its line.
-/
import MailReconciler.Scope.Tree
import Mathlib.Order.Bounds.Basic

namespace MailReconciler.ScopeTree

/-! ## Histories -/

/-- What can be done to the scopes of a tree. -/
inductive Step where
  | root
  | child (origin : Nat)
  /-- Derives a scope whose time is up after a length of time. -/
  | timeout (origin nanos : Nat)
  | deadline (origin : Nat) (at' : Instant)
  | cancel (i : Nat)
  | pass (nanos : Nat)

/-- A tree after a step. -/
def after (t : ScopeTree) : Step → ScopeTree
  | .root => t.addRoot
  | .child origin => t.derive origin none
  | .timeout origin nanos => t.derive origin (some (t.now + nanos))
  | .deadline origin at' => t.derive origin (some at')
  | .cancel i => t.cancel i
  | .pass nanos => t.pass nanos

/-- The tree that some steps make. -/
def play (steps : List Step) : ScopeTree := steps.foldl after empty

/-- How a scope has come into being. -/
structure Birth where
  origin : Option Nat
  /-- The deadline given to it, whatever that of its origin is. -/
  given : Option Instant

/-- What has been asked for: the births of the scopes in order, the scopes that were cancelled, and the time passed. -/
structure Lineage where
  births : List Birth := []
  cancelled : List Nat := []
  now : Instant := 0

namespace Lineage

/-- Notes the birth of a scope, if its origin is there. -/
def noteDerived (l : Lineage) (origin : Nat) (given : Option Instant) : Lineage :=
  if origin < l.births.length then { l with births := l.births ++ [⟨some origin, given⟩] } else l

/-- Notes that a scope is cancelled, if it is there. -/
def noteCancelled (l : Lineage) (i : Nat) : Lineage :=
  if i < l.births.length then { l with cancelled := i :: l.cancelled } else l

/-- Notes a step. -/
def note (l : Lineage) : Step → Lineage
  | .root => { l with births := l.births ++ [⟨none, none⟩] }
  | .child origin => l.noteDerived origin none
  | .timeout origin nanos => l.noteDerived origin (some (l.now + nanos))
  | .deadline origin at' => l.noteDerived origin (some at')
  | .cancel i => l.noteCancelled i
  | .pass nanos => { l with now := l.now + nanos }

/-- What some steps ask for. -/
def of (steps : List Step) : Lineage := steps.foldl note {}

/-- `l.Above a i`: `a` is the scope `i`, or one from which it is derived at one or more removes. -/
inductive Above (l : Lineage) (a : Nat) : Nat → Prop
  | self (h : a < l.births.length) : Above l a a
  | origin {p i : Nat} {given : Option Instant} (h : l.births[i]? = some ⟨some p, given⟩) (above : Above l a p) :
    Above l a i

/-- The scope or one above it was cancelled. -/
def Cancelled (l : Lineage) (i : Nat) : Prop := ∃ a ∈ l.cancelled, l.Above a i

/-- The deadlines given to the scope and to those above it. -/
def given (l : Lineage) (i : Nat) : Set Instant := {d | ∃ a b, l.Above a i ∧ l.births[a]? = some b ∧ b.given = some d}

/-- Scopes are derived from older ones, and only scopes that are there are cancelled. -/
structure Sound (l : Lineage) : Prop where
  older : ∀ (i p : Nat) (given : Option Instant), l.births[i]? = some ⟨some p, given⟩ → p < i
  known : ∀ a ∈ l.cancelled, a < l.births.length

variable {l : Lineage} {a b i : Nat}

theorem Above.lt (h : l.Above a i) : i < l.births.length := by
  cases h with
  | self h => exact h
  | origin h _ => exact (List.getElem?_eq_some_iff.1 h).1

theorem Above.left_lt (h : l.Above a i) : a < l.births.length := by
  induction h with
  | self h => exact h
  | origin _ _ ih => exact ih

theorem Above.trans (h : l.Above a b) (h' : l.Above b i) : l.Above a i := by
  induction h' with
  | self _ => exact h
  | origin hbirth _ ih => exact .origin hbirth ih

theorem above_congr {l' : Lineage} (h : l'.births = l.births) : l'.Above a i ↔ l.Above a i := by
  have hmono : ∀ {l l' : Lineage}, l'.births = l.births → l'.Above a i → l.Above a i := by
    intro l l' h habove
    induction habove with
    | self hlt => exact .self (h ▸ hlt)
    | origin hbirth _ ih => exact .origin (h ▸ hbirth) ih
  exact ⟨hmono h, hmono h.symm⟩

theorem given_congr {l' : Lineage} (h : l'.births = l.births) : l'.given i = l.given i := by
  simp only [given, above_congr h, h]

theorem births_noteCancelled (l : Lineage) (k : Nat) : (l.noteCancelled k).births = l.births := by
  unfold noteCancelled
  split <;> rfl

theorem now_noteCancelled (l : Lineage) (k : Nat) : (l.noteCancelled k).now = l.now := by
  unfold noteCancelled
  split <;> rfl

/-- Cancelling a scope cancels what stands below it. -/
theorem cancelled_noteCancelled_iff {k : Nat} : (l.noteCancelled k).Cancelled i ↔ l.Above k i ∨ l.Cancelled i := by
  unfold noteCancelled
  by_cases hk : k < l.births.length
  · have habove : ∀ {a}, Above { l with cancelled := k :: l.cancelled } a i ↔ l.Above a i := above_congr rfl
    rw [if_pos hk]
    simp only [Cancelled, List.mem_cons, exists_eq_or_imp, habove]
  · rw [if_neg hk]
    exact ⟨.inr, fun h => h.resolve_left fun habove => hk habove.left_lt⟩

/-! ### Births -/

/-- A lineage with a scope more. -/
abbrev born (l : Lineage) (birth : Birth) : Lineage := { l with births := l.births ++ [birth] }

variable {birth : Birth}

theorem getElem?_born_of_lt (h : i < l.births.length) : (l.born birth).births[i]? = l.births[i]? :=
  List.getElem?_append_left h

theorem getElem?_born_length : (l.born birth).births[l.births.length]? = some birth := List.getElem?_concat_length ..

theorem Above.born (h : l.Above a i) : (l.born birth).Above a i := by
  induction h with
  | self h => exact .self (h.trans (by simp))
  | origin h _ ih =>
    have hlt := (List.getElem?_eq_some_iff.1 h).1
    exact .origin ((getElem?_born_of_lt hlt).trans h) ih

theorem above_born_iff (hl : l.Sound) (hi : i < l.births.length) : (l.born birth).Above a i ↔ l.Above a i := by
  refine ⟨fun h => ?_, Above.born⟩
  induction h with
  | self _ => exact .self hi
  | @origin p i given h _ ih =>
    rw [getElem?_born_of_lt hi] at h
    exact .origin h (ih ((hl.older i p given h).trans hi))

/-- Above a new scope stand itself and what stands above its origin. -/
theorem above_born_length_iff (hl : l.Sound) (horigin : ∀ p, birth.origin = some p → p < l.births.length) :
    (l.born birth).Above a l.births.length ↔
      a = l.births.length ∨ ∃ p, birth.origin = some p ∧ l.Above a p := by
  constructor
  · intro h
    cases h with
    | self _ => exact .inl rfl
    | @origin p _ given h above =>
      obtain rfl := Option.some.inj (getElem?_born_length.symm.trans h)
      exact .inr ⟨p, rfl, (above_born_iff hl (horigin p rfl)).1 above⟩
  · rintro (rfl | ⟨p, hp, above⟩)
    · exact .self (by simp)
    · obtain ⟨origin, given⟩ := birth
      obtain rfl : origin = some p := hp
      exact .origin getElem?_born_length above.born

theorem cancelled_born_iff (hl : l.Sound) (hi : i < l.births.length) :
    (l.born birth).Cancelled i ↔ l.Cancelled i := by
  simp only [Cancelled, above_born_iff hl hi]

theorem cancelled_born_length_iff (hl : l.Sound) (horigin : ∀ p, birth.origin = some p → p < l.births.length) :
    (l.born birth).Cancelled l.births.length ↔ ∃ p, birth.origin = some p ∧ l.Cancelled p := by
  simp only [Cancelled, above_born_length_iff hl horigin]
  constructor
  · rintro ⟨a, ha, rfl | ⟨p, hp, above⟩⟩
    · exact absurd (hl.known _ ha) (Nat.lt_irrefl _)
    · exact ⟨p, hp, a, ha, above⟩
  · rintro ⟨p, hp, a, ha, above⟩
    exact ⟨a, ha, .inr ⟨p, hp, above⟩⟩

theorem given_born (hl : l.Sound) (hi : i < l.births.length) : (l.born birth).given i = l.given i := by
  have hbirth : ∀ {a}, l.Above a i → (l.born birth).births[a]? = l.births[a]? := by
    intro a h
    induction h with
    | self h => exact getElem?_born_of_lt h
    | origin _ above ih => exact ih above.lt
  ext d
  constructor
  · rintro ⟨a, b, above, hb, hd⟩
    rw [above_born_iff hl hi] at above
    exact ⟨a, b, above, (hbirth above).symm.trans hb, hd⟩
  · rintro ⟨a, b, above, hb, hd⟩
    exact ⟨a, b, above.born, (hbirth above).trans hb, hd⟩

theorem given_born_length (hl : l.Sound) (horigin : ∀ p, birth.origin = some p → p < l.births.length) :
    (l.born birth).given l.births.length =
      {d | ∃ p, birth.origin = some p ∧ d ∈ l.given p} ∪ {d | birth.given = some d} := by
  ext d
  constructor
  · rintro ⟨a, b, above, hb, hd⟩
    rcases (above_born_length_iff hl horigin).1 above with rfl | ⟨p, hp, above⟩
    · obtain rfl := Option.some.inj (getElem?_born_length.symm.trans hb)
      exact .inr hd
    · have hmem : d ∈ (l.born birth).given p := ⟨a, b, above.born, hb, hd⟩
      rw [given_born hl (horigin p hp)] at hmem
      exact .inl ⟨p, hp, hmem⟩
  · rintro (⟨p, hp, hmem⟩ | hd)
    · rw [← given_born hl (horigin p hp)] at hmem
      obtain ⟨a, b, above, hb, hd⟩ := hmem
      rw [above_born_iff hl (horigin p hp)] at above
      exact ⟨a, b, (above_born_length_iff hl horigin).2 (.inr ⟨p, hp, above⟩), hb, hd⟩
    · exact ⟨_, birth, (above_born_length_iff hl horigin).2 (.inl rfl), getElem?_born_length, hd⟩

theorem Sound.born (hl : l.Sound) (horigin : ∀ p, birth.origin = some p → p < l.births.length) :
    (l.born birth).Sound where
  older i p given h := by
    have hi : i < l.births.length + 1 := by simpa using (List.getElem?_eq_some_iff.1 h).1
    rcases Nat.lt_succ_iff_lt_or_eq.1 hi with hlt | rfl
    · exact hl.older i p given ((getElem?_born_of_lt hlt).symm.trans h)
    · rw [getElem?_born_length] at h
      cases h
      exact horigin p rfl
  known a ha := (hl.known a ha).trans (by simp)

end Lineage

/-! ## Marks -/

/-- A scope keeps its mark, or takes over that of the scope it is derived from, if that stands before it. -/
theorem getElem?_spread (seen : List Bool) (nodes : List ScopeNode) (i : Nat) :
    (spread seen nodes)[i]? = nodes[i]?.map fun node =>
      { node with
        cancelled := node.cancelled || node.parent.any fun p =>
          ((seen ++ (spread seen nodes).map (·.cancelled)).take (seen.length + i))[p]?.getD false } := by
  induction nodes generalizing seen i with
  | nil => rfl
  | cons node rest ih =>
    cases i with
    | zero => simp [spread]
    | succ i =>
      have hrest := ih (seen ++ [node.cancelled || node.parent.any fun p => seen[p]?.getD false]) i
      simp only [List.append_assoc, List.singleton_append, List.length_append, List.length_singleton,
        Nat.add_assoc, Nat.add_comm 1 i] at hrest
      exact hrest

open Lineage

variable {l : Lineage} {t : ScopeTree} {nodes : List ScopeNode} {node : ScopeNode} {i : Nat}

/-- Scopes have the parents that a lineage says. -/
def Descend (l : Lineage) (nodes : List ScopeNode) : Prop := nodes.map (·.parent) = l.births.map (·.origin)

theorem Descend.length_eq (h : Descend l nodes) : nodes.length = l.births.length := by
  simpa using congrArg List.length h

theorem Descend.exists_birth (h : Descend l nodes) (hi : nodes[i]? = some node) :
    ∃ given, l.births[i]? = some ⟨node.parent, given⟩ := by
  have hparent := congrArg (·[i]?) h
  simp only [List.getElem?_map, hi, Option.map_some] at hparent
  obtain ⟨⟨origin, given⟩, hb, heq⟩ := Option.map_eq_some_iff.1 hparent.symm
  obtain rfl : origin = node.parent := heq
  exact ⟨given, hb⟩

theorem Descend.exists_node (h : Descend l nodes) (hi : i < l.births.length) : ∃ node, nodes[i]? = some node := by
  rw [← h.length_eq] at hi
  exact ⟨nodes[i], List.getElem?_eq_getElem hi⟩

theorem Descend.spread (h : Descend l nodes) : Descend l (spread [] nodes) := by
  refine Eq.trans (List.ext_getElem? fun i => ?_) h
  simp only [List.getElem?_map, getElem?_spread [] nodes i, Option.map_map]
  rfl

/-- Some scope in line with another is marked. -/
def MarkedAbove (l : Lineage) (nodes : List ScopeNode) (i : Nat) : Prop :=
  ∃ a node, l.Above a i ∧ nodes[a]? = some node ∧ node.cancelled = true

/-- The marks reach exactly the scopes below a marked one. -/
theorem cancelled_spread_iff (hl : l.Sound) (h : Descend l nodes) (i : Nat) : ∀ node,
    (ScopeTree.spread [] nodes)[i]? = some node → (node.cancelled = true ↔ MarkedAbove l nodes i) := by
  induction i using Nat.strongRecOn with
  | ind i ih =>
    intro node hi
    rw [getElem?_spread] at hi
    obtain ⟨old, hold, rfl⟩ := Option.map_eq_some_iff.1 hi
    obtain ⟨given, hbirth⟩ := h.exists_birth hold
    simp only [Bool.or_eq_true, List.nil_append, List.length_nil, Nat.zero_add]
    -- the mark of the origin has been settled before
    have horigin : ∀ p, old.parent = some p →
        ((((ScopeTree.spread [] nodes).map (·.cancelled)).take i)[p]?.getD false = true ↔ MarkedAbove l nodes p) := by
      intro p hp
      rw [hp] at hbirth
      have hlt := hl.older i p given hbirth
      obtain ⟨node, hnode⟩ := h.spread.exists_node (hlt.trans (List.getElem?_eq_some_iff.1 hbirth).1)
      rw [List.getElem?_take_of_lt hlt, List.getElem?_map, hnode]
      exact ih p hlt node hnode
    constructor
    · rintro (hmark | hmark)
      · exact ⟨i, old, .self (List.getElem?_eq_some_iff.1 hbirth).1, hold, hmark⟩
      · cases hp : old.parent with
        | none =>
          rw [hp] at hmark
          cases hmark
        | some p =>
          rw [hp] at hmark hbirth
          obtain ⟨a, node, above, hnode⟩ := (horigin p hp).1 hmark
          exact ⟨a, node, .origin hbirth above, hnode⟩
    · rintro ⟨a, node, above, hnode, hmark⟩
      cases above with
      | self _ =>
        obtain rfl := Option.some.inj (hold.symm.trans hnode)
        exact .inl hmark
      | @origin p _ _ hp above =>
        rw [hbirth] at hp
        have hparent : old.parent = some p := congrArg Birth.origin (Option.some.inj hp)
        refine .inr ?_
        rw [hparent]
        exact (horigin p hparent).2 ⟨a, node, above, hnode, hmark⟩

/-! ## Trees -/

/-- The earliest of some instants; absent if there are none. -/
def LeastOf (s : Set Instant) : Option Instant → Prop
  | none => s = ∅
  | some d => IsLeast s d

theorem leastOf_earlier {s s' : Set Instant} : ∀ {a b : Option Instant}, LeastOf s a → LeastOf s' b →
    LeastOf (s ∪ s') (Scope.earlier a b)
  | none, b, ha, hb => by
    obtain rfl : s = ∅ := ha
    rw [Set.empty_union]
    exact hb
  | some a, none, ha, hb => by
    obtain rfl : s' = ∅ := hb
    rw [Set.union_empty]
    exact ha
  | some a, some b, ha, hb => IsLeast.union ha hb

theorem leastOf_given (given : Option Instant) : LeastOf {d | given = some d} given := by
  cases given with
  | none => exact Set.eq_empty_of_forall_notMem fun d h => by cases h
  | some d => exact ⟨rfl, fun d' h => Nat.le_of_eq (Option.some.inj h)⟩

theorem LeastOf.eq_some_iff {s : Set Instant} {d : Instant} : ∀ {o : Option Instant}, LeastOf s o →
    (o = some d ↔ IsLeast s d)
  | none, h => by
    obtain rfl : s = ∅ := h
    exact ⟨fun h => (Option.some_ne_none d h.symm).elim, fun h => h.1.elim⟩
  | some d', h => by
    rw [Option.some.injEq]
    exact ⟨fun heq => heq ▸ h, IsLeast.unique h⟩

theorem LeastOf.exists_le {s : Set Instant} {d : Instant} (hd : d ∈ s) : ∀ {o : Option Instant}, LeastOf s o →
    ∃ d', o = some d' ∧ d' ≤ d
  | none, h => by
    obtain rfl : s = ∅ := h
    exact hd.elim
  | some d', h => ⟨d', rfl, And.right h hd⟩

/-- A tree and what has been asked for agree. -/
structure Fits (l : Lineage) (t : ScopeTree) : Prop where
  now : t.now = l.now
  descend : Descend l t.nodes
  marked : ∀ i node, t.nodes[i]? = some node → (node.cancelled = true ↔ l.Cancelled i)
  deadline : ∀ i node, t.nodes[i]? = some node → LeastOf (l.given i) node.deadline

/-- A new scope that has the mark and the deadline of its origin and the deadline given to it. -/
theorem Fits.born {birth : Birth} (h : Fits l t) (hl : l.Sound)
    (horigin : ∀ p, birth.origin = some p → p < l.births.length) (hparent : node.parent = birth.origin)
    (hmark : node.cancelled = true ↔ ∃ p, birth.origin = some p ∧ l.Cancelled p)
    (hdeadline :
      LeastOf ({d | ∃ p, birth.origin = some p ∧ d ∈ l.given p} ∪ {d | birth.given = some d}) node.deadline) :
    Fits (l.born birth) { t with nodes := t.nodes ++ [node] } := by
  have hlength := h.descend.length_eq
  -- a scope is the new one, or one that was there before
  have hcases : ∀ {i n}, (t.nodes ++ [node])[i]? = some n →
      (i < l.births.length ∧ t.nodes[i]? = some n) ∨ (i = l.births.length ∧ n = node) := by
    intro i n hi
    have hle : i < t.nodes.length + 1 := by simpa using (List.getElem?_eq_some_iff.1 hi).1
    rcases Nat.lt_succ_iff_lt_or_eq.1 hle with hlt | rfl
    · exact .inl ⟨hlength ▸ hlt, (List.getElem?_append_left hlt).symm.trans hi⟩
    · rw [List.getElem?_concat_length] at hi
      exact .inr ⟨hlength, (Option.some.inj hi).symm⟩
  refine ⟨h.now, ?_, ?_, ?_⟩
  · simp only [Descend, List.map_append, List.map_cons, List.map_nil, hparent]
    rw [show t.nodes.map (·.parent) = l.births.map (·.origin) from h.descend]
  · intro i n hi
    rcases hcases hi with ⟨hlt, hi⟩ | ⟨rfl, rfl⟩
    · rw [cancelled_born_iff hl hlt]
      exact h.marked i n hi
    · rw [cancelled_born_length_iff hl horigin]
      exact hmark
  · intro i n hi
    rcases hcases hi with ⟨hlt, hi⟩ | ⟨rfl, rfl⟩
    · rw [given_born hl hlt]
      exact h.deadline i n hi
    · rw [given_born_length hl horigin]
      exact hdeadline

theorem Fits.root (h : Fits l t) (hl : l.Sound) : Fits (l.note .root) t.addRoot := by
  refine h.born hl (fun p hp => by cases hp) rfl ?_ ?_
  · constructor
    · intro hmark
      cases hmark
    · rintro ⟨p, hp, -⟩
      cases hp
  · refine Set.eq_empty_of_forall_notMem ?_
    rintro d (⟨p, hp, -⟩ | hd)
    · cases hp
    · cases hd

theorem Fits.derived (h : Fits l t) (hl : l.Sound) (origin : Nat) (given : Option Instant) :
    Fits (l.noteDerived origin given) (t.derive origin given) := by
  unfold noteDerived derive
  by_cases horigin : origin < l.births.length
  · obtain ⟨node, hnode⟩ := h.descend.exists_node horigin
    rw [if_pos horigin, hnode]
    have hone : ∀ {P : Nat → Prop}, P origin ↔ ∃ p, some origin = some p ∧ P p := by simp
    refine h.born hl (fun p hp => Option.some.inj hp ▸ horigin) rfl ?_ ?_
    · exact (h.marked origin node hnode).trans hone
    · have hgiven : {d | ∃ p, some origin = some p ∧ d ∈ l.given p} = l.given origin := by
        ext d
        exact hone.symm
      rw [hgiven]
      exact leastOf_earlier (h.deadline origin node hnode) (leastOf_given given)
  · have hnone : t.nodes[origin]? = none :=
      List.getElem?_eq_none (h.descend.length_eq.trans_le (Nat.le_of_not_lt horigin))
    rw [if_neg horigin, hnone]
    exact h

theorem Fits.cancel (h : Fits l t) (hl : l.Sound) (k : Nat) : Fits (l.noteCancelled k) (t.cancel k) := by
  have hdescend : Descend l (t.nodes.modify k fun node => { node with cancelled := true }) := by
    refine Eq.trans (List.ext_getElem? fun i => ?_) h.descend
    simp only [List.getElem?_map, List.getElem?_modify]
    cases t.nodes[i]? with
    | none => rfl
    | some node => by_cases hk : k = i <;> simp [hk]
  have hmodified : ∀ {a node}, (t.nodes.modify k fun node => { node with cancelled := true })[a]? = some node →
      ∃ old, t.nodes[a]? = some old ∧ node.deadline = old.deadline ∧
        (node.cancelled = true ↔ k = a ∨ old.cancelled = true) := by
    intro a node hnode
    rw [List.getElem?_modify] at hnode
    obtain ⟨old, hold, rfl⟩ := Option.map_eq_some_iff.1 hnode
    refine ⟨old, hold, ?_⟩
    by_cases hka : k = a
    · simp [hka]
    · simp [hka]
  refine ⟨h.now.trans (now_noteCancelled l k).symm, ?_, ?_, ?_⟩
  · rw [Descend, births_noteCancelled]
    exact hdescend.spread
  · intro i node hi
    rw [cancelled_spread_iff hl hdescend i node hi, cancelled_noteCancelled_iff]
    constructor
    · rintro ⟨a, node, above, hnode, hmark⟩
      obtain ⟨old, hold, -, hiff⟩ := hmodified hnode
      rcases hiff.1 hmark with rfl | hmark
      · exact .inl above
      · obtain ⟨c, hc, above'⟩ := (h.marked a old hold).1 hmark
        exact .inr ⟨c, hc, above'.trans above⟩
    · intro hcancelled
      obtain ⟨a, above, hmark⟩ : ∃ a, l.Above a i ∧ (k = a ∨ l.Cancelled a) := by
        rcases hcancelled with above | ⟨a, ha, above⟩
        · exact ⟨k, above, .inl rfl⟩
        · exact ⟨a, above, .inr ⟨a, ha, .self above.left_lt⟩⟩
      obtain ⟨node, hnode⟩ := hdescend.exists_node above.left_lt
      obtain ⟨old, hold, -, hiff⟩ := hmodified hnode
      exact ⟨a, node, above, hnode, hiff.2 (hmark.imp_right (h.marked a old hold).2)⟩
  · intro i node hi
    obtain ⟨before, hbefore, rfl⟩ := Option.map_eq_some_iff.1 ((getElem?_spread _ _ i).symm.trans hi)
    obtain ⟨old, hold, hdeadline, -⟩ := hmodified hbefore
    rw [given_congr (births_noteCancelled l k), hdeadline]
    exact h.deadline i old hold

theorem Fits.pass (h : Fits l t) (nanos : Nat) : Fits { l with now := l.now + nanos } (t.pass nanos) where
  now := congrArg (· + nanos) h.now
  descend := h.descend
  marked i node hi := by
    have habove : ∀ {a}, Above { l with now := l.now + nanos } a i ↔ l.Above a i := above_congr rfl
    simp only [Cancelled, habove]
    exact h.marked i node hi
  deadline i node hi := by
    rw [show given { l with now := l.now + nanos } i = l.given i from given_congr rfl]
    exact h.deadline i node hi

theorem Fits.after (h : Fits l t) (hl : l.Sound) : ∀ step : Step, Fits (l.note step) (t.after step)
  | .root => h.root hl
  | .child origin => h.derived hl origin none
  | .timeout origin nanos => by
    rw [note, ← h.now]
    exact h.derived hl origin (some (t.now + nanos))
  | .deadline origin at' => h.derived hl origin (some at')
  | .cancel k => h.cancel hl k
  | .pass nanos => h.pass nanos

namespace Lineage

theorem Sound.noteDerived (hl : l.Sound) (origin : Nat) (given : Option Instant) :
    (l.noteDerived origin given).Sound := by
  unfold Lineage.noteDerived
  split
  · next horigin =>
    refine hl.born ?_
    intro p hp
    cases hp
    exact horigin
  · exact hl

theorem Sound.noteCancelled (hl : l.Sound) (k : Nat) : (l.noteCancelled k).Sound := by
  unfold Lineage.noteCancelled
  split
  · next hk => exact ⟨hl.older, List.forall_mem_cons.2 ⟨hk, hl.known⟩⟩
  · exact hl

theorem Sound.note (hl : l.Sound) : ∀ step : Step, (l.note step).Sound
  | .root => hl.born fun p hp => by cases hp
  | .child origin => hl.noteDerived origin none
  | .timeout origin nanos => hl.noteDerived origin (some (l.now + nanos))
  | .deadline origin at' => hl.noteDerived origin (some at')
  | .cancel k => hl.noteCancelled k
  | .pass _ => ⟨hl.older, hl.known⟩

end Lineage

/-- A tree and what has been asked for agree at the beginning, and after every step. -/
theorem fits_play (steps : List Step) : (Lineage.of steps).Sound ∧ Fits (Lineage.of steps) (play steps) := by
  have hrun : ∀ (steps : List Step) (l : Lineage) (t : ScopeTree), l.Sound ∧ Fits l t →
      (steps.foldl note l).Sound ∧ Fits (steps.foldl note l) (steps.foldl ScopeTree.after t) := by
    intro steps
    induction steps with
    | nil => exact fun l t h => h
    | cons step rest ih => exact fun l t h => ih _ _ ⟨h.1.note step, h.2.after h.1 step⟩
  refine hrun steps {} empty ⟨⟨fun i p given h => ?_, fun a ha => ?_⟩, rfl, rfl, fun i node h => ?_, fun i node h => ?_⟩
  · cases h
  · cases ha
  · cases h
  · cases h

end MailReconciler.ScopeTree
