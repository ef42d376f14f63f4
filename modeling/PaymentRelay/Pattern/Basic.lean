import PaymentRelay.Pattern.CharClass

/-
  Patterns.

  A pattern is a regular expression. Here is its tree, with how deep it nests and whether all of
  its parts can be matched.
-/

namespace PaymentRelay

/-- A regular expression. -/
inductive Pattern where
  | atom (a : Pattern.Atom)
  | oneOf (c : Pattern.CharClass)
  /-- A change of flags, which lasts until the group ends. -/
  | change (c : Pattern.Change)
  /-- A group, within which some flags are changed. -/
  | group (c : Pattern.Change) (inner : Pattern)
  | repeated (inner : Pattern)
  | sequence (parts : List Pattern)
  | choice (branches : List Pattern)

namespace Pattern

/-- Parts one after the other. -/
def ofParts : List Pattern → Pattern
  | [p] => p
  | ps => sequence ps

/-- A choice among branches. -/
def ofBranches : List Pattern → Pattern
  | [p] => p
  | ps => choice ps

mutual

/-- How deep a pattern nests. -/
def depth : Pattern → Nat
  | atom _ | change _ | sequence [] | choice [] => 0
  | oneOf c => c.depth
  | group _ p | repeated p => p.depth + 1
  | sequence (p :: ps) | choice (p :: ps) => max p.depth (depths ps) + 1

/-- How deep the deepest of some patterns nests. -/
def depths : List Pattern → Nat
  | [] => 0
  | p :: ps => max p.depth (depths ps)

end

mutual

/-- The mode after a pattern, if all of its parts can be matched. -/
def modeAfter? (m : Mode) : Pattern → Option Mode
  | atom a => if a.isMatchable m then some m else none
  | oneOf c => if c.isMatchable m then some m else none
  | change c => some (m.after c)
  | group c p => if (p.modeAfter? (m.after c)).isSome then some m else none
  | repeated p => p.modeAfter? m
  | sequence ps | choice ps => modeAfterAll? m ps

/-- The mode after some patterns. -/
def modeAfterAll? (m : Mode) : List Pattern → Option Mode
  | [] => some m
  | p :: ps =>
    match p.modeAfter? m with
    | some m' => modeAfterAll? m' ps
    | none => none

end

/-- How deep a pattern may nest. -/
def depthLimit : Nat := 250

/-- A pattern that nests not too deep and of which all parts can be matched. -/
def isUsable (p : Pattern) : Bool :=
  p.depth ≤ depthLimit && (p.modeAfter? .initial).isSome

end Pattern

end PaymentRelay
