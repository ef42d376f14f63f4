import PaymentRelay.Pattern.Atom

/-
  Classes of characters in patterns.
-/

namespace PaymentRelay.Pattern

/-- A class of characters. -/
inductive CharClass where
  | atom (a : Atom)
  /-- The characters from one to another. -/
  | range (first last : Atom)
  /-- A class of ASCII characters by its name, or all others. -/
  | named (negated : Bool)
  | union (members : List CharClass)
  /-- The characters of both classes, of one but not of the other, or of only one. -/
  | pair (left right : CharClass)
  /-- A class in brackets, or all other characters. -/
  | bracket (negated : Bool) (inner : CharClass)

namespace CharClass

/-- The class of some members. -/
def ofMembers : List CharClass → CharClass
  | [c] => c
  | cs => union cs

mutual

/-- How deep a class nests. -/
def depth : CharClass → Nat
  | atom _ | range _ _ | named _ | union [] => 0
  | union (c :: cs) => max c.depth (depths cs) + 1
  | pair l r => max l.depth r.depth + 1
  | bracket _ c => c.depth + 1

/-- How deep the deepest of some classes nests. -/
def depths : List CharClass → Nat
  | [] => 0
  | c :: cs => max c.depth (depths cs)

end

mutual

/-- The class can be matched. All that is not in a class may be a piece of a character, unless the
mode is wide. -/
def isMatchable (m : Mode) : CharClass → Bool
  | atom a => a.isMember m
  | range (.char c b) (.char d e) =>
    c ≤ d && (Atom.char c b).isMember m && (Atom.char d e).isMember m
  | range _ _ => false
  | named negated => if m.wide then !m.caseless else !negated
  | union cs => areMatchable m cs
  | pair l r => l.isMatchable m && r.isMatchable m
  | bracket negated c => (m.wide || !negated) && c.isMatchable m

/-- All of some classes can be matched. -/
def areMatchable (m : Mode) : List CharClass → Bool
  | [] => true
  | c :: cs => c.isMatchable m && areMatchable m cs

end

end CharClass

end PaymentRelay.Pattern
