/-
  The smallest parts of patterns, and the mode in which they are matched.

  Patterns are matched against the bytes of UTF-8 text, and no tables of Unicode are at hand. A
  part that needs a table, and one that might match a piece of a character, cannot be matched.
-/

namespace PaymentRelay.Pattern

/-- What a pattern can turn on and off. -/
inductive Flag where
  /-- Small and capital letters are the same. -/
  | caseless
  /-- A character is one of Unicode, and not a byte. -/
  | wide
  /-- Blanks and comments between the parts of the pattern do not count. -/
  | spaced
  /-- Where lines end, and which of several matches is preferred. -/
  | other
  deriving DecidableEq, Repr

/-- The flag of a letter. -/
def Flag.ofLetter? (c : Char) : Option Flag :=
  match c with
  | 'i' => some .caseless
  | 'u' => some .wide
  | 'x' => some .spaced
  | 'm' | 's' | 'U' | 'R' => some .other
  | _ => none

/-- The flags that are turned on and those that are turned off. -/
structure Change where
  on : List Flag
  off : List Flag
  deriving DecidableEq, Repr

/-- A change that turns nothing on or off. -/
def Change.none : Change := ⟨[], []⟩

/-- A flag is on after the change. -/
def Change.apply (change : Change) (flag : Flag) (before : Bool) : Bool :=
  change.on.contains flag || before && !change.off.contains flag

/-- How a part of a pattern is matched. -/
structure Mode where
  caseless : Bool
  wide : Bool
  deriving DecidableEq, Repr

namespace Mode

/-- The mode in which a pattern begins. -/
def initial : Mode := ⟨false, true⟩

/-- The mode after a change. -/
def after (m : Mode) (change : Change) : Mode :=
  ⟨change.apply .caseless m.caseless, change.apply .wide m.wide⟩

end Mode

/-- A part of a pattern that has no parts. -/
inductive Atom where
  /-- A character; it may be written as the number of a byte. -/
  | char (c : Char) (byte : Bool)
  /-- The digits, the blanks or the characters of words, or all others. -/
  | kind (negated : Bool)
  /-- The beginning or the end of a line or of the text. -/
  | edge
  /-- The beginning or the end of a word. -/
  | wordEdge
  /-- Any character. -/
  | any
  deriving DecidableEq, Repr

namespace Atom

/-- The atom can be matched. -/
def isMatchable (m : Mode) : Atom → Bool
  | char c byte => if m.wide then !m.caseless else !byte || c.toNat < 128
  | kind negated => !m.wide && !negated
  | edge => true
  | wordEdge => !m.wide
  | any => m.wide

/-- The atom can be matched as a member of a class. -/
def isMember (m : Mode) : Atom → Bool
  | char c _ => if m.wide then !m.caseless else c.toNat < 128
  | kind negated => !m.wide && !negated
  | edge | wordEdge | any => false

theorem isMatchable_of_isMember {m : Mode} {a : Atom} (h : a.isMember m) : a.isMatchable m := by
  cases a with
  | char c byte => simp only [isMember, isMatchable] at h ⊢; split <;> simp_all
  | kind negated => exact h
  | edge | wordEdge | any => simp [isMember] at h

end Atom

end PaymentRelay.Pattern
