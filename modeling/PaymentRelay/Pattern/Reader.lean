import PaymentRelay.Pattern.Basic
import PaymentRelay.Text.Blank
import PaymentRelay.Text.Digit
import PaymentRelay.Text.Letter

/-
  Reading patterns.

  Counted repetitions are not read: the braces of a field end at the first closing brace, so no
  count could be complete. For the same reason no character is named by a number in braces.
-/

namespace PaymentRelay.Pattern

/-- The text after its blanks and comments; a comment goes on to the end of its line. The flag
says that the text begins within a comment. -/
def skipNotes : Bool → List Char → List Char
  | _, [] => []
  | true, c :: rest => skipNotes (c != '\n') rest
  | false, c :: rest =>
    if isBlank c then skipNotes false rest
    else if c = '#' then skipNotes true rest
    else c :: rest

/-- The text from the next character on that counts. -/
def skip (spaced : Bool) (cs : List Char) : List Char :=
  if spaced then skipNotes false cs else cs

/-- The character behind a hyphen by which a range is told from a hyphen that stands for itself.
Where blanks do not count, neither does one number sign. -/
def ahead? (spaced : Bool) (cs : List Char) : Option Char :=
  if spaced then
    match skipBlanks cs with
    | '#' :: rest => (skipBlanks rest).head?
    | rest => rest.head?
  else cs.head?

/-! Escapes. -/

/-- Continues a number by some hexadecimal digits. -/
def hexNumber? (spaced : Bool) (n : Nat) : Nat → List Char → Option (Nat × List Char)
  | 0, cs => some (n, cs)
  | digits + 1, cs =>
    match skip spaced cs with
    | [] => none
    | c :: rest => (digitValue? 16 c).bind fun d => hexNumber? spaced (n * 16 + d) digits rest

/-- A character by its number. -/
def numbered? (spaced : Bool) (digits : Nat) (cs : List Char) : Option (Atom × List Char) := do
  let (n, rest) ← hexNumber? spaced 0 digits cs
  if n < 0xD800 ∨ 0xDFFF < n ∧ n < 0x110000 then
    some (.char (Char.ofNat n) (digits = 2), rest)
  else none

/-- What one letter stands for after a backslash. -/
def lettered? (c : Char) : Option Atom :=
  match c with
  | 'a' => some (.char '\x07' false)
  | 'f' => some (.char '\x0C' false)
  | 't' => some (.char '\t' false)
  | 'n' => some (.char '\n' false)
  | 'r' => some (.char '\r' false)
  | 'v' => some (.char '\x0B' false)
  | 'd' | 's' | 'w' => some (.kind false)
  | 'D' | 'S' | 'W' => some (.kind true)
  | 'A' | 'z' => some .edge
  | 'b' | 'B' | '<' | '>' => some .wordEdge
  | _ => if c.toNat < 128 && !c.isAlphanum then some (.char c false) else none

/-- Reads what stands after a backslash. -/
def escape? (spaced : Bool) : List Char → Option (Atom × List Char)
  | 'x' :: rest => numbered? spaced 2 rest
  | 'u' :: rest => numbered? spaced 4 rest
  | 'U' :: rest => numbered? spaced 8 rest
  | c :: rest => (lettered? c).map fun a => (a, rest)
  | [] => none

/-! Classes. -/

/-- The names of the classes of ASCII characters. -/
def classNames : List String :=
  ["alnum", "alpha", "ascii", "blank", "cntrl", "digit", "graph", "lower", "print", "punct",
    "space", "upper", "word", "xdigit"]

/-- Reads a mark of negation, if there is one. -/
def negation : List Char → Bool × List Char
  | '^' :: rest => (true, rest)
  | cs => (false, cs)

/-- Reads a class that is given by its name, after the bracket. -/
def named? : List Char → Option (CharClass × List Char)
  | ':' :: rest =>
    let (negated, rest) := negation rest
    match rest.dropWhile (· ≠ ':') with
    | ':' :: ']' :: after =>
      if classNames.contains (String.ofList (rest.takeWhile (· ≠ ':'))) then
        some (.named negated, after)
      else none
    | _ => none
  | _ => none

/-- Reads an end of a range. -/
def end? (spaced : Bool) : List Char → Option (Atom × List Char)
  | '\\' :: rest => escape? spaced rest
  | c :: rest => some (.char c false, rest)
  | [] => none

/-- Reads a character or a range. -/
def member? (spaced : Bool) (cs : List Char) : Option (CharClass × List Char) := do
  let (first, rest) ← end? spaced cs
  match skip spaced rest with
  | '-' :: rest =>
    if ahead? spaced rest = some ']' ∨ ahead? spaced rest = some '-' then
      some (.atom first, '-' :: rest)
    else
      let (last, rest) ← end? spaced (skip spaced rest)
      some (.range first last, rest)
  | rest => some (.atom first, rest)

/-- The class of what is read so far: the operand before an operator, and the members after it,
latest first. -/
def gathered (left : Option CharClass) (members : List CharClass) : CharClass :=
  let right := CharClass.ofMembers members.reverse
  match left with
  | none => right
  | some left => .pair left right

/-- Reads the members of a class and the bracket that ends it. Only hyphens have been read if the
class is `fresh`; they stand for themselves, as does a bracket that comes first. -/
def members? (spaced : Bool) :
    Nat → Bool → Option CharClass → List CharClass → List Char → Option (CharClass × List Char)
  | 0, _, _, _, _ => none
  | fuel + 1, fresh, left, members, cs =>
    match skip spaced cs with
    | [] => none
    | c :: rest =>
      if fresh ∧ (c = '-' ∨ c = ']' ∧ members.isEmpty) then
        members? spaced fuel (c = '-') left (.atom (.char c false) :: members) rest
      else if c = ']' then some (gathered left members, rest)
      else if c = '[' then
        match named? rest with
        | some (inner, rest) => members? spaced fuel false left (inner :: members) rest
        | none =>
          let (negated, rest) := negation (skip spaced rest)
          match members? spaced fuel true none [] rest with
          | some (inner, rest) =>
            members? spaced fuel false left (.bracket negated inner :: members) rest
          | none => none
      else if (c = '&' ∨ c = '-' ∨ c = '~') ∧ rest.head? = some c then
        members? spaced fuel false (some (gathered left members)) [] (rest.drop 1)
      else
        match member? spaced (c :: rest) with
        | some (m, rest) => members? spaced fuel false left (m :: members) rest
        | none => none

/-- Reads a class, after the bracket. -/
def class? (spaced : Bool) (cs : List Char) : Option (CharClass × List Char) :=
  let (negated, rest) := negation (skip spaced cs)
  (members? spaced (rest.length + 1) true none [] rest).map fun (inner, rest) =>
    (.bracket negated inner, rest)

/-! Groups. -/

/-- No element occurs twice. -/
def areDistinct : List Char → Bool
  | [] => true
  | c :: rest => !rest.contains c && areDistinct rest

/-- A word of flags: those to turn on, and after a hyphen those to turn off. -/
def change? (word : List Char) : Option Change := do
  if areDistinct word = false ∨ word.getLast? = some '-' then none
  let on ← (word.takeWhile (· ≠ '-')).mapM Flag.ofLetter?
  let off ← ((word.dropWhile (· ≠ '-')).drop 1).mapM Flag.ofLetter?
  some ⟨on, off⟩

/-- A name of a group. -/
def isName : List Char → Bool
  | [] => false
  | c :: rest => (c = '_' || isLetter c) && rest.all fun c => isAlphanumeric c || "_.[]".contains c

/-- What an opening bracket begins. -/
inductive Opening where
  | group (change : Change) (name : Option (List Char))
  /-- No group, but flags for the rest of the one it stands in. -/
  | change (change : Change)

/-- Reads the flags of a group, after the question mark. -/
def flagged? (cs : List Char) : Option (Opening × List Char) := do
  let word := cs.takeWhile fun c => c ≠ ':' ∧ c ≠ ')'
  let change ← change? word
  match cs.drop word.length with
  | ':' :: rest => some (.group change none, rest)
  | ')' :: rest => if word.isEmpty then none else some (.change change, rest)
  | _ => none

/-- Reads the name of a group, after the angle bracket. -/
def nameOf? (cs : List Char) : Option (Opening × List Char) :=
  let name := cs.takeWhile (· ≠ '>')
  match cs.drop name.length with
  | [] => none
  | _ :: rest => if isName name then some (.group .none (some name), rest) else none

/-- Reads what a round bracket begins, after the bracket. -/
def opening? : List Char → Option (Opening × List Char)
  | '?' :: 'P' :: '<' :: rest | '?' :: '<' :: rest => nameOf? rest
  | '?' :: rest => flagged? rest
  | rest => some (.group .none none, rest)

/-! The pattern as a whole. -/

/-- A group that is open, with the branches and parts that stand before it, latest first. -/
structure Open where
  change : Change
  spaced : Bool
  branches : List Pattern
  parts : List Pattern

/-- What a reader has read. -/
structure Reading where
  spaced : Bool
  /-- The names of groups. -/
  names : List (List Char)
  /-- The open groups, the innermost first. -/
  opens : List Open
  /-- The branches of the innermost group that are complete, latest first. -/
  branches : List Pattern
  /-- The parts of the branch that is being read, latest first. -/
  parts : List Pattern

namespace Reading

def empty : Reading := ⟨false, [], [], [], []⟩

/-- What the innermost group holds. -/
def inner (s : Reading) : Pattern :=
  ofBranches (ofParts s.parts.reverse :: s.branches).reverse

/-- One more part. -/
def add (s : Reading) (p : Pattern) : Reading := { s with parts := p :: s.parts }

/-- Opens a group or changes flags. A name is used only once. -/
def begin? (s : Reading) : Opening → Option Reading
  | .change c => some ({ s with spaced := c.apply .spaced s.spaced }.add (.change c))
  | .group c name =>
    if name.any s.names.contains then none
    else some ⟨c.apply .spaced s.spaced, name.toList ++ s.names,
      ⟨c, s.spaced, s.branches, s.parts⟩ :: s.opens, [], []⟩

/-- Closes the innermost group. -/
def close? (s : Reading) : Option Reading :=
  match s.opens with
  | [] => none
  | o :: opens => some ⟨o.spaced, s.names, opens, o.branches, .group o.change s.inner :: o.parts⟩

/-- Repeats the last part, which must match something. -/
def repeat? (s : Reading) : Option Reading :=
  match s.parts with
  | [] | .change _ :: _ => none
  | p :: parts => some { s with parts := .repeated p :: parts }

/-- Reads on, at a character that counts. -/
def step? (s : Reading) (c : Char) (rest : List Char) : Option (Reading × List Char) :=
  match c with
  | '(' => do
    let (opening, rest) ← opening? (skip s.spaced rest)
    let s ← s.begin? opening
    some (s, rest)
  | ')' => s.close?.map fun s => (s, rest)
  | '|' => some ({ s with branches := ofParts s.parts.reverse :: s.branches, parts := [] }, rest)
  | '[' => (class? s.spaced rest).map fun (c, rest) => (s.add (.oneOf c), rest)
  | '*' | '+' | '?' =>
    s.repeat?.map fun s => (s, if rest.head? = some '?' then rest.drop 1 else rest)
  | '\x7b' => none
  | '\\' => (escape? s.spaced rest).map fun (a, rest) => (s.add (.atom a), rest)
  | '.' => some (s.add (.atom .any), rest)
  | '^' | '$' => some (s.add (.atom .edge), rest)
  | _ => some (s.add (.atom (.char c false)), rest)

/-- Reads to the end; a step takes one character at least, and there are `fuel` of them. -/
def finish? (s : Reading) : Nat → List Char → Option Pattern
  | fuel, cs =>
    match fuel, skip s.spaced cs with
    | _, [] => if s.opens.isEmpty then some s.inner else none
    | 0, _ :: _ => none
    | fuel + 1, c :: rest =>
      match s.step? c rest with
      | some (s, rest) => s.finish? fuel rest
      | none => none

end Reading

/-- Reads a pattern. -/
def read? (cs : List Char) : Option Pattern :=
  Reading.empty.finish? cs.length cs

end PaymentRelay.Pattern
