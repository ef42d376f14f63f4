import PaymentRelay.Pattern.Reader
import PaymentRelay.Settings.Environment
import PaymentRelay.Text.Symbol

/-
  Log filters.

  A filter is a list of directives with commas between them; empty ones do not count. A directive
  is a level, the name of a target, or a target with a level after an equals sign. A target may be
  followed, or replaced, by a span in square brackets with a field that it must have in braces.

  A directive is read without the blanks around it, but its parts are cut from it as it stands, by
  counts of bytes. After leading blanks the parts are therefore shifted, and a cut may fall within
  a character, which stops the reader altogether.
-/

namespace PaymentRelay.LogFilter

/-- Why a filter is not read. -/
inductive Fault where
  /-- A directive or a value in it is not well-formed. -/
  | malformed
  /-- A part of a directive begins or ends within a character. -/
  | torn
  deriving DecidableEq, Repr

/-- The words that name a level. -/
def levels : List String := ["trace", "debug", "info", "warn", "error", "off"]

/-- The text is a level: a word in any case, a number up to five, or nothing. -/
def isLevel (s : String) : Bool :=
  s.isEmpty || levels.contains (lowerCase s) || (Settings.natural? 6 s).isSome

/-- A character that a target may begin with. -/
def startsTarget (c : Char) : Bool :=
  isAlphanumeric c || c = '-' || c = ':' || c = '_'

/-! Values of fields. -/

/-- The text is empty or an exponent of ten. -/
def isExponent : List Char → Bool
  | [] => true
  | e :: rest =>
    let digits := match rest with
      | '+' :: ds | '-' :: ds => ds
      | ds => ds
    (e = 'e' || e = 'E') && !digits.isEmpty && digits.all Char.isDigit

/-- The text is a decimal number without a sign. -/
def isDecimal (cs : List Char) : Bool :=
  let rest := cs.dropWhile Char.isDigit
  match rest with
  | '.' :: rest =>
    (cs.head?.any Char.isDigit || rest.head?.any Char.isDigit) &&
      isExponent (rest.dropWhile Char.isDigit)
  | rest => cs.head?.any Char.isDigit && isExponent rest

/-- The text is a number, an infinity or no number, with a plus sign before it. -/
def isPositive : List Char → Bool
  | '+' :: rest =>
    isDecimal rest || ["inf", "infinity", "nan"].contains (lowerCase (String.ofList rest))
  | _ => false

/-- The text is a value: a truth value, a number or a pattern. But for numbers with a plus sign, all
values are patterns as well. -/
def isValue (cs : List Char) : Bool :=
  isPositive cs || (Pattern.read? cs).any Pattern.isUsable

/-- The text is the name of a field, which may be empty, or a name and a value with an equals sign
between them; a second equals sign ends the value. -/
def isField (cs : List Char) : Bool :=
  match cs.splitOn '=' with
  | _ :: value :: _ => isValue value
  | _ => true

/-! Directives. -/

/-- The text after some bytes, unless they end within a character. -/
def afterBytes? : Nat → List Char → Option (List Char)
  | 0, cs => some cs
  | _ + 1, [] => none
  | n + 1, c :: cs => if c.utf8Size ≤ n + 1 then afterBytes? (n + 1 - c.utf8Size) cs else none

/-- The text from one count of bytes to another. -/
def cut (cs : List Char) (first last : Nat) : Except Fault (List Char) :=
  match afterBytes? first cs, afterBytes? last cs with
  | some head, some tail => .ok (head.take (head.length - tail.length))
  | _, _ => .error .torn

/-- Where a reader stands in a directive. A number says at which byte a part begins. -/
inductive Place where
  | start
  | target
  | span (first : Nat)
  | field (first : Nat)
  /-- After the closing brace. -/
  | afterField
  /-- After the closing bracket. -/
  | afterSpan
  | level (first : Nat)
  deriving DecidableEq, Repr

/-- The place after a character that begins at byte `i`. -/
def Place.next (text : List Char) (p : Place) (i : Nat) (c : Char) : Except Fault Place :=
  match p with
  | .start =>
    if c = '[' then .ok (.span (i + 1))
    else if startsTarget c then .ok .target
    else .error .malformed
  | .target =>
    if c = '=' then (cut text 0 i).map fun _ => .level (i + 1)
    else if c = '[' then (cut text 0 i).map fun _ => .span (i + 1)
    else .ok .target
  | .span first =>
    if c = ']' then (cut text first i).map fun _ => .afterSpan
    else if c = '\x7b' then (cut text first i).map fun _ => .field (i + 1)
    else .ok p
  | .field first =>
    if c = '\x7d' then
      match cut text first i with
      | .ok [] => .error .malformed
      | .ok text => if isField text then .ok .afterField else .error .malformed
      | .error e => .error e
    else .ok p
  | .afterField => if c = ']' then .ok .afterSpan else .error .malformed
  | .afterSpan => if c = '=' then .ok (.level (i + 1)) else .error .malformed
  | .level _ => .ok p

/-- A directive may end at a place. -/
def Place.finish (text : List Char) : Place → Except Fault Unit
  | .target | .afterSpan => .ok ()
  | .level first =>
    match cut text first (Utf8.size text) with
    | .ok text => if isLevel (String.ofList text) then .ok () else .error .malformed
    | .error e => .error e
  | _ => .error .malformed

/-- Reads the characters of a directive from a place on. -/
def Place.read (text : List Char) (p : Place) (i : Nat) : List Char → Except Fault Unit
  | [] => p.finish text
  | c :: rest =>
    match p.next text i c with
    | .ok q => q.read text (i + c.utf8Size) rest
    | .error e => .error e

/-- Reads a directive. -/
def directive (text : List Char) : Except Fault Unit :=
  Place.start.read text 0 (skipBlanks (skipBlanks text).reverse).reverse

/-- Reads a filter; the first directive that is not read is the reason why the filter is not. -/
def check (s : String) : Except Fault Unit :=
  ((s.toList.splitOn ',').filter fun d => !d.isEmpty).forM directive

/-- A filter is well-formed. -/
def isValid (s : String) : Bool := (check s).isOk

end PaymentRelay.LogFilter
