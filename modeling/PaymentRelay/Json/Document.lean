import PaymentRelay.Json.Basic
import PaymentRelay.Text.Digit
import PaymentRelay.Text.Symbol

/-
  JSON documents as they are read.

  A document is the tree of a JSON text as far as the text is well-formed. Some faults only matter
  when a part is looked at: a number beyond the range of doubles, an escape for half a character
  and bytes that are not UTF-8 are errors in a value that is used and none in a value that is
  skipped. Such leaves are kept as `number none` and `text none`. Reading stops at the first
  break, which is a `broken` leaf or a bracket that is not `closed`.
-/

namespace PaymentRelay

/-- A JSON text, as far as it is well-formed. -/
inductive Document where
  | null
  | bool (b : Bool)
  /-- A number, `none` beyond the range of doubles. -/
  | number (value : Option Number)
  /-- A text, `none` if it holds half a character or bytes that are not UTF-8. -/
  | text (value : Option String)
  | array (items : List Document) (closed : Bool)
  /-- Keys and values; a key other than a text is followed by `broken`, and by nothing else. -/
  | object (members : List (Document × Document)) (closed : Bool)
  | broken
  deriving Inhabited, Repr

namespace Document

/-- The blanks of JSON. -/
def isSpace : Symbol → Bool
  | .char c => c = ' ' || c = '\n' || c = '\t' || c = '\r'
  | .stray _ => false

def skipSpace (cs : List Symbol) : List Symbol := cs.dropWhile isSpace

/-- The text after a given word. -/
def afterWord : List Char → List Symbol → Option (List Symbol)
  | [], cs => some cs
  | w :: ws, .char c :: cs => if c = w then afterWord ws cs else none
  | _ :: _, _ => none

/-! Texts: first the units between the quotes, then the characters they stand for. -/

/-- A unit of a quoted text: a character, a code unit written as an escape, or stray bytes. -/
inductive TextUnit where
  | char (c : Char)
  | code (n : Nat)
  | stray
  deriving Repr

/-- The number of four hexadecimal digits. -/
def codeUnit? (a b c d : Char) : Option Nat := do
  let a ← digitValue? 16 a
  let b ← digitValue? 16 b
  let c ← digitValue? 16 c
  let d ← digitValue? 16 d
  some (((a * 16 + b) * 16 + c) * 16 + d)

/-- The character that a one-letter escape stands for. -/
def unescape? (c : Char) : Option Char :=
  match c with
  | '"' => some '"'
  | '\\' => some '\\'
  | '/' => some '/'
  | 'b' => some '\x08'
  | 'f' => some '\x0c'
  | 'n' => some '\n'
  | 'r' => some '\r'
  | 't' => some '\t'
  | _ => none

/-- The units up to the closing quote, and the text after it. -/
def units? : List Symbol → Option (List TextUnit × List Symbol)
  | [] => none
  | .char '"' :: rest => some ([], rest)
  | .char '\\' :: .char 'u' :: .char a :: .char b :: .char c :: .char d :: rest =>
    match codeUnit? a b c d, units? rest with
    | some n, some (us, after) => some (.code n :: us, after)
    | _, _ => none
  | .char '\\' :: .char e :: rest =>
    match unescape? e, units? rest with
    | some c, some (us, after) => some (.char c :: us, after)
    | _, _ => none
  | .char '\\' :: _ => none
  | .char c :: rest =>
    if c.toNat < 0x20 then none
    else (units? rest).map fun (us, after) => (.char c :: us, after)
  | .stray _ :: rest => (units? rest).map fun (us, after) => (.stray :: us, after)

def isHighSurrogate (n : Nat) : Bool := 0xD800 ≤ n && n < 0xDC00
def isLowSurrogate (n : Nat) : Bool := 0xDC00 ≤ n && n < 0xE000

/-- The characters that units stand for: two surrogates in their order make one character, a lone
one makes none. -/
def ofUnits? : List TextUnit → Option (List Char)
  | [] => some []
  | .char c :: rest => (ofUnits? rest).map (c :: ·)
  | .stray :: _ => none
  | .code n :: .code m :: rest =>
    if isHighSurrogate n then
      if isLowSurrogate m then
        (ofUnits? rest).map (Char.ofNat (0x10000 + (n - 0xD800) * 0x400 + (m - 0xDC00)) :: ·)
      else none
    else if isLowSurrogate n then none
    else (ofUnits? (.code m :: rest)).map (Char.ofNat n :: ·)
  | .code n :: rest =>
    if isHighSurrogate n || isLowSurrogate n then none
    else (ofUnits? rest).map (Char.ofNat n :: ·)

/-- A text after its opening quote. -/
def readText (cs : List Symbol) : Document × Option (List Symbol) :=
  match units? cs with
  | some (us, rest) => (.text ((ofUnits? us).map String.ofList), some rest)
  | none => (.broken, none)

/-! Numbers. -/

def digit? : Symbol → Option Nat
  | .char c => if '0' ≤ c ∧ c ≤ '9' then some (c.toNat - 48) else none
  | .stray _ => none

/-- The digits at the beginning of a text, and the text after them. -/
def digits : List Symbol → List Nat × List Symbol
  | [] => ([], [])
  | c :: rest =>
    match digit? c with
    | some d => let (ds, after) := digits rest; (d :: ds, after)
    | none => ([], c :: rest)

/-- The number that decimal digits stand for. -/
def ofDigits (ds : List Nat) : Nat := ds.foldl (fun n d => n * 10 + d) 0

/-- The fraction of a number, if one begins here; a point must be followed by a digit. -/
def fraction? : List Symbol → Option (Option (List Nat) × List Symbol)
  | .char '.' :: cs =>
    match digits cs with
    | ([], _) => none
    | (ds, rest) => some (some ds, rest)
  | cs => some (none, cs)

/-- The sign of an exponent. -/
def exponentSign : List Symbol → Bool × List Symbol
  | .char '-' :: cs => (true, cs)
  | .char '+' :: cs => (false, cs)
  | cs => (false, cs)

/-- The exponent of a number, if one begins here; it must have a digit. -/
def exponent? : List Symbol → Option (Option Int × List Symbol)
  | .char c :: cs =>
    if c = 'e' || c = 'E' then
      let (minus, cs) := exponentSign cs
      match digits cs with
      | ([], _) => none
      | (ds, rest) => some (some (if minus then -(ofDigits ds : Int) else ofDigits ds), rest)
    else some (none, .char c :: cs)
  | cs => some (none, cs)

/-- A number token after its sign; more than one digit may not begin with a zero. -/
def token? (minus : Bool) (cs : List Symbol) : Option (Number.Token × List Symbol) :=
  match digits cs with
  | ([], _) | (0 :: _ :: _, _) => none
  | (whole, rest) =>
    (fraction? rest).bind fun (fraction, rest) =>
      (exponent? rest).map fun (exponent, rest) => (⟨minus, whole, fraction, exponent⟩, rest)

/-- A number. -/
def readNumber : List Symbol → Document × Option (List Symbol)
  | .char '-' :: cs => ofToken (token? true cs)
  | cs => ofToken (token? false cs)
where
  ofToken : Option (Number.Token × List Symbol) → Document × Option (List Symbol)
    | some (t, rest) => (.number t.value?, some rest)
    | none => (.broken, none)

/-- A literal. -/
def readWord (word : List Char) (d : Document) (cs : List Symbol) :
    Document × Option (List Symbol) :=
  match afterWord word cs with
  | some rest => (d, some rest)
  | none => (.broken, none)

/-! Values. A call is given one less fuel than its caller, and at most two calls follow each other
without taking a symbol. -/

mutual

/-- A value and the text after it, which is none after a break. -/
def readValue : Nat → List Symbol → Document × Option (List Symbol)
  | 0, _ => (.broken, none)
  | fuel + 1, cs =>
    match skipSpace cs with
    | .char '\x7b' :: rest =>
      let (members, closed, after) := readMembers fuel true (skipSpace rest)
      (.object members closed, after)
    | .char '[' :: rest =>
      let (items, closed, after) := readItems fuel true (skipSpace rest)
      (.array items closed, after)
    | .char '"' :: rest => readText rest
    | .char 'n' :: rest => readWord ['u', 'l', 'l'] .null rest
    | .char 't' :: rest => readWord ['r', 'u', 'e'] (.bool true) rest
    | .char 'f' :: rest => readWord ['a', 'l', 's', 'e'] (.bool false) rest
    | rest => readNumber rest

/-- The items up to the closing bracket; only an empty array may close at the start. -/
def readItems : Nat → Bool → List Symbol → List Document × Bool × Option (List Symbol)
  | 0, _, _ => ([], false, none)
  | fuel + 1, first, cs =>
    match cs with
    | .char ']' :: rest => if first then ([], true, some rest) else ([], false, none)
    | cs =>
      match readValue fuel cs with
      | (d, none) => ([d], false, none)
      | (d, some rest) =>
        match skipSpace rest with
        | .char ',' :: rest =>
          let (ds, closed, after) := readItems fuel false (skipSpace rest)
          (d :: ds, closed, after)
        | .char ']' :: rest => ([d], true, some rest)
        | _ => ([d], false, none)

/-- The members up to the closing brace; only an empty object may close at the start. -/
def readMembers : Nat → Bool → List Symbol →
    List (Document × Document) × Bool × Option (List Symbol)
  | 0, _, _ => ([], false, none)
  | fuel + 1, first, cs =>
    match cs with
    | .char '\x7d' :: rest => if first then ([], true, some rest) else ([], false, none)
    | .char '"' :: rest =>
      match readText rest with
      | (_, none) => ([], false, none)
      | (key, some rest) =>
        match skipSpace rest with
        | .char ':' :: rest =>
          match readValue fuel rest with
          | (d, none) => ([(key, d)], false, none)
          | (d, some rest) =>
            match skipSpace rest with
            | .char ',' :: rest =>
              let (ds, closed, after) := readMembers fuel false (skipSpace rest)
              ((key, d) :: ds, closed, after)
            | .char '\x7d' :: rest => ([(key, d)], true, some rest)
            | _ => ([(key, d)], false, none)
        | _ => ([(key, .broken)], false, none)
    | cs =>
      match readValue fuel cs with
      | (key, _) => ([(key, .broken)], false, none)

end

/-- The document at the beginning of a text, and the text after it unless it is broken. -/
def read (cs : List Symbol) : Document × Option (List Symbol) :=
  readValue (2 * cs.length + 2) cs

/-! Documents of values. -/

mutual

/-- The document of a value. -/
def ofJson : Json → Document
  | .null => .null
  | .bool b => .bool b
  | .number n => .number (some n)
  | .text s => .text (some s)
  | .array items => .array (ofItems items) true
  | .object members => .object (ofMembers members) true

/-- The documents of the items of an array. -/
def ofItems : List Json → List Document
  | [] => []
  | j :: rest => ofJson j :: ofItems rest

/-- The documents of the members of an object. -/
def ofMembers : List (String × Json) → List (Document × Document)
  | [] => []
  | (k, j) :: rest => (.text (some k), ofJson j) :: ofMembers rest

end

end Document

end PaymentRelay
