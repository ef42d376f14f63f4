import PaymentRelay.Json.Fault

/-
  Decoders: from a document to a value of a type.

  The same decoders run over a text and over a value. Of a text the first problem in document
  order counts, so a part is looked at in the order in which it is written, a part that is skipped
  must only be well-formed, and brackets nest at most 127 deep. A value has none of these limits,
  but its arrays and objects have a length that can be complained about.
-/

namespace PaymentRelay

/-- Where a document comes from: a text, with the depth that brackets may still nest, or a value. -/
inductive Source where
  | text (room : Nat)
  | value
  deriving DecidableEq, Repr

namespace Source

/-- The depth to which the brackets of a text may nest. -/
def maxDepth : Nat := 127

/-- The source inside a bracket, or none if it is nested too deeply. -/
def enter? : Source → Option Source
  | .text 0 => none
  | .text (room + 1) => some (.text room)
  | .value => some .value

def isText : Source → Bool
  | .text _ => true
  | .value => false

end Source

/-- A decoder of a type. -/
def Decoder (α : Type) : Type := Source → Document → Except Fault α

namespace Decoder

variable {α β : Type}

/-- The value with a function applied. -/
def map (f : α → β) (d : Decoder α) : Decoder β := fun src doc => (d src doc).map f

/-- A fault with its place. -/
def inside (step : Step) (r : Except Fault α) : Except Fault α :=
  match r with
  | .ok a => .ok a
  | .error e => .error (e.inside step)

/-- A part that is not looked at: in a text it must be well-formed. -/
def skip : Decoder Unit := fun src doc =>
  if src.isText && !doc.whole then .error .unreadable else .ok ()

def text : Decoder String := fun _ doc =>
  match doc with
  | .text (some s) => .ok s
  | d => .error (d.wrongType "a string")

def bool : Decoder Bool := fun _ doc =>
  match doc with
  | .bool b => .ok b
  | d => .error (d.wrongType "a boolean")

/-- An integer from `low` up to below `high`, of a type called `name`. -/
def integer (low high : Int) (name : String) : Decoder { i : Int // low ≤ i ∧ i < high } :=
  fun _ doc =>
    match doc with
    | .number (some n) =>
      match n.toInt? with
      | some i =>
        if h : low ≤ i ∧ i < high then .ok ⟨i, h⟩
        else .error (.here (.wrongValue (.number n) name))
      | none => .error (doc.wrongType name)
    | d => .error (d.wrongType name)

/-- A natural number of 64 bits. -/
def word (name : String) : Decoder UInt64 :=
  (integer 0 0x10000000000000000 name).map fun i => UInt64.ofNat i.val.toNat

def port : Decoder UInt16 :=
  (integer 0 0x10000 "u16").map fun i => UInt16.ofNat i.val.toNat

def seconds : Decoder Int64 :=
  (integer (-0x8000000000000000) 0x8000000000000000 "i64").map fun i => Int64.ofInt i.val

/-- A value or null. -/
def optional (d : Decoder α) : Decoder (Option α) := fun src doc =>
  match doc with
  | .null => .ok none
  | doc => (d src doc).map some

/-! Values that are passed through. -/

mutual

/-- The value of a document. -/
def toJson? (src : Source) : Document → Option Json
  | .null => some .null
  | .bool b => some (.bool b)
  | .number n => n.map .number
  | .text s => s.map .text
  | .array items closed =>
    match src.enter? with
    | some inner => if closed then (toItems? inner items).map .array else none
    | none => none
  | .object members closed =>
    match src.enter? with
    | some inner =>
      if closed then
        (toMembers? inner members).map fun ms => .object (Dict.ofList ms).entries
      else none
    | none => none
  | .broken => none

/-- The values of the items of an array. -/
def toItems? (src : Source) : List Document → Option (List Json)
  | [] => some []
  | d :: rest =>
    match toJson? src d, toItems? src rest with
    | some j, some js => some (j :: js)
    | _, _ => none

/-- The members of an object. -/
def toMembers? (src : Source) : List (Document × Document) → Option (List (String × Json))
  | [] => some []
  | (.text (some k), d) :: rest =>
    match toJson? src d, toMembers? src rest with
    | some j, some js => some ((k, j) :: js)
    | _, _ => none
  | _ :: _ => none

end

/-- Any value, with its members in the order of their keys. -/
def json : Decoder Json := fun src doc =>
  match toJson? src doc with
  | some j => .ok j
  | none => .error .unreadable

/-! Arrays and objects of one kind of part. -/

/-- The items of an array, each at its index. -/
def items (d : Decoder α) (src : Source) : Nat → List Document → Except Fault (List α)
  | _, [] => .ok []
  | i, doc :: rest => do
    let a ← inside (.item i) (d src doc)
    let as ← items d src (i + 1) rest
    .ok (a :: as)

/-- An array. -/
def list (d : Decoder α) : Decoder (List α) := fun src doc =>
  match doc with
  | .array docs closed =>
    match src.enter? with
    | none => .error .unreadable
    | some inner => do
      let as ← items d inner 0 docs
      if closed then .ok as else .error .unreadable
  | doc => .error (doc.wrongType "a sequence")

/-- The entries of an object, in order. -/
def entries (d : Decoder α) (src : Source) :
    List (Document × Document) → Except Fault (List (String × α))
  | [] => .ok []
  | (.text (some k), doc) :: rest => do
    let a ← inside (.field k) (d src doc)
    let as ← entries d src rest
    .ok ((k, a) :: as)
  | _ :: _ => .error .unreadable

/-- An object whose keys are free; the last of equal keys wins. -/
def dict (d : Decoder α) : Decoder (Dict α) := fun src doc =>
  match doc with
  | .object members closed =>
    match src.enter? with
    | none => .error .unreadable
    | some inner => do
      let as ← entries d inner members
      if closed then .ok (Dict.ofList as) else .error .unreadable
  | doc => .error (doc.wrongType "a map")

/-! Enumerations. -/

/-- The null that stands for the missing content of a variant. -/
def unit : Decoder Unit := fun _ doc =>
  match doc with
  | .null => .ok ()
  | d => .error (d.wrongType "unit")

/-- The variant of a name. -/
def named (known : List (String × α)) (name : String) : Except Fault α :=
  match Dict.lookup name known with
  | some a => .ok a
  | none => .error (.here (.unknownVariant name (known.map (·.1))))

/-- A variant without content: its name, or an object with its name and null. -/
def variant (known : List (String × α)) : Decoder α := fun src doc =>
  match src, doc with
  | _, .text (some name) => named known name
  | .text 0, .object _ _ => .error .unreadable
  | .text _, .object ((.text (some name), content) :: rest) closed => do
    let a ← named known name
    inside (.field name) (unit src content)
    if rest.isEmpty && closed then .ok a else .error .unreadable
  | .text _, _ => .error .unreadable
  | .value, .object [(.text (some name), content)] _ => do
    let a ← named known name
    inside (.field name) (unit src content)
    .ok a
  | .value, .object _ _ => .error (.here (.wrongValue .object "map with a single key"))
  | .value, doc => .error (doc.wrongType "string or map")

/-! Running a decoder. -/

/-- Decodes the value at the beginning of a text, whatever follows it. -/
def ofLeading (d : Decoder α) (cs : List Symbol) : Except Fault α :=
  let (doc, rest) := Document.read cs
  match d (.text Source.maxDepth) doc, rest with
  | .ok a, some _ => .ok a
  | .ok _, none => .error .unreadable
  | .error e, _ => .error e

/-- Decodes a text; after the value only blanks may follow. -/
def ofSymbols (d : Decoder α) (cs : List Symbol) : Except Fault α :=
  let (doc, rest) := Document.read cs
  match d (.text Source.maxDepth) doc, rest with
  | .ok a, some rest => if (Document.skipSpace rest).isEmpty then .ok a else .error .unreadable
  | .ok _, none => .error .unreadable
  | .error e, _ => .error e

/-- Decodes a text of characters. -/
def ofString (d : Decoder α) (s : String) : Except Fault α :=
  d.ofSymbols (Utf8.ofChars s.toList)

/-- Decodes a value. -/
def ofJson (d : Decoder α) (j : Json) : Except Fault α :=
  d .value (Document.ofJson j)

end Decoder

end PaymentRelay
