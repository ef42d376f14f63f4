import PaymentRelay.Json.Decoder

/-
  Records: objects with fixed fields.

  A record is described by its fields in declared order: the name of each, other names it goes by,
  its decoder, the value it has when it is absent, and how it is written. The description gives
  both the decoder and the encoder. A record is read from an object (unknown members are skipped,
  a repeated field is a fault, a missing one is noticed at the end) or from an array of its fields
  in declared order.
-/

namespace PaymentRelay

/-- A field of a record. -/
structure Field (α : Type) where
  name : String
  decoder : Decoder α
  /-- How the value is written; a field without one is left out. -/
  encode : α → Option Json
  /-- The value of an absent field; a field without one is required. -/
  absent : Option α := none
  /-- Other names under which the field is read. -/
  aliases : List String := []

/-- The fields of a record, with the types of their values. -/
inductive Fields : List Type → Type 1 where
  | nil : Fields []
  | cons {α : Type} {ts : List Type} (field : Field α) (rest : Fields ts) : Fields (α :: ts)

/-- A value for each field. -/
def Row : List Type → Type
  | [] => Unit
  | α :: ts => α × Row ts

/-- The values found so far. -/
def Slots : List Type → Type
  | [] => Unit
  | α :: ts => Option α × Slots ts

namespace Field

variable {α : Type}

/-- A field that must be there. -/
def required (name : String) (decoder : Decoder α) (encode : α → Json) : Field α :=
  { name, decoder, encode := fun a => some (encode a) }

/-- A field with a value for its absence. -/
def withDefault (name : String) (decoder : Decoder α) (encode : α → Json) (absent : α) :
    Field α :=
  { name, decoder, encode := fun a => some (encode a), absent := some absent }

/-- A field that may be absent or null, and then is not written. -/
def optional (name : String) (decoder : Decoder α) (encode : α → Json) : Field (Option α) :=
  { name, decoder := decoder.optional, encode := fun a => a.map encode, absent := some none }

/-- The field is read under this name. -/
def answersTo (f : Field α) (key : String) : Bool :=
  key = f.name || f.aliases.contains key

end Field

namespace Slots

/-- No field found yet. -/
def none : {ts : List Type} → Slots ts
  | [] => ()
  | _ :: _ => (Option.none, none)

end Slots

namespace Fields

/-- The number of fields. -/
def count : {ts : List Type} → Fields ts → Nat
  | _, .nil => 0
  | _, .cons _ rest => rest.count + 1

/-- Reads one member into its field, or nothing if no field has this name. -/
def place (src : Source) (key : String) (doc : Document) :
    {ts : List Type} → Fields ts → Slots ts → Option (Except Fault (Slots ts))
  | _, .nil, _ => none
  | _, .cons f rest, (slot, slots) =>
    if f.answersTo key then
      match slot with
      | some _ => some (.error (.here (.duplicateField f.name)))
      | none =>
        match Decoder.inside (.field key) (f.decoder src doc) with
        | .ok a => some (.ok (some a, slots))
        | .error e => some (.error e)
    else
      match place src key doc rest slots with
      | some (.ok slots) => some (.ok (slot, slots))
      | some (.error e) => some (.error e)
      | none => none

/-- Reads the members of an object into their fields. -/
def collect (src : Source) {ts : List Type} (fs : Fields ts) :
    List (Document × Document) → Slots ts → Except Fault (Slots ts)
  | [], slots => .ok slots
  | (.text (some key), doc) :: rest, slots =>
    match fs.place src key doc slots with
    | some (.ok slots) => collect src fs rest slots
    | some (.error e) => .error e
    | none =>
      match Decoder.skip src doc with
      | .ok () => collect src fs rest slots
      | .error e => .error e
  | (_, _) :: _, _ => .error .unreadable

/-- The row of what was found; the first field that is missing is a fault. -/
def complete : {ts : List Type} → Fields ts → Slots ts → Except Fault (Row ts)
  | _, .nil, _ => .ok ()
  | _, .cons f rest, (slot, slots) =>
    match slot.or f.absent with
    | some a => (complete rest slots).map (a, ·)
    | none => .error (.here (.missingField f.name))

/-- The row of an array of fields. Fields with a value for their absence may be left out at the
end. -/
def ofItems (src : Source) (closed : Bool) (expected : String) (index : Nat) :
    {ts : List Type} → Fields ts → List Document → Except Fault (Row ts)
  | _, .nil, docs =>
    if src.isText then
      if docs.isEmpty && closed then .ok () else .error .unreadable
    else if docs.isEmpty then .ok ()
    else .error (.here (.wrongLength (index + docs.length) "fewer elements in array"))
  | _, .cons f rest, [] =>
    if src.isText && !closed then .error .unreadable
    else
      match f.absent with
      | some a => (ofItems src closed expected (index + 1) rest []).map (a, ·)
      | none => .error (.here (.wrongLength index expected))
  | _, .cons f rest, doc :: docs =>
    match Decoder.inside (.item index) (f.decoder src doc) with
    | .ok a => (ofItems src closed expected (index + 1) rest docs).map (a, ·)
    | .error e => .error e

/-- The members that a row is written as, in declared order. -/
def members : {ts : List Type} → Fields ts → Row ts → List (String × Json)
  | _, .nil, _ => []
  | _, .cons f rest, (a, row) =>
    match f.encode a with
    | some j => (f.name, j) :: members rest row
    | none => members rest row

end Fields

/-- A type of records with its fields. -/
structure Record (α : Type) where
  name : String
  types : List Type
  fields : Fields types
  build : Row types → α
  parts : α → Row types
  build_parts : ∀ a, build (parts a) = a := by intro a; rfl
  parts_build : ∀ row, parts (build row) = row := by intro row; rfl

namespace Record

variable {α : Type}

/-- What a message calls the type. -/
def title (r : Record α) : String := "struct " ++ r.name

/-- What a message says of an array with too few items. -/
def lengthTitle (r : Record α) : String :=
  let n := r.fields.count
  r.title ++ " with " ++ toString n ++ (if n = 1 then " element" else " elements")

/-- Decodes a record from an object or an array. -/
def decoder (r : Record α) : Decoder α := fun src doc =>
  match doc with
  | .object members closed =>
    match src.enter? with
    | none => .error .unreadable
    | some inner =>
      match r.fields.collect inner members Slots.none with
      | .error e => .error e
      | .ok slots =>
        if src.isText && !closed then .error .unreadable
        else (r.fields.complete slots).map r.build
  | .array items closed =>
    match src.enter? with
    | none => .error .unreadable
    | some inner => (r.fields.ofItems inner closed r.lengthTitle 0 items).map r.build
  | doc => .error (doc.wrongType r.title)

/-- A record as an object with its fields in declared order. -/
def encode (r : Record α) (a : α) : Json :=
  .object (r.fields.members (r.parts a))

end Record

end PaymentRelay
