import PaymentRelay.Json.Number
import PaymentRelay.Dict

/-
  JSON values.

  The members of an object are a list, because a record is written with its fields in declared
  order. A value that is passed through unread is canonical: every object in it has its members in
  the order of their keys, each key once (`Json.canonical`).
-/

namespace PaymentRelay

/-- A JSON value. -/
inductive Json where
  | null
  | bool (b : Bool)
  | number (n : Number)
  | text (s : String)
  | array (items : List Json)
  | object (members : List (String × Json))
  deriving Inhabited, Repr

namespace Json

mutual

/-- The value with the members of every object in the order of their keys; of the members with
one key the last is kept. -/
def canonical : Json → Json
  | .array items => .array (canonicalItems items)
  | .object members => .object (Dict.ofList (canonicalMembers members)).entries
  | j => j

/-- `canonical` of every item. -/
def canonicalItems : List Json → List Json
  | [] => []
  | j :: rest => canonical j :: canonicalItems rest

/-- `canonical` of every member. -/
def canonicalMembers : List (String × Json) → List (String × Json)
  | [] => []
  | (k, j) :: rest => (k, canonical j) :: canonicalMembers rest

end

/-- The value of a member. -/
def member? (j : Json) (k : String) : Option Json :=
  match j with
  | .object members => Dict.lookup k members
  | _ => none

/-! What a value is, if it is of a kind. -/

def text? : Json → Option String
  | .text s => some s
  | _ => none

def bool? : Json → Option Bool
  | .bool b => some b
  | _ => none

def int? : Json → Option Int
  | .number n => n.toInt?
  | _ => none

/-- The items of an array; anything else has none. -/
def items : Json → List Json
  | .array items => items
  | _ => []

/-- The members of an object; anything else has none. -/
def members : Json → List (String × Json)
  | .object members => members
  | _ => []

/-- The object of a dictionary. -/
def ofDict (d : Dict Json) : Json := .object d.entries

/-- An integer as a value; integers outside the range of 64 bits become null. -/
def ofInt (i : Int) : Json :=
  match Number.ofInt? i with
  | some n => .number n
  | none => .null

def ofNat (n : Nat) : Json := ofInt n

end Json

end PaymentRelay
