import PaymentRelay.Json.Document
import PaymentRelay.Text.Quoted

/-
  What can be wrong with a document.

  Either the text is not JSON, or the JSON has not the shape that was asked for; then the fault
  says where, what was found there and what was expected.
-/

namespace PaymentRelay

/-- What stands in a document, as messages call it. -/
inductive Found where
  | null
  | bool (b : Bool)
  | number (n : Number)
  | text (s : String)
  | array
  | object
  deriving DecidableEq, Repr

/-- Why a document has not the expected shape. -/
inductive Cause where
  | wrongType (found : Found) (expected : String)
  | wrongValue (found : Found) (expected : String)
  | wrongLength (length : Nat) (expected : String)
  | missingField (name : String)
  | duplicateField (name : String)
  | unknownVariant (name : String) (known : List String)
  /-- A text that is no date or no identifier. -/
  | malformedText
  deriving DecidableEq, Repr

/-- A step from a document to one of its parts. -/
inductive Step where
  | field (name : String)
  | item (index : Nat)
  deriving DecidableEq, Repr

/-- What is wrong with a document. -/
inductive Fault where
  /-- The text is not JSON, or nested too deeply, or has a number out of range. -/
  | unreadable
  | shape (path : List Step) (cause : Cause)
  deriving DecidableEq, Repr

namespace Found

/-- How a message names what was found. -/
def describe : Found → String
  | .null => "null"
  | .bool b => "boolean `" ++ (if b then "true" else "false") ++ "`"
  | .number (.double x) => "floating point `" ++ x.text ++ "`"
  | .number n => "integer `" ++ n.text ++ "`"
  | .text s => "string " ++ Quoted.quote s
  | .array => "sequence"
  | .object => "map"

end Found

namespace Cause

/-- The known variants of an enumeration, as a message lists them. -/
def variants : List String → String
  | [] => "there are no variants"
  | [a] => "expected `" ++ a ++ "`"
  | [a, b] => "expected `" ++ a ++ "` or `" ++ b ++ "`"
  | names => "expected one of " ++ ", ".intercalate (names.map fun n => "`" ++ n ++ "`")

/-- The message of a cause; a malformed text has none of its own. -/
def message? : Cause → Option String
  | .wrongType found expected => some ("invalid type: " ++ found.describe ++ ", expected " ++ expected)
  | .wrongValue found expected =>
    some ("invalid value: " ++ found.describe ++ ", expected " ++ expected)
  | .wrongLength n expected =>
    some ("invalid length " ++ toString n ++ ", expected " ++ expected)
  | .missingField name => some ("missing field `" ++ name ++ "`")
  | .duplicateField name => some ("duplicate field `" ++ name ++ "`")
  | .unknownVariant name known =>
    some ("unknown variant `" ++ name ++ "`, " ++ variants known)
  | .malformedText => none

end Cause

namespace Step

/-- A path as messages write it: names with points between them, indices in brackets. -/
def pathText : List Step → String
  | [] => ""
  | .field name :: rest => name ++ follow rest
  | .item i :: rest => "[" ++ toString i ++ "]" ++ follow rest
where
  follow : List Step → String
    | [] => ""
    | .field name :: rest => "." ++ name ++ follow rest
    | .item i :: rest => "[" ++ toString i ++ "]" ++ follow rest

end Step

namespace Fault

/-- A fault of the document itself. -/
def here (cause : Cause) : Fault := .shape [] cause

/-- A fault of a part, seen from the whole. -/
def inside (step : Step) : Fault → Fault
  | .unreadable => .unreadable
  | .shape path cause => .shape (step :: path) cause

end Fault

namespace Document

/-- What stands in a document; a leaf that cannot be read is a fault of its own. -/
def found : Document → Except Fault Found
  | .null => .ok .null
  | .bool b => .ok (.bool b)
  | .number (some n) => .ok (.number n)
  | .text (some s) => .ok (.text s)
  | .array _ _ => .ok .array
  | .object _ _ => .ok .object
  | .number none | .text none | .broken => .error .unreadable

/-- The fault of a document of the wrong type. -/
def wrongType (d : Document) (expected : String) : Fault :=
  match d.found with
  | .ok f => .here (.wrongType f expected)
  | .error e => e

/-- The document is whole: it has no break. -/
def whole : Document → Bool
  | .array items closed => closed && wholeItems items
  | .object members closed => closed && wholeMembers members
  | .broken => false
  | _ => true
where
  /-- Every item is whole. -/
  wholeItems : List Document → Bool
    | [] => true
    | d :: rest => whole d && wholeItems rest
  /-- Every key and value is whole. -/
  wholeMembers : List (Document × Document) → Bool
    | [] => true
    | (k, d) :: rest => whole k && whole d && wholeMembers rest

end Document

end PaymentRelay
