import PaymentRelay.Json.Basic

/-
  Field validation: every rule is checked, and the messages of the broken ones are collected under
  their fields.
-/

namespace PaymentRelay

/-- The messages of broken rules under their fields, in the order in which they were checked. -/
structure Violations where
  byField : Dict (List String)

/-- The outcome of one rule on a field: none, or the message of a broken rule. -/
structure Check where
  field : String
  violation : Option String
  deriving DecidableEq, Repr

namespace Check

/-- The message for an empty value. -/
def emptyMessage : String := "value cannot be empty"

/-- The value must not be empty. -/
def notEmpty (field value : String) : Check :=
  ⟨field, if value.isEmpty then some emptyMessage else none⟩

end Check

namespace Violations

def none : Violations := ⟨.empty⟩

def isEmpty (v : Violations) : Bool := v.byField.isEmpty

/-- The messages under a field. -/
def messages? (v : Violations) (field : String) : Option (List String) := v.byField.find? field

/-- The violations with one more. -/
def add (v : Violations) (field message : String) : Violations :=
  ⟨v.byField.insert field ((v.messages? field).getD [] ++ [message])⟩

/-- The violations with that of a check, if it found one. -/
def record (v : Violations) (c : Check) : Violations :=
  match c.violation with
  | some message => v.add c.field message
  | .none => v

/-- The violations of a list of checks. -/
def ofChecks (checks : List Check) : Violations := checks.foldl record none

/-- All the checks pass, or else these are the violations. -/
def validate (checks : List Check) : Except Violations Unit :=
  let v := ofChecks checks
  if v.isEmpty then .ok () else .error v

/-- The violations in one line. -/
def text (v : Violations) : String :=
  "[" ++ ", ".intercalate (v.byField.entries.map fun e => e.1 ++ ": " ++ ", ".intercalate e.2) ++
    "]"

/-- The violations as an object of lists. -/
def toJson (v : Violations) : Json :=
  .ofDict (v.byField.map fun messages => .array (messages.map .text))

end Violations

end PaymentRelay
