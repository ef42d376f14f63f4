import PaymentRelay.Text.Symbol

/-
  Percent-encoded text, as it stands in paths and forms.

  An escape is a percent sign and two hexadecimal digits; a percent sign followed by anything else
  stands for itself.
-/

namespace PaymentRelay.Percent

/-- The value of a hexadecimal digit. -/
def hexValue? (b : UInt8) : Option UInt8 :=
  if 0x30 ≤ b ∧ b ≤ 0x39 then some (b - 0x30)
  else if 0x41 ≤ b ∧ b ≤ 0x46 then some (b - 0x37)
  else if 0x61 ≤ b ∧ b ≤ 0x66 then some (b - 0x57)
  else none

/-- The bytes that an encoded list of bytes stands for. -/
def decode : List UInt8 → List UInt8
  | 0x25 :: h :: l :: rest =>
    match hexValue? h, hexValue? l with
    | some x, some y => (x * 16 + y) :: decode rest
    | _, _ => 0x25 :: decode (h :: l :: rest)
  | b :: rest => b :: decode rest
  | [] => []

/-- The bytes of a form value, in which a plus sign stands for a space. -/
def decodeForm (bytes : List UInt8) : List UInt8 :=
  decode (bytes.map fun b => if b = 0x2B then 0x20 else b)

/-- The text of an encoded list of bytes, if it is UTF-8. -/
def text? (bytes : List UInt8) : Option String :=
  (Utf8.strict? (Utf8.symbols (decode bytes))).map String.ofList

/-- The text of a form value, with replacement characters where it is not UTF-8. -/
def formText (bytes : List UInt8) : String :=
  String.ofList (Utf8.lossy (Utf8.symbols (decodeForm bytes)))

end PaymentRelay.Percent
