/-
  The case of letters; only those of ASCII have one here.
-/

namespace PaymentRelay

/-- A text with its capital letters made small. -/
def lowerCase (s : String) : String := String.ofList (s.toList.map Char.toLower)

end PaymentRelay
