import PaymentRelay.Http.Request
import PaymentRelay.Text.Percent

/-
  Forms: names with values, as they stand in a query.
-/

namespace PaymentRelay.Http.Form

/-- The encoded name and value of a piece; a piece without an equals sign has no value. -/
def split (piece : List UInt8) : List UInt8 × List UInt8 :=
  (piece.takeWhile (· ≠ 0x3D), (piece.dropWhile (· ≠ 0x3D)).drop 1)

/-- The names and values of a query, in order. -/
def read (query : String) : List (String × String) :=
  (((Utf8.bytes query).splitOn 0x26).filter fun piece => !piece.isEmpty).map fun piece =>
    let (name, value) := split piece
    (Percent.formText name, Percent.formText value)

/-- The values of a name. -/
def values (form : List (String × String)) (name : String) : List String :=
  (form.filter fun e => e.1 = name).map (·.2)

end PaymentRelay.Http.Form
