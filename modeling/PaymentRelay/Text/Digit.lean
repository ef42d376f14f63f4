/-
  Digits of a number, in a base of at most sixteen.
-/

namespace PaymentRelay

/-- The value of a digit of the base; letters may be small or capital. -/
def digitValue? (base : Nat) (c : Char) : Option Nat :=
  let value :=
    if '0' ≤ c ∧ c ≤ '9' then c.toNat - 48
    else if 'a' ≤ c ∧ c ≤ 'f' then c.toNat - 87
    else if 'A' ≤ c ∧ c ≤ 'F' then c.toNat - 55
    else base
  if value < base then some value else none

end PaymentRelay
