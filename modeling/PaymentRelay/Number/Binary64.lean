import PaymentRelay.Number.Power

/-
  Binary64 numbers, exactly.

  The finite doubles of one sign, in order, are numbered 0, 1, 2, …: a double is its sign and its
  rank. The double of rank `s · 2^52 + m` (with `m` between `2^52` and `2^53`, or `s = 0`) is
  `m · 2^s` units of `2^-1074`, so rounding, multiplying and dividing are exact arithmetic on
  natural numbers followed by one rounding.
-/

namespace PaymentRelay

/-- The hidden bit of a mantissa, `2^52`. -/
abbrev Binary64.hidden : Nat := 0x10000000000000

/-- A finite binary64 number: its sign, and its place among the doubles of that sign. -/
structure Binary64 where
  negative : Bool
  rank : Fin (2047 * Binary64.hidden)
  deriving DecidableEq, Repr

namespace Binary64

/-- The number of units of `2^-1074` in one. -/
def one : Nat := twoTo 1074

/-- The binary places that the rank shifts the mantissa by. -/
def shift (rank : Nat) : Nat := rank / hidden - 1

/-- The mantissa of a rank: below `2^52` for the subnormal numbers only. -/
def mantissa (rank : Nat) : Nat :=
  if rank < hidden then rank else hidden + rank % hidden

/-- The size of a double in units of `2^-1074`. -/
def units (x : Binary64) : Nat :=
  mantissa x.rank * twoTo (shift x.rank)

def zero : Binary64 := ⟨false, ⟨0, by decide⟩⟩

def isZero (x : Binary64) : Bool := x.rank.val = 0

def neg (x : Binary64) : Binary64 := { x with negative := !x.negative }

/-- A quotient rounded to the nearest natural number, a half to the even one. -/
def roundQuotient (num den : Nat) : Nat :=
  let q := num / den
  let r := num % den
  if 2 * r < den then q else if den < 2 * r then q + 1 else q + q % 2

/-- The double nearest to `num / den`, or none when that is beyond the largest. -/
def round? (negative : Bool) (num den : Nat) : Option Binary64 :=
  let num := num * one
  let s := Nat.log2 (num / den) - 52
  let rank := s * hidden + roundQuotient num (den * twoTo s)
  if h : rank < 2047 * hidden then some ⟨negative, ⟨rank, h⟩⟩ else none

/-- The double nearest to a natural number. -/
def ofNat? (n : Nat) : Option Binary64 := round? false n 1

def mul? (x y : Binary64) : Option Binary64 :=
  round? (x.negative != y.negative) (x.units * y.units) (one * one)

def div? (x y : Binary64) : Option Binary64 :=
  round? (x.negative != y.negative) x.units y.units

end Binary64

end PaymentRelay
