import PaymentRelay.Number.Shortest

/-
  JSON numbers.

  A number token is kept as it was written (sign, digits, exponent). Its value is an integer when
  it has neither fraction nor exponent and fits 64 bits, signed or unsigned; otherwise a double.
  The double is not the nearest one to the token: the digits that fit a 64-bit significand are
  rounded to a double, and that is multiplied or divided by a rounded power of ten.
-/

namespace PaymentRelay

/-- The value of a JSON number. -/
inductive Number where
  /-- A natural number below `2^64`. -/
  | natural (n : UInt64)
  /-- The negative number `-n - 1`, not below `-2^63`. -/
  | negative (n : Fin 0x8000000000000000)
  | double (x : Binary64)
  deriving DecidableEq, Repr

namespace Number

/-- The integer a number stands for, if it is one. -/
def toInt? : Number → Option Int
  | .natural n => some n.toNat
  | .negative n => some (-(n.val : Int) - 1)
  | .double _ => none

/-- The text of a number. -/
def text : Number → String
  | .natural n => toString n.toNat
  | .negative n => "-" ++ toString (n.val + 1)
  | .double x => x.text

/-- The number of an integer in the range of 64 bits, signed or unsigned. -/
def ofInt? (i : Int) : Option Number :=
  if 0 ≤ i then
    if i < 0x10000000000000000 then some (.natural (UInt64.ofNat i.toNat)) else none
  else
    if h : (-i - 1).toNat < 0x8000000000000000 then some (.negative ⟨(-i - 1).toNat, h⟩) else none

/-- The number of a natural number of 64 bits. -/
def ofWord (n : UInt64) : Number := .natural n

/-- A number token: its digits before and after the point, and its exponent. -/
structure Token where
  minus : Bool
  whole : List Nat
  fraction : Option (List Nat)
  exponent : Option Int
  deriving Repr

/-- A significand that grows digit by digit as long as it fits 64 bits, and the digits from the
first one that does not. -/
def accumulate : Nat → List Nat → Nat × List Nat
  | s, [] => (s, [])
  | s, d :: rest => if s * 10 + d < 0x10000000000000000 then accumulate (s * 10 + d) rest else (s, d :: rest)

/-- The exponent of the largest power of ten that is a double. -/
def largestPower : Nat := 308

/-- A power of ten as a double. -/
def powerOfTen? (k : Nat) : Option Binary64 := Binary64.ofNat? (tenTo k)

/-- A significand of 64 bits divided by `10^k`, in at most two steps; below `10^-616` nothing is
left of it. -/
def divideByPower (x : Binary64) (k : Nat) : Option Binary64 :=
  if k ≤ largestPower then (powerOfTen? k).bind x.div?
  else if k ≤ 2 * largestPower then
    ((powerOfTen? largestPower).bind x.div?).bind fun y =>
      (powerOfTen? (k - largestPower)).bind y.div?
  else some .zero

/-- A significand times a power of ten, or none when that is too large for a double. -/
def scale? (significand : Nat) (exponent : Int) : Option Binary64 :=
  (Binary64.ofNat? significand).bind fun x =>
    if x.isZero then some x
    else if exponent < 0 then divideByPower x exponent.natAbs
    else if exponent ≤ largestPower then (powerOfTen? exponent.toNat).bind x.mul?
    else none

/-- The double a token stands for. -/
def Token.toDouble? (t : Token) : Option Binary64 :=
  let (s, excess) := accumulate 0 t.whole
  let fraction := t.fraction.getD []
  let (s, ignored) := accumulate s fraction
  let used := fraction.length - ignored.length
  let exponent := (excess.length : Int) - used + t.exponent.getD 0
  (scale? s exponent).map fun x => if t.minus then x.neg else x

/-- The value of a token, or none when it is beyond the range of doubles. -/
def Token.value? (t : Token) : Option Number :=
  match t.fraction, t.exponent, accumulate 0 t.whole with
  | none, none, (s, []) =>
    if t.minus then
      if h : 0 < s ∧ s - 1 < 0x8000000000000000 then some (.negative ⟨s - 1, h.2⟩)
      else t.toDouble?.map .double
    else some (.natural (UInt64.ofNat s))
  | _, _, _ => t.toDouble?.map .double

end Number

end PaymentRelay
