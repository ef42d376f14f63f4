import PaymentRelay.Number.Binary64

/-
  Shortest decimal text of a double.

  Of all decimals that read back as the double, one with the fewest digits is taken, and of these
  the nearest (a tie goes to the even digit). For each number of digits it is enough to look at
  the two neighbours of the double on that decimal grid. The text is positional from `0.00001` up
  to below `10^16` and has an exponent outside.
-/

namespace PaymentRelay

/-- A decimal number: `digits · 10^exponent`. -/
structure Decimal where
  digits : Nat
  exponent : Int
  deriving DecidableEq, Repr

namespace Binary64

/-- The exponent of the leading decimal digit of `num / den`. -/
def leadingExponent (num den : Nat) : Int :=
  if den ≤ num then ((toString (num / den)).length : Int) - 1
  else -((toString ((den - 1) / num)).length : Int)

/-- `num · 10^p / den`, as a quotient of natural numbers. -/
def scaled (num den : Nat) (p : Int) : Nat × Nat :=
  (num * tenTo p.toNat, den * tenTo (-p).toNat)

/-- The ends of the interval of numbers that read back as `x` and the number itself, in quarters
of a unit; the ends belong to it when the mantissa is even. -/
def interval (x : Binary64) : Nat × Nat × Nat :=
  let m := mantissa x.rank
  let s := twoTo (shift x.rank)
  let below := if m = hidden ∧ 1 < x.rank.val / hidden then 1 else 2
  ((4 * m - below) * s, 4 * m * s, (4 * m + 2) * s)

/-- The neighbour of `x` on the grid of `10^-p` that reads back as `x`, if there is one: the
nearer of two, the even one at a tie. -/
def onGrid? (x : Binary64) (p : Int) : Option Nat :=
  let (low, value, high) := interval x
  let even := mantissa x.rank % 2 = 0
  let (num, den) := scaled value (4 * one) p
  let (lowNum, _) := scaled low (4 * one) p
  let (highNum, _) := scaled high (4 * one) p
  let c := num / den
  let down := c ≠ 0 ∧ (lowNum < c * den ∨ (even ∧ lowNum = c * den))
  let up := (c + 1) * den < highNum ∨ (even ∧ (c + 1) * den = highNum)
  let r := num % den
  if down ∧ up then
    some (if 2 * r < den then c else if den < 2 * r then c + 1 else c + c % 2)
  else if down then some c
  else if up then some (c + 1)
  else none

/-- The first grid that has a neighbour, from `count` digits on. -/
def search (x : Binary64) (lead : Int) : Nat → Nat → Decimal
  | 0, _ => ⟨0, 0⟩
  | fuel + 1, count =>
    let p := (count : Int) - 1 - lead
    match onGrid? x p with
    | some c => ⟨c, -p⟩
    | none => search x lead fuel (count + 1)

/-- The decimal without its trailing zeros. -/
def trim : Nat → Decimal → Decimal
  | 0, d => d
  | fuel + 1, d =>
    if d.digits % 10 = 0 ∧ d.digits ≠ 0 then trim fuel ⟨d.digits / 10, d.exponent + 1⟩ else d

/-- The shortest decimal that reads back as a double that is not zero; seventeen digits always
do. -/
def shortest (x : Binary64) : Decimal :=
  trim 20 (search x (leadingExponent x.units one) 17 1)

/-- The text of a positive decimal. -/
def decimalText (d : Decimal) : String :=
  let digits := (toString d.digits).toList
  let point := (digits.length : Int) + d.exponent
  let body : List Char :=
    if 0 < point ∧ point ≤ 16 then
      if 0 ≤ d.exponent then digits ++ List.replicate d.exponent.toNat '0' ++ ['.', '0']
      else digits.take point.toNat ++ ['.'] ++ digits.drop point.toNat
    else if -5 < point ∧ point ≤ 0 then
      ['0', '.'] ++ List.replicate (-point).toNat '0' ++ digits
    else
      let lead := match digits with
        | [] => []
        | [c] => [c]
        | c :: rest => c :: '.' :: rest
      let e := point - 1
      lead ++ ['e', if e < 0 then '-' else '+'] ++ (toString e.natAbs).toList
  String.ofList body

/-- The text of a double. -/
def text (x : Binary64) : String :=
  let body := if x.isZero then "0.0" else decimalText x.shortest
  if x.negative then "-" ++ body else body

end Binary64

end PaymentRelay
