/-
  Classes of characters that are given by ranges of character numbers.
-/

namespace PaymentRelay

/-- A character lies in one of some ranges, of which each is given by its two ends. -/
def liesIn (c : Char) (ranges : List (Nat × Nat)) : Bool :=
  ranges.any fun r => r.1 ≤ c.toNat && c.toNat ≤ r.2

theorem liesIn_iff {c : Char} {ranges : List (Nat × Nat)} :
    liesIn c ranges ↔ ∃ r ∈ ranges, r.1 ≤ c.toNat ∧ c.toNat ≤ r.2 := by
  simp [liesIn]

end PaymentRelay
