/-
  Looking for a list in another one.
-/

namespace PaymentRelay

/-- A list occurs in another one without a gap. -/
def occurs {α : Type} [DecidableEq α] (part : List α) : List α → Bool
  | [] => part.isEmpty
  | a :: rest => part.isPrefixOf (a :: rest) || occurs part rest

theorem occurs_iff {α : Type} [DecidableEq α] {part l : List α} :
    occurs part l = true ↔ part <:+: l := by
  induction l with
  | nil => simp [occurs]
  | cons a rest ih => simp [occurs, ih, List.infix_cons_iff]

end PaymentRelay
