import PaymentRelay.Number.Power

/-
  Spans of time, in nanoseconds, and how messages write them: in the largest unit that leaves at
  least one, with the fraction that is needed. Moments of the clock that spans are counted on.

  The clock starts with the program and never goes back. It tells moments up to a last one
  (`Instant.latest`). Where a span ends beyond that there is no sum (`Instant.after?`), and who asks
  for it panics. `Instant.after` is the sum on a clock that tells every moment; the two agree where
  there is a sum (`Instant.after?_eq_some_iff`). Whoever counts with `Instant.after` alone takes it
  for granted that the clock can tell the moments that it comes to.
-/

namespace PaymentRelay

/-- A length of time in nanoseconds. -/
structure Span where
  nanos : Nat
  deriving DecidableEq, Repr

namespace Span

def ofMillis (ms : Nat) : Span := ⟨ms * 1000000⟩
def ofMicros (us : Nat) : Span := ⟨us * 1000⟩
def ofSeconds (s : Nat) : Span := ⟨s * 1000000000⟩

/-- The decimals of `n / 10^width` after the point, without trailing zeros. -/
def decimals (width n : Nat) : List Char :=
  let s := (toString n).toList
  ((List.replicate (width - s.length) '0' ++ s).reverse.dropWhile (· = '0')).reverse

/-- A number of units with `width` decimals. -/
def inUnits (nanos width : Nat) (unit : String) : String :=
  let whole := nanos / tenTo width
  let part := nanos % tenTo width
  let fraction := if part = 0 then "" else String.ofList ('.' :: decimals width part)
  toString whole ++ fraction ++ unit

/-- How a message writes a span. -/
def text (s : Span) : String :=
  if 1000000000 ≤ s.nanos then inUnits s.nanos 9 "s"
  else if 1000000 ≤ s.nanos then inUnits s.nanos 6 "ms"
  else if 1000 ≤ s.nanos then inUnits s.nanos 3 "µs"
  else inUnits s.nanos 0 "ns"

end Span

/-- A moment of the monotonic clock, in nanoseconds from a fixed start. -/
structure Instant where
  nanos : Int
  deriving DecidableEq, Repr

namespace Instant

instance : LE Instant := ⟨fun a b => a.nanos ≤ b.nanos⟩
instance : LT Instant := ⟨fun a b => a.nanos < b.nanos⟩
instance (a b : Instant) : Decidable (a ≤ b) := inferInstanceAs (Decidable (a.nanos ≤ b.nanos))
instance (a b : Instant) : Decidable (a < b) := inferInstanceAs (Decidable (a.nanos < b.nanos))

/-- The start of the clock. -/
def start : Instant := ⟨0⟩

/-- The last moment that the clock can tell: seconds of 64 bits with a sign, and nanoseconds. -/
def latest : Instant := ⟨twoTo 63 * 1000000000 - 1⟩

/-- The moment a span later, on a clock that tells every moment. -/
def after (t : Instant) (s : Span) : Instant := ⟨t.nanos + s.nanos⟩

/-- The moment a span later, none if the clock cannot tell it. -/
def after? (t : Instant) (s : Span) : Option Instant :=
  if t.after s ≤ latest then some (t.after s) else none

/-- The earlier of two moments. -/
def earlier (a b : Instant) : Instant := if a ≤ b then a else b

/-- The span since an earlier moment, none if it is not earlier. -/
def since (t earlier : Instant) : Span := ⟨(t.nanos - earlier.nanos).toNat⟩

theorem not_le {a b : Instant} : ¬a ≤ b ↔ b < a := Int.not_le

theorem after?_eq_some_iff {t u : Instant} {s : Span} :
    t.after? s = some u ↔ t.after s = u ∧ u ≤ latest := by
  unfold after?
  constructor
  · intro told
    obtain ⟨le, same⟩ := Option.ite_none_right_eq_some.mp told
    cases same
    exact ⟨rfl, le⟩
  · rintro ⟨rfl, le⟩
    exact if_pos le

theorem after?_eq_none_iff {t : Instant} {s : Span} : t.after? s = none ↔ latest < t.after s := by
  rw [← not_le, after?]
  split
  · next le => exact ⟨nofun, fun beyond => absurd le beyond⟩
  · next beyond => exact ⟨fun _ => beyond, fun _ => rfl⟩

end Instant

end PaymentRelay
