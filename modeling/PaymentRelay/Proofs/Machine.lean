/-
  Machines: they take one input after another and answer each of them.

  The registry of calls and the bridge are machines. A run is a list of inputs. It ends in a state
  (`after`) and leaves a transcript: its inputs, each with the answer it got. What every step keeps
  is kept by every run (`after_keeps`), and a statement about a transcript and the state at its end
  is proved by adding one input at the end (`history`). Inputs that a part of the state does not see
  can be struck from a run (`filter_transcript`).
-/

namespace PaymentRelay

/-- One step: a state and an input give the next state and an answer. -/
abbrev Machine (σ ι ο : Type) := σ → ι → σ × ο

namespace Machine

variable {σ ι ο : Type} (m : Machine σ ι ο)

/-- The state at the end of a run. -/
def after (s : σ) : List ι → σ
  | [] => s
  | i :: rest => after (m s i).1 rest

/-- The inputs of a run with their answers. -/
def transcript (s : σ) : List ι → List (ι × ο)
  | [] => []
  | i :: rest => (i, (m s i).2) :: transcript (m s i).1 rest

theorem after_append (s : σ) (xs ys : List ι) :
    m.after s (xs ++ ys) = m.after (m.after s xs) ys := by
  induction xs generalizing s with
  | nil => rfl
  | cons i rest ih => exact ih (m s i).1

theorem transcript_append (s : σ) (xs ys : List ι) :
    m.transcript s (xs ++ ys) = m.transcript s xs ++ m.transcript (m.after s xs) ys := by
  induction xs generalizing s with
  | nil => rfl
  | cons i rest ih =>
    simp only [List.cons_append, transcript, after]
    rw [ih]

theorem length_transcript (s : σ) (xs : List ι) : (m.transcript s xs).length = xs.length := by
  induction xs generalizing s with
  | nil => rfl
  | cons i rest ih => simp [transcript, ih]

/-- The entry of a transcript at a position: the input there, and what the machine answers to it
in the state that the earlier inputs lead to. -/
theorem getElem?_transcript (s : σ) (xs : List ι) (n : Nat) :
    (m.transcript s xs)[n]? = xs[n]?.map fun i => (i, (m (m.after s (xs.take n)) i).2) := by
  induction xs generalizing s n with
  | nil => simp [transcript]
  | cons i rest ih =>
    cases n with
    | zero => simp [transcript, after]
    | succ n => simpa [transcript, after] using ih (m s i).1 n

/-- After the inputs that come before it, an input stands in the transcript with its answer. -/
theorem getElem?_transcript_append (s : σ) (xs ys : List ι) (i : ι) :
    (m.transcript s (xs ++ i :: ys))[xs.length]? = some (i, (m (m.after s xs) i).2) := by
  rw [getElem?_transcript, List.getElem?_append_right (Nat.le_refl _), List.take_left]
  simp

/-- What stands in a list with one more at the end stood there before, or is the one more. -/
theorem getElem?_snoc {α : Type} {t : List α} {x y : α} {i : Nat} :
    (t ++ [y])[i]? = some x ↔ t[i]? = some x ∨ i = t.length ∧ y = x := by
  rw [List.getElem?_append]
  split
  · next h => simp [Nat.ne_of_lt h]
  · next h =>
    have old : t[i]? = none := by simpa using h
    rw [List.getElem?_singleton, old]
    split
    · next h' =>
      have : i = t.length := by omega
      simp [this]
    · next h' =>
      have : i ≠ t.length := by omega
      simp [this]

theorem after_take_succ (s : σ) {xs : List ι} {n : Nat} {i : ι} (h : xs[n]? = some i) :
    m.after s (xs.take (n + 1)) = (m (m.after s (xs.take n)) i).1 := by
  rw [List.take_add_one, h, after_append]
  rfl

/-- What holds at the start and is kept by every step holds at the end of every run. -/
theorem after_keeps {P : σ → Prop} (step : ∀ s i, P s → P (m s i).1) {s : σ} (start : P s)
    (xs : List ι) : P (m.after s xs) := by
  induction xs generalizing s with
  | nil => exact start
  | cons i rest ih => exact ih (step s i start)

/-- What holds of the empty transcript and is kept when one input is added holds of every run. -/
theorem history {P : List (ι × ο) → σ → Prop} {s : σ} (start : P [] s)
    (step : ∀ t s i, P t s → P (t ++ [(i, (m s i).2)]) (m s i).1) (xs : List ι) :
    P (m.transcript s xs) (m.after s xs) := by
  -- The induction is on the inputs that are left, from any transcript so far.
  have extend : ∀ (xs : List ι) (t : List (ι × ο)) (s : σ), P t s →
      P (t ++ m.transcript s xs) (m.after s xs) := by
    intro xs
    induction xs with
    | nil => intro t s h; simpa [transcript, after] using h
    | cons i rest ih =>
      intro t s h
      have next := ih _ _ (step t s i h)
      rwa [List.append_assoc] at next
  exact extend xs [] s start

/-- Two runs, one of them without some of the inputs, in which the inputs that are left are answered
alike: between them, a relation that the others keep, and from which those that are left follow. -/
theorem filter_transcript {p : ι → Bool} {R : σ → σ → Prop}
    (other : ∀ s s' i, R s s' → p i = false → R (m s i).1 s')
    (own : ∀ s s' i, R s s' → p i = true → R (m s i).1 (m s' i).1 ∧ (m s i).2 = (m s' i).2)
    {s s' : σ} (start : R s s') (xs : List ι) :
    ((m.transcript s xs).filter fun x => p x.1) = m.transcript s' (xs.filter p) := by
  induction xs generalizing s s' with
  | nil => rfl
  | cons i rest ih =>
    cases hi : p i with
    | false => simpa [transcript, hi] using ih (other s s' i start hi)
    | true =>
      obtain ⟨next, answer⟩ := own s s' i start hi
      simpa [transcript, hi, answer] using ih next

end Machine

end PaymentRelay
