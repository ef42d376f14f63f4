import PaymentRelay.Call.Context

/-
  Deadlines of contexts.

  A deadline that is derived is the earlier of the one before and the new limit, so it is the
  earliest of all limits that were set, in whatever order (`Context.earliest_withDeadline`). The
  deadline of a call is the earliest of those and of the end of its own span, if the clock can tell
  where the span ends (`Context.earliest_effectiveDeadline?`).
-/

namespace PaymentRelay

namespace Instant

variable {a b c : Instant} {t t' : Option Instant} {ts ts' : List Instant}

theorem le_refl (a : Instant) : a ≤ a := Int.le_refl _

theorem le_trans (first : a ≤ b) (second : b ≤ c) : a ≤ c := Int.le_trans first second

theorem le_antisymm (first : a ≤ b) (second : b ≤ a) : a = b := by
  obtain ⟨a⟩ := a
  obtain ⟨b⟩ := b
  exact congrArg Instant.mk (Int.le_antisymm first second)

theorem le_of_not_le (h : ¬a ≤ b) : b ≤ a := Int.le_of_lt (Int.not_le.mp h)

/-- The moment, if there is one, is the earliest of a list; there is none if the list is empty. -/
def Earliest (t : Option Instant) (ts : List Instant) : Prop :=
  match t with
  | none => ts = []
  | some t => t ∈ ts ∧ ∀ t' ∈ ts, t ≤ t'

theorem Earliest.congr (earliest : Earliest t ts) (same : ∀ a, a ∈ ts ↔ a ∈ ts') :
    Earliest t ts' := by
  cases t with
  | none =>
    obtain rfl : ts = [] := earliest
    exact List.eq_nil_iff_forall_not_mem.mpr fun a mem => List.not_mem_nil ((same a).mpr mem)
  | some d => exact ⟨(same d).mp earliest.1, fun a mem => earliest.2 a ((same a).mpr mem)⟩

/-- With one more moment, the earliest is the earlier of the two. -/
theorem Earliest.cons (earliest : Earliest t ts) (a : Instant) :
    Earliest (some (t.elim a (·.earlier a))) (a :: ts) := by
  cases t with
  | none =>
    obtain rfl : ts = [] := earliest
    exact ⟨List.mem_cons_self, by simp [le_refl]⟩
  | some d =>
    obtain ⟨mem, least⟩ := earliest
    dsimp only [Option.elim, earlier]
    split
    · next first =>
      exact ⟨List.mem_cons_of_mem _ mem, List.forall_mem_cons.mpr ⟨first, least⟩⟩
    · next later =>
      refine ⟨List.mem_cons_self, List.forall_mem_cons.mpr ⟨le_refl a, fun t' mem' => ?_⟩⟩
      exact le_trans (le_of_not_le later) (least t' mem')

/-- Neither order nor repetition matters for what is earliest. -/
theorem Earliest.unique (earliest : Earliest t ts) (earliest' : Earliest t' ts')
    (same : ∀ a, a ∈ ts ↔ a ∈ ts') : t = t' := by
  cases t with
  | none =>
    obtain rfl : ts = [] := earliest
    cases t' with
    | none => rfl
    | some d' => exact absurd ((same d').mpr earliest'.1) List.not_mem_nil
  | some d =>
    cases t' with
    | none =>
      obtain rfl : ts' = [] := earliest'
      exact absurd ((same d).mp earliest.1) List.not_mem_nil
    | some d' =>
      rw [le_antisymm (earliest.2 d' ((same d').mpr earliest'.1))
        (earliest'.2 d ((same d).mp earliest.1))]

end Instant

namespace Context

variable {c : Context} {ts : List Instant} {now d d' : Instant} {span span' : Span}

theorem earliest_limited (earliest : Instant.Earliest c.deadline ts) (t : Instant) :
    Instant.Earliest (some (c.limited t)) (t :: ts) := by
  have earlier := earliest.cons t
  unfold limited
  cases h : c.deadline <;> rwa [h] at earlier

theorem earliest_withDeadline (earliest : Instant.Earliest c.deadline ts) (t : Instant) :
    Instant.Earliest (c.withDeadline t).deadline (t :: ts) := earliest_limited earliest t

/-- A later limit makes a deadline no earlier. -/
theorem limited_mono (c : Context) {t t' : Instant} (le : t ≤ t') : c.limited t ≤ c.limited t' := by
  unfold limited
  cases c.deadline with
  | none => exact le
  | some d =>
    dsimp only [Instant.earlier]
    split
    · next first =>
      split
      · exact Instant.le_refl d
      · exact Instant.le_trans first le
    · next later =>
      split
      · exact Instant.le_of_not_le later
      · exact le

/-- There is no deadline just where the clock cannot tell the end of the span. -/
theorem effectiveDeadline?_eq_none_iff :
    c.effectiveDeadline? now span = none ↔ Instant.latest < now.after span := by
  rw [effectiveDeadline?, Option.map_eq_none_iff, Instant.after?_eq_none_iff]

theorem effectiveDeadline?_eq_some_iff :
    c.effectiveDeadline? now span = some d ↔
      now.after span ≤ Instant.latest ∧ c.effectiveDeadline now span = d := by
  rw [effectiveDeadline?, Option.map_eq_some_iff]
  constructor
  · rintro ⟨t, told, rfl⟩
    obtain ⟨rfl, le⟩ := Instant.after?_eq_some_iff.mp told
    exact ⟨le, rfl⟩
  · rintro ⟨le, rfl⟩
    exact ⟨_, Instant.after?_eq_some_iff.mpr ⟨rfl, le⟩, rfl⟩

theorem earliest_effectiveDeadline? (earliest : Instant.Earliest c.deadline ts)
    (told : c.effectiveDeadline? now span = some d) :
    Instant.Earliest (some d) (now.after span :: ts) := by
  obtain ⟨-, rfl⟩ := effectiveDeadline?_eq_some_iff.mp told
  exact earliest_limited earliest (now.after span)

/-- A shorter span has a deadline as well, which is no later. -/
theorem effectiveDeadline?_mono (le : span.nanos ≤ span'.nanos)
    (told : c.effectiveDeadline? now span' = some d') :
    ∃ d, c.effectiveDeadline? now span = some d ∧ d ≤ d' := by
  have after : now.after span ≤ now.after span' := by
    show now.nanos + (span.nanos : Int) ≤ now.nanos + span'.nanos
    omega
  obtain ⟨within, rfl⟩ := effectiveDeadline?_eq_some_iff.mp told
  exact ⟨_, effectiveDeadline?_eq_some_iff.mpr ⟨Instant.le_trans after within, rfl⟩,
    limited_mono c after⟩

end Context

end PaymentRelay
