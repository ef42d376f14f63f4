import Mathlib.Data.List.Induction
import PaymentRelay.Proofs.Registry.Conservation
import PaymentRelay.Proofs.Registry.Once

/-
  What the sweep takes.

  An entry is stale when its holder has gone, or when its deadline and the grace have passed
  (`isStale_iff`). The sweep takes the stale entries and leaves the others where they were, with
  their slots (`mem_sweep`, `Sound.slot_sweep_of_mem`). Those whose holder has gone count as
  cancelled, be they overdue or not, and the rest as timed out (`counters_swept`). Under the ticket
  of an entry that was taken nothing is found, then or later (`Sound.closed_of_swept`).

  Whose holder has gone is a matter of the run: it went while the entry was there
  (`isAbandoned_iff_forsaken`). No sweep makes a holder go, and what is stale after a long grace is
  stale after a shorter one. So sweeps at one instant add up: after one of them another with no
  shorter grace finds nothing (`sweep_again`), and before one of them another with no shorter grace
  makes no difference (`sweep_sweep`).

  All this is proved of the sweep on a clock that tells every moment. A sweep on a clock with an end
  is the same, unless the grace of an entry whose holder is there ends beyond it
  (`sweep?_eq_some_iff`, `sweep?_eq_none_iff`).
-/

namespace PaymentRelay

/-- The slot, closed if nothing is in it. -/
def Slot.close (s : Slot) : Slot :=
  match s.content with
  | .waiting => { s with content := .closed }
  | _ => s

theorem Slot.close_close (s : Slot) : s.close.close = s.close := by
  obtain ⟨held, content⟩ := s
  cases content <;> rfl

theorem Slot.held_close (s : Slot) : s.close.held = s.held := by
  obtain ⟨held, content⟩ := s
  cases content <;> rfl

namespace Registry

/-- The holder of an entry went while the entry was there. -/
def Forsaken (ops : List Op) (e : Entry) : Prop :=
  ∃ before later, ops = before ++ .drop e.ticket :: later ∧
    e ∈ (perform.after empty before).entries

section
variable {r : Registry} {now : Instant} {grace longer : Span} {e : Entry} {t : Nat}

/-! ## Holders that have gone -/

theorem sound_run (ops : List Op) : (perform.after empty ops).Sound :=
  perform.after_keeps (P := Sound) (fun _ o h => sound_perform h o) sound_empty ops

theorem forsaken_snoc {ops : List Op} {o : Op} :
    Forsaken (ops ++ [o]) e ↔
      Forsaken ops e ∨ o = .drop e.ticket ∧ e ∈ (perform.after empty ops).entries := by
  constructor
  · rintro ⟨before, later, eq, there⟩
    rcases List.eq_nil_or_concat later with rfl | ⟨later, last, rfl⟩
    · obtain ⟨rfl, same⟩ := List.append_inj' eq rfl
      exact .inr ⟨List.singleton_inj.mp same, there⟩
    · rw [List.concat_eq_append, ← List.cons_append, ← List.append_assoc] at eq
      obtain ⟨rfl, -⟩ := List.append_inj' eq rfl
      exact .inl ⟨before, later, rfl, there⟩
  · rintro (⟨before, later, rfl, there⟩ | ⟨rfl, there⟩)
    · exact ⟨before, later ++ [o], by simp, there⟩
    · exact ⟨ops, [], rfl, there⟩

theorem issued_of_forsaken {ops : List Op} (left : Forsaken ops e) :
    e.ticket < (perform.after empty ops).slots.length := by
  obtain ⟨before, later, rfl, there⟩ := left
  have issued := (sound_run before).issued e there
  rw [perform.after_append]
  exact perform.after_keeps (P := fun s => e.ticket < s.slots.length)
    (fun s o h => Nat.lt_of_lt_of_le h (length_perform s o)) issued _

/-- The holder of an entry has gone if it went while the entry was there. -/
theorem isAbandoned_iff_forsaken (ops : List Op) :
    ∀ e ∈ (perform.after empty ops).entries,
      ((perform.after empty ops).isAbandoned e.ticket = true ↔ Forsaken ops e) := by
  -- By the last operation: it adds the entry, or makes its holder go, or does neither.
  induction ops using List.reverseRecOn with
  | nil => exact fun e he => absurd he List.not_mem_nil
  | append_singleton ops o ih =>
    intro e he
    have sound := sound_run ops
    have unissued : ¬ e.ticket < (perform.after empty ops).slots.length → ¬ Forsaken ops e :=
      mt issued_of_forsaken
    have last : perform.after empty (ops ++ [o]) = (perform (perform.after empty ops) o).1 :=
      perform.after_append ..
    rw [forsaken_snoc]
    rw [last] at he ⊢
    generalize perform.after empty ops = r at *
    by_cases old : e ∈ r.entries
    · have issued := sound.issued e old
      by_cases goes : o = .drop e.ticket
      · subst goes
        exact iff_of_true (isAbandoned_drop issued) (.inr ⟨rfl, old⟩)
      · rw [isAbandoned_perform issued goes, ih e old]
        simp [goes]
    · rcases perform_shrinks r o with ⟨c, k, route, d, rfl, free⟩ | ⟨sub, _⟩
      · obtain ⟨new, -⟩ := (mem_register he).resolve_left old
        have held : (r.register c k route d).1.isAbandoned e.ticket = false := by
          simp [register_of_not_isPending free, new, isAbandoned, slot?]
        have unseen : ¬ Forsaken ops e := unissued (by simp [new])
        exact iff_of_false (by simp [perform, held]) (by simp [unseen])
      · exact absurd (sub.subset he) old

/-! ## What is stale -/

theorem isStale_iff :
    r.isStale now grace e = true ↔
      r.isAbandoned e.ticket = true ∨ e.deadline.after grace ≤ now := by
  simp [isStale, isOverdue]

/-- What is stale after a long grace is stale after a shorter one. -/
theorem isOverdue_of_longer (le : grace.nanos ≤ longer.nanos)
    (overdue : isOverdue e now longer = true) : isOverdue e now grace = true := by
  simp only [isOverdue, decide_eq_true_eq] at overdue ⊢
  have passed : e.deadline.nanos + longer.nanos ≤ now.nanos := overdue
  show e.deadline.nanos + grace.nanos ≤ now.nanos
  omega

theorem isStale_of_longer (le : grace.nanos ≤ longer.nanos)
    (stale : r.isStale now longer e = true) : r.isStale now grace e = true := by
  simp only [isStale, Bool.or_eq_true] at stale ⊢
  exact stale.imp_right (isOverdue_of_longer le)

theorem mem_sweep :
    e ∈ (r.sweep now grace).1.entries ↔ e ∈ r.entries ∧ r.isStale now grace e = false := by
  simp [sweep]

/-! ## What the sweep does -/

/-- The slots of stale entries are closed, and no others. -/
theorem slot_sweep :
    (r.sweep now grace).1.slots[t]? =
      if ∃ e ∈ r.entries, r.isStale now grace e = true ∧ e.ticket = t
      then r.slots[t]?.map Slot.close else r.slots[t]? := by
  have closed : (fill r.slots t .closed)[t]? = r.slots[t]?.map Slot.close := by
    simp only [fill, List.getElem?_modify, if_true]
    rfl
  have slot := getElem?_foldl_fill (r.entries.filter (r.isStale now grace)) r.slots t
  simp only [List.mem_filter, and_assoc] at slot
  rw [← closed]
  exact slot

theorem isAbandoned_sweep : (r.sweep now grace).1.isAbandoned t = r.isAbandoned t := by
  have held : ((r.sweep now grace).1.slots[t]?).map Slot.held = r.slots[t]?.map Slot.held := by
    rw [slot_sweep]
    split
    · rw [Option.map_map]
      exact congrArg (Option.map · _) (funext Slot.held_close)
    · rfl
  have gone (r : Registry) : r.isAbandoned t = ((r.slots[t]?.map Slot.held).map not).getD true := by
    unfold isAbandoned slot?
    cases r.slots[t]? <;> rfl
  rw [gone, gone, held]

/-- The sweep makes no entry stale. -/
theorem isStale_sweep (now' : Instant) (grace' : Span) :
    (r.sweep now grace).1.isStale now' grace' e = r.isStale now' grace' e := by
  rw [isStale, isAbandoned_sweep, isStale]

/-- Each entry that is taken is counted once: as cancelled if its holder has gone, overdue or not,
and else as timed out. -/
theorem counters_swept (r : Registry) (now : Instant) (grace : Span) :
    (r.sweep now grace).1.counters = { r.counters with
      cancelled := r.counters.cancelled + r.entries.countP fun e => r.isAbandoned e.ticket
      timeouts := r.counters.timeouts +
        r.entries.countP fun e => !r.isAbandoned e.ticket && isOverdue e now grace } := by
  have abandoned : (fun e => r.isAbandoned e.ticket && r.isStale now grace e) =
      fun e => r.isAbandoned e.ticket := by
    funext e
    simp +contextual [isStale, Bool.and_eq_left_iff_imp]
  have overdue : (fun e => (!r.isAbandoned e.ticket) && r.isStale now grace e) =
      fun e => !r.isAbandoned e.ticket && isOverdue e now grace := by
    funext e
    cases h : r.isAbandoned e.ticket <;> simp [isStale, h]
  simp only [sweep, ← List.countP_eq_length_filter, List.countP_filter, abandoned, overdue]

/-- A sweep that finds nothing stale changes nothing. -/
theorem sweep_of_fresh (h : ∀ e ∈ r.entries, r.isStale now grace e = false) :
    r.sweep now grace = (r, 0) := by
  have stale : r.entries.filter (r.isStale now grace) = [] := by
    rw [List.filter_eq_nil_iff]
    intro e he
    simp [h e he]
  have fresh : (r.entries.filter fun e => !r.isStale now grace e) = r.entries := by
    rw [List.filter_eq_self]
    intro e he
    simp [h e he]
  simp [sweep, stale, fresh]

/-! ## Sweeps at one instant -/

/-- Another sweep whose grace is not shorter finds nothing. -/
theorem sweep_again (le : grace.nanos ≤ longer.nanos) :
    (r.sweep now grace).1.sweep now longer = ((r.sweep now grace).1, 0) := by
  refine sweep_of_fresh fun e he => ?_
  rw [isStale_sweep]
  cases stale : r.isStale now longer e with
  | true => exact absurd (isStale_of_longer le stale) (by simp [(mem_sweep.mp he).2])
  | false => rfl

/-- The entries, those that two sweeps leave. -/
theorem entries_sweep_sweep (le : grace.nanos ≤ longer.nanos) :
    ((r.sweep now longer).1.sweep now grace).1.entries = (r.sweep now grace).1.entries := by
  show (List.filter _ (List.filter _ _)) = _
  rw [List.filter_filter]
  refine List.filter_congr fun e _ => ?_
  rw [isStale_sweep]
  cases stale : r.isStale now longer e with
  | true => simp [isStale_of_longer le stale]
  | false => simp

/-- The slots: what has been closed before is closed once. -/
theorem slots_sweep_sweep (le : grace.nanos ≤ longer.nanos) :
    ((r.sweep now longer).1.sweep now grace).1.slots = (r.sweep now grace).1.slots := by
  refine List.ext_getElem? fun t => ?_
  have either : (∃ e ∈ r.entries, r.isStale now grace e = true ∧ e.ticket = t) ↔
      (∃ e ∈ r.entries, r.isStale now longer e = true ∧ e.ticket = t) ∨
        ∃ e ∈ (r.sweep now longer).1.entries,
          (r.sweep now longer).1.isStale now grace e = true ∧ e.ticket = t := by
    constructor
    · rintro ⟨e, he, stale, ticket⟩
      cases early : r.isStale now longer e with
      | true => exact .inl ⟨e, he, early, ticket⟩
      | false => exact .inr ⟨e, mem_sweep.mpr ⟨he, early⟩, by rwa [isStale_sweep], ticket⟩
    · rintro (⟨e, he, stale, ticket⟩ | ⟨e, he, stale, ticket⟩)
      · exact ⟨e, he, isStale_of_longer le stale, ticket⟩
      · exact ⟨e, (mem_sweep.mp he).1, by rwa [isStale_sweep] at stale, ticket⟩
  simp only [slot_sweep, either]
  split
  · next second =>
    rw [if_pos (Or.inr second)]
    split
    · rw [Option.map_map]
      exact congrArg (Option.map · _) (funext Slot.close_close)
    · rfl
  · next second => simp only [second, or_false]

/-- The counters: what has been taken before is counted once. -/
theorem counters_sweep_sweep (le : grace.nanos ≤ longer.nanos) :
    ((r.sweep now longer).1.sweep now grace).1.counters = (r.sweep now grace).1.counters := by
  -- Nobody who has gone is left, and who was overdue before is overdue.
  have abandoned : (r.sweep now longer).1.entries.countP (fun e => r.isAbandoned e.ticket) = 0 := by
    refine List.countP_eq_zero.mpr fun e he gone => ?_
    have fresh := (mem_sweep.mp he).2
    simp [isStale, gone] at fresh
  have overdue : r.entries.countP (fun e => !r.isAbandoned e.ticket && isOverdue e now grace) =
      r.entries.countP (fun e => !r.isAbandoned e.ticket && isOverdue e now longer) +
        (r.sweep now longer).1.entries.countP
          (fun e => !r.isAbandoned e.ticket && isOverdue e now grace) := by
    have first : (fun e => (!r.isAbandoned e.ticket && isOverdue e now grace) &&
        r.isStale now longer e) =
          fun e => !r.isAbandoned e.ticket && isOverdue e now longer := by
      funext e
      cases gone : r.isAbandoned e.ticket with
      | true => rfl
      | false =>
        cases late : isOverdue e now longer with
        | true => simp [isStale, gone, late, isOverdue_of_longer le late]
        | false => simp [isStale, gone, late]
    rw [List.countP_eq_countP_filter_add r.entries _ (r.isStale now longer), List.countP_filter,
      first]
    rfl
  simp only [counters_swept, isAbandoned_sweep, abandoned, overdue, Nat.add_zero, Nat.add_assoc]

/-- Before a sweep another whose grace is not shorter makes no difference. -/
theorem sweep_sweep (le : grace.nanos ≤ longer.nanos) :
    ((r.sweep now longer).1.sweep now grace).1 = (r.sweep now grace).1 := by
  have ext {a b : Registry} (entries : a.entries = b.entries) (slots : a.slots = b.slots)
      (counters : a.counters = b.counters) : a = b := by
    cases a
    cases b
    simp_all
  exact ext (entries_sweep_sweep le) (slots_sweep_sweep le) (counters_sweep_sweep le)

/-! ## What the clock can tell -/

theorem tells_iff :
    r.tells grace e = true ↔
      r.isAbandoned e.ticket = true ∨ e.deadline.after grace ≤ Instant.latest := by
  rw [tells, Bool.or_eq_true, Option.isSome_iff_ne_none, ne_eq, Instant.after?_eq_none_iff,
    ← Instant.not_le, Classical.not_not]

/-- Where the clock can tell what is stale, the sweep is that of a clock that tells every moment. -/
theorem sweep?_eq_some_iff {x : Registry × Nat} :
    r.sweep? now grace = some x ↔
      (∀ e ∈ r.entries, r.isAbandoned e.ticket = true ∨ e.deadline.after grace ≤ Instant.latest) ∧
        r.sweep now grace = x := by
  simp only [sweep?, Option.ite_none_right_eq_some, List.all_eq_true, tells_iff, Option.some_inj]

/-- The clock cannot tell what is stale if the grace of an entry whose holder is there ends beyond
what it can tell. -/
theorem sweep?_eq_none_iff :
    r.sweep? now grace = none ↔
      ∃ e ∈ r.entries, ¬r.isAbandoned e.ticket = true ∧
        Instant.latest < e.deadline.after grace := by
  have told : r.sweep? now grace = none ↔ ¬∀ e ∈ r.entries, r.tells grace e = true := by
    rw [sweep?, ← List.all_eq_true]
    split <;> simp_all
  rw [told]
  push Not
  simp only [ne_eq, tells_iff, not_or, Instant.not_le]

/-- Whoever is left after a sweep is there. -/
theorem isAbandoned_of_mem_sweep (he : e ∈ (r.sweep now grace).1.entries) :
    r.isAbandoned e.ticket = false := by
  have fresh := (mem_sweep.mp he).2
  rw [isStale, Bool.or_eq_false_iff] at fresh
  exact fresh.1

/-- What the clock could tell before a sweep it can tell after it. -/
theorem sweep?_sweep (told : ∀ e ∈ r.entries,
      r.isAbandoned e.ticket = true ∨ e.deadline.after grace ≤ Instant.latest) :
    (r.sweep now longer).1.sweep? now grace = some ((r.sweep now longer).1.sweep now grace) := by
  refine sweep?_eq_some_iff.mpr ⟨fun e he => ?_, rfl⟩
  rw [isAbandoned_sweep]
  exact told e (mem_sweep.mp he).1

/-! ## Slots -/

/-- What is left alone is left with its slot. -/
theorem Sound.slot_sweep_of_mem (h : r.Sound) (he : e ∈ (r.sweep now grace).1.entries) :
    (r.sweep now grace).1.slot? e.ticket = r.slot? e.ticket := by
  obtain ⟨old, fresh⟩ := mem_sweep.mp he
  have spared : ¬ ∃ d ∈ r.entries, r.isStale now grace d = true ∧ d.ticket = e.ticket := by
    rintro ⟨d, hd, stale, ticket⟩
    rw [h.eq_of_mem hd old (.inr ticket), fresh] at stale
    cases stale
  rw [slot?, slot_sweep, if_neg spared, slot?]

/-- Under the ticket of an entry that is taken nothing is found, then or later. -/
theorem Sound.closed_of_swept (h : r.Sound) (he : e ∈ r.entries)
    (taken : e ∉ (r.sweep now grace).1.entries) (later : List Op) :
    (perform.after (r.sweep now grace).1 later).content e.ticket = .closed := by
  have swept : (r.sweep now grace).1.Sound := sound_perform h (.sweep now grace)
  have issued : e.ticket < (r.sweep now grace).1.slots.length :=
    Nat.lt_of_lt_of_le (h.issued e he) (length_perform r (.sweep now grace))
  have closed : (r.sweep now grace).1.content e.ticket = .closed := by
    have turn := h.turn_sweep (t := e.ticket) now grace (n := 0)
    cases turn with
    | kept entries _ => exact absurd ((entries e rfl).mpr he) taken
    | swept _ _ _ _ content => exact content
  have stays : ((r.sweep now grace).1.upTo later later.length).content e.ticket = .closed :=
    swept.closed_of_closed issued (Nat.zero_le _) closed
  rwa [upTo, List.take_length] at stays

/-! ## The sweep of a run -/

/-- The sweep of a registry, whatever has been done with it and whenever it is. It comes to an end
unless the grace of an entry whose holder is there lies beyond what the clock can tell. Then it has
taken the entries whose holder has gone, and those whose deadline passed the grace ago or earlier,
and no others; what it leaves it leaves with its slot. It says how many it took, and counts those
whose holder has gone as cancelled and the rest as timed out. The slots of what it took were empty,
and nothing ever comes into them. Another sweep at that instant with no shorter grace, where the
clock can tell it, takes nothing after it, and changes nothing before it. -/
theorem sweep_takes_stale (ops : List Op) (now : Instant) (grace : Span) :
    let r := perform.after empty ops
    (∀ e ∈ r.entries, r.isAbandoned e.ticket = true ↔ Forsaken ops e) ∧
      (r.sweep? now grace = none ↔
        ∃ e ∈ r.entries, ¬ Forsaken ops e ∧ Instant.latest < e.deadline.after grace) ∧
      ∀ swept count, r.sweep? now grace = some (swept, count) →
        (∀ e, e ∈ swept.entries ↔
          e ∈ r.entries ∧ ¬ (Forsaken ops e ∨ e.deadline.after grace ≤ now)) ∧
        swept.entries.Sublist r.entries ∧
        (∀ e ∈ swept.entries, swept.slot? e.ticket = r.slot? e.ticket) ∧
        swept.pendingCount + count = r.pendingCount ∧
        swept.counters = { r.counters with
          cancelled := r.counters.cancelled + r.entries.countP fun e => r.isAbandoned e.ticket
          timeouts := r.counters.timeouts + r.entries.countP fun e =>
            !r.isAbandoned e.ticket && e.deadline.after grace ≤ now } ∧
        (∀ e ∈ r.entries, e ∉ swept.entries → r.content e.ticket = .waiting ∧
          ∀ later, (perform.after swept later).content e.ticket = .closed) ∧
        ∀ longer : Span, grace.nanos ≤ longer.nanos →
          (swept.sweep? now longer = none ↔
            ∃ e ∈ swept.entries, Instant.latest < e.deadline.after longer) ∧
          (∀ x, swept.sweep? now longer = some x → x = (swept, 0)) ∧
          ∀ first n, r.sweep? now longer = some (first, n) →
            ∃ m, first.sweep? now grace = some (swept, m) := by
  intro r
  have sound : r.Sound := sound_run ops
  have gone : ∀ e ∈ r.entries, r.isAbandoned e.ticket = true ↔ Forsaken ops e :=
    isAbandoned_iff_forsaken ops
  refine ⟨gone, ?untold, fun swept count told => ?told⟩
  case untold =>
    rw [sweep?_eq_none_iff]
    exact exists_congr fun e => and_congr_right fun he => by rw [gone e he]
  case told =>
    obtain ⟨within, same⟩ := sweep?_eq_some_iff.mp told
    obtain rfl : (r.sweep now grace).1 = swept := congrArg Prod.fst same
    obtain rfl : (r.sweep now grace).2 = count := congrArg Prod.snd same
    obtain ⟨_, _, _, length, _⟩ := counters_sweep r now grace
    refine ⟨fun e => ?taken, List.filter_sublist, fun e he => sound.slot_sweep_of_mem he, length,
      counters_swept r now grace,
      fun e he taken => ⟨sound.waiting e he, sound.closed_of_swept he taken⟩,
      fun longer le => ⟨?again, fun x told => ?nothing, fun first n told => ?before⟩⟩
    case taken =>
      rw [mem_sweep, ← Bool.not_eq_true, isStale_iff]
      exact and_congr_right fun he => by rw [gone e he]
    case again =>
      rw [sweep?_eq_none_iff]
      refine exists_congr fun e => and_congr_right fun he => and_iff_right ?_
      rw [isAbandoned_sweep, isAbandoned_of_mem_sweep he]
      exact Bool.false_ne_true
    case nothing =>
      rw [← (sweep?_eq_some_iff.mp told).2, sweep_again le]
    case before =>
      obtain rfl : (r.sweep now longer).1 = first :=
        congrArg Prod.fst (sweep?_eq_some_iff.mp told).2
      refine ⟨((r.sweep now longer).1.sweep now grace).2, ?_⟩
      rw [sweep?_sweep within, ← sweep_sweep le]

/-- Three calls, of which the first has lost its holder: at the very end of the grace of the second
the sweep takes these two, one as cancelled and one as timed out, and a millisecond is left to the
third. A reply to the second is not found any more, and another sweep finds nothing. A sweep with a
grace that the clock cannot tell does not come to an end. -/
theorem sweep_takes_stale_boundary :
    let r := perform.after empty [.register "c-1" "inv-1" "payment" .start,
      .register "c-2" "inv-1" "payment" .start,
      .register "c-3" "inv-1" "payment" (Instant.start.after (.ofMillis 1)), .drop 0]
    let now := Instant.start.after sweepGrace
    ∃ swept, r.sweep? now sweepGrace = some (swept, 2) ∧
      swept.entries.map (·.correlation) = ["c-3"] ∧ swept.counters = ⟨3, 0, 1, 1, 0⟩ ∧
      (∀ m, (perform.after swept [.resolve m]).content 1 = .closed) ∧
      sweepGrace.nanos ≤ (Span.ofSeconds 10).nanos ∧
      swept.sweep? now (.ofSeconds 10) = some (swept, 0) ∧
      r.sweep? now (.ofSeconds (twoTo 63)) = none := by
  intro r now
  obtain ⟨-, -, sweep⟩ := sweep_takes_stale
    [.register "c-1" "inv-1" "payment" .start, .register "c-2" "inv-1" "payment" .start,
      .register "c-3" "inv-1" "payment" (Instant.start.after (.ofMillis 1)), .drop 0]
    now sweepGrace
  have told : r.sweep? now sweepGrace = some ((r.sweep now sweepGrace).1, 2) :=
    if_pos (by decide +kernel)
  obtain ⟨-, -, -, -, counters, closed, sweeps⟩ := sweep _ 2 told
  have second : (⟨"c-2", 1, "inv-1", "payment", .start⟩ : Entry) ∈ r.entries := by decide +kernel
  have taken : (⟨"c-2", 1, "inv-1", "payment", .start⟩ : Entry) ∉
      (r.sweep now sweepGrace).1.entries := by
    decide +kernel
  have longer : sweepGrace.nanos ≤ (Span.ofSeconds 10).nanos := by decide
  obtain ⟨-, nothing, -⟩ := sweeps _ longer
  refine ⟨_, told, by decide +kernel, counters.trans (by decide +kernel), fun m => ?_, longer, ?_,
    if_neg (by decide +kernel)⟩
  · exact (closed _ second taken).2 [.resolve m]
  · have again : (r.sweep now sweepGrace).1.sweep? now (.ofSeconds 10) =
        some ((r.sweep now sweepGrace).1.sweep now (.ofSeconds 10)) := if_pos (by decide +kernel)
    rw [again]
    exact congrArg some (nothing _ again)

end

end Registry

end PaymentRelay
