import Mathlib.Data.List.Nodup
import PaymentRelay.Proofs.Registry.Turn

/-
  The counters of the registry account for every registration and every reply.

  What one operation adds to the counters is a matter of its answer (`toll`), except for the sweep,
  which ends many registrations at once and counts those whose holder has gone apart from those
  that are overdue (`counters_sweep`). Beside each of them stands how many entries it leaves. An
  entry that goes is counted once, as completed, timed out or cancelled, so that

    registered = pending + completed + timeouts + cancelled

  holds in every sound registry that it held in before (`Sound.balance_perform`). The counters are
  natural numbers: they never wrap.
-/

namespace PaymentRelay

namespace Counters

instance : Add Counters :=
  ⟨fun a b => ⟨a.registered + b.registered, a.completed + b.completed, a.timeouts + b.timeouts,
    a.cancelled + b.cancelled, a.orphaned + b.orphaned⟩⟩

theorem add_def (a b : Counters) : a + b = ⟨a.registered + b.registered, a.completed + b.completed,
    a.timeouts + b.timeouts, a.cancelled + b.cancelled, a.orphaned + b.orphaned⟩ := rfl

theorem add_right_comm (a b c : Counters) : a + b + c = a + c + b := by
  simp only [add_def, Nat.add_right_comm]

/-- How many registrations have ended. -/
def ended (c : Counters) : Nat := c.completed + c.timeouts + c.cancelled

end Counters

namespace Registry

/-- What an operation adds to the counters, with its answer; the sweep apart. -/
def toll : Op → Answer → Counters
  | .register .., .ticket (some _) => ⟨1, 0, 0, 0, 0⟩
  | .resolve _, .resolution .delivered => ⟨0, 1, 0, 0, 0⟩
  | .resolve _, .resolution .callerGone => ⟨0, 0, 0, 1, 0⟩
  | .resolve _, .resolution _ => ⟨0, 0, 0, 0, 1⟩
  | .expire _, .removed true => ⟨0, 0, 1, 0, 0⟩
  | .cancel _, .removed true => ⟨0, 0, 0, 1, 0⟩
  | _, _ => ⟨0, 0, 0, 0, 0⟩

/-- A call was registered. -/
def isAdmission : Op × Answer → Bool
  | (.register .., .ticket (some _)) => true
  | _ => false

/-- A reply was resolved that ended no registration. -/
def isOrphan : Op × Answer → Bool
  | (.resolve _, .resolution .unknown) | (.resolve _, .resolution .wrongChannel) => true
  | _ => false

/-- A reply was resolved and delivered. -/
def isDelivery : Op × Answer → Bool
  | (.resolve _, .resolution .delivered) => true
  | _ => false

section
variable {r : Registry} {c : String} {e : Entry} {o : Op}

/-! ## Entries that go -/

/-- Without the correlation id of an entry there is one entry less. -/
theorem Sound.length_without (h : r.Sound) (he : r.entry? c = some e) :
    (r.without c).length + 1 = r.entries.length := by
  obtain ⟨hm, hc⟩ := mem_of_entry? he
  have distinct : (r.entries.map (·.correlation)).Nodup :=
    List.pairwise_map.mpr (h.distinct.imp And.left)
  have once : r.entries.countP (fun e => e.correlation == c) = 1 := by
    have := List.count_eq_one_of_mem distinct (List.mem_map_of_mem hm)
    rwa [hc, List.count, List.countP_map] at this
  have split := List.length_eq_countP_add_countP (fun e : Entry => e.correlation == c)
    (l := r.entries)
  rw [once, List.countP_eq_length_filter] at split
  simp only [without, beq_iff_eq, ne_eq] at split ⊢
  omega

/-- The sweep counts each entry that it takes once. -/
theorem counters_sweep (r : Registry) (now : Instant) (grace : Span) :
    ∃ abandoned overdue, abandoned + overdue = (r.sweep now grace).2 ∧
      (r.sweep now grace).1.entries.length + (r.sweep now grace).2 = r.entries.length ∧
      (r.sweep now grace).1.counters = r.counters + ⟨0, 0, overdue, abandoned, 0⟩ := by
  refine ⟨_, _, ?_, ?_, rfl⟩
  · exact (List.length_eq_length_filter_add _).symm
  · rw [Nat.add_comm]
    exact (List.length_eq_length_filter_add _).symm

/-! ## Operations -/

theorem counters_remove {count : Counters → Counters} :
    (r.remove c count).1.counters =
      if (r.remove c count).2 then count r.counters else r.counters := by
  cases he : r.entry? c with
  | none => simp [remove_of_none he]
  | some e => simp [remove_of_some he]

/-- Every operation but the sweep adds its toll to the counters. -/
theorem counters_perform (ho : ∀ now grace, o ≠ .sweep now grace) :
    (r.perform o).1.counters = r.counters + toll o (r.perform o).2 := by
  cases o with
  | register c k route d =>
    cases hp : r.isPending c with
    | true => simp [perform, register_of_isPending hp, toll, Counters.add_def]
    | false => simp [perform, register_of_not_isPending hp, toll, Counters.add_def]
  | resolve m =>
    simp only [perform]
    rcases resolve_cases r m with ⟨_, answer, hr⟩ | ⟨_, _, ⟨_, answer, hr⟩ | ⟨_, _, answer, hr⟩ |
      ⟨_, _, answer, hr⟩⟩ <;> rw [answer, hr] <;> rfl
  | expire c | cancel c =>
    simp only [perform, expire, cancel, counters_remove]
    cases (r.remove c _).2 <;> rfl
  | sweep now grace => exact absurd rfl (ho now grace)
  | take t =>
    simp only [perform, take]
    split <;> rfl
  | drop t => rfl

/-- A removal that counts one that has ended keeps the balance. -/
theorem Sound.balance_remove (h : r.Sound) {count : Counters → Counters}
    (one : ∀ n, (count n).ended = n.ended + 1 ∧ (count n).registered = n.registered) :
    (r.remove c count).1.pendingCount + (r.remove c count).1.counters.ended +
        r.counters.registered =
      r.pendingCount + r.counters.ended + (r.remove c count).1.counters.registered := by
  unfold pendingCount
  cases he : r.entry? c with
  | none => simp only [remove_of_none he]
  | some e =>
    have less := h.length_without he
    simp only [remove_of_some he, one]
    omega

/-- An operation registers a call, ends some, or neither; the counters keep step. -/
theorem Sound.balance_perform (h : r.Sound) (o : Op) :
    (r.perform o).1.pendingCount + (r.perform o).1.counters.ended + r.counters.registered =
      r.pendingCount + r.counters.ended + (r.perform o).1.counters.registered := by
  cases o with
  | register c k route d =>
    cases hp : r.isPending c with
    | true => simp only [perform, register_of_isPending hp]
    | false =>
      simp only [perform, register_of_not_isPending hp, pendingCount, Counters.ended,
        List.length_append, List.length_singleton]
      omega
  | resolve m =>
    simp only [perform]
    -- A reply that finds the call of its id on its channel ends it, whoever is there to take it.
    rcases resolve_cases r m with ⟨_, _, hr⟩ | ⟨e, he, ⟨_, _, hr⟩ | ⟨_, _, _, hr⟩ | ⟨_, _, _, hr⟩⟩
      <;> rw [hr]
    · rfl
    · rfl
    all_goals
      have less := h.length_without he
      simp only [pendingCount, Counters.ended]
      omega
  | expire c | cancel c =>
    simp only [perform, expire, cancel]
    refine h.balance_remove fun n => ?_
    constructor
    · simp only [Counters.ended]
      omega
    · rfl
  | sweep now grace =>
    obtain ⟨abandoned, overdue, split, entries, counters⟩ := counters_sweep r now grace
    simp only [perform, counters, Counters.add_def, pendingCount, Counters.ended]
    omega
  | take t =>
    simp only [perform, take]
    split <;> rfl
  | drop t => rfl

theorem toll_eq (o : Op) (a : Answer) :
    (toll o a).registered = (if isAdmission (o, a) then 1 else 0) ∧
      (toll o a).completed = (if isDelivery (o, a) then 1 else 0) ∧
      (toll o a).orphaned = if isOrphan (o, a) then 1 else 0 := by
  cases o with
  | register =>
    cases a with
    | ticket t => cases t <;> exact ⟨rfl, rfl, rfl⟩
    | _ => exact ⟨rfl, rfl, rfl⟩
  | resolve =>
    cases a with
    | resolution x => cases x <;> exact ⟨rfl, rfl, rfl⟩
    | _ => exact ⟨rfl, rfl, rfl⟩
  | expire | cancel =>
    cases a with
    | removed found => cases found <;> exact ⟨rfl, rfl, rfl⟩
    | _ => exact ⟨rfl, rfl, rfl⟩
  | _ => exact ⟨rfl, rfl, rfl⟩

/-- Calls, deliveries and orphans are counted one by one, also where the sweep is at work. -/
theorem tallies_perform (r : Registry) (o : Op) :
    let x := (o, (r.perform o).2)
    (r.perform o).1.counters.registered =
        r.counters.registered + (if isAdmission x then 1 else 0) ∧
      (r.perform o).1.counters.completed =
        r.counters.completed + (if isDelivery x then 1 else 0) ∧
      (r.perform o).1.counters.orphaned = r.counters.orphaned + if isOrphan x then 1 else 0 := by
  by_cases swept : ∃ now grace, o = .sweep now grace
  · obtain ⟨now, grace, rfl⟩ := swept
    exact ⟨rfl, rfl, rfl⟩
  · have counters := counters_perform (r := r) fun now grace h => swept ⟨now, grace, h⟩
    obtain ⟨registered, completed, orphaned⟩ := toll_eq o (r.perform o).2
    simp only [counters, Counters.add_def, registered, completed, orphaned, and_self]

/-! ## Runs -/

/-- What the counters say at the end of a run. -/
structure Accounts (t : List (Op × Answer)) (r : Registry) : Prop where
  sound : r.Sound
  balance : r.counters.registered = r.pendingCount + r.counters.ended
  registered : r.counters.registered = t.countP isAdmission
  completed : r.counters.completed = t.countP isDelivery
  orphaned : r.counters.orphaned = t.countP isOrphan

theorem accounts_perform {t : List (Op × Answer)} (h : Accounts t r) (o : Op) :
    Accounts (t ++ [(o, (r.perform o).2)]) (r.perform o).1 := by
  obtain ⟨registered, completed, orphaned⟩ := tallies_perform r o
  have balance := h.sound.balance_perform o
  have kept := h.balance
  refine ⟨sound_perform h.sound o, ?_, ?_, ?_, ?_⟩
  · omega
  · rw [List.countP_append, List.countP_singleton, ← h.registered, registered]
  · rw [List.countP_append, List.countP_singleton, ← h.completed, completed]
  · rw [List.countP_append, List.countP_singleton, ← h.orphaned, orphaned]

theorem accounts_after (ops : List Op) :
    Accounts (perform.transcript empty ops) (perform.after empty ops) :=
  perform.history (P := Accounts) ⟨sound_empty, rfl, rfl, rfl, rfl⟩
    (fun _ _ o h => accounts_perform h o) ops

/-- In every run from an empty registry, every call that was registered is pending or has ended,
and is counted once. Completed are those that a reply was delivered to, orphans the replies that
ended none; a reply that ends none changes nothing but the count of orphans. -/
theorem registrations_conserved (ops : List Op) :
    let r := perform.after empty ops
    let t := perform.transcript empty ops
    r.counters.registered =
        r.pendingCount + r.counters.completed + r.counters.timeouts + r.counters.cancelled ∧
      r.counters.registered = t.countP isAdmission ∧
      r.counters.completed = t.countP isDelivery ∧
      r.counters.orphaned = t.countP isOrphan ∧
      ∀ m, (r.resolve m).2 = .unknown ∨ (r.resolve m).2 = .wrongChannel →
        (r.resolve m).1 =
          { r with counters := { r.counters with orphaned := r.counters.orphaned + 1 } } := by
  intro r t
  have accounts : Accounts t r := accounts_after ops
  have balance := accounts.balance
  refine ⟨?_, accounts.registered, accounts.completed, accounts.orphaned, ?_⟩
  · simp only [Counters.ended] at balance
    omega
  · intro m answer
    rcases resolve_cases r m with ⟨_, _, hr⟩ | ⟨_, _, ⟨_, _, hr⟩ | ⟨_, _, hans, _⟩ |
      ⟨_, _, hans, _⟩⟩
    · exact hr
    · exact hr
    · simp [hans] at answer
    · simp [hans] at answer

/-- Three calls, one of them answered and one given up: a reply to the third on another channel is
an orphan, and the third is still there. -/
theorem registrations_conserved_stray :
    let m : Message := { Message.new "payment.ack" "inv-1" .epoch with correlation := "c-1" }
    let stray : Message := { m with correlation := "c-3", channel := "inv-9" }
    let r := perform.after empty [.register "c-1" "inv-1" "payment" .start,
      .register "c-2" "inv-1" "payment" .start, .register "c-3" "inv-1" "payment" .start,
      .resolve m, .cancel "c-2", .resolve m]
    r.counters = ⟨3, 1, 0, 1, 1⟩ ∧ r.pendingCount = 1 ∧ (r.resolve stray).2 = .wrongChannel ∧
      (r.resolve stray).1.counters = ⟨3, 1, 0, 1, 2⟩ := by
  intro m stray r
  have counters : r.counters = ⟨3, 1, 0, 1, 1⟩ := by decide +kernel
  have answer : (r.resolve stray).2 = .wrongChannel := by decide +kernel
  have same := (registrations_conserved [.register "c-1" "inv-1" "payment" .start,
    .register "c-2" "inv-1" "payment" .start, .register "c-3" "inv-1" "payment" .start,
    .resolve m, .cancel "c-2", .resolve m]).2.2.2.2 stray (.inr answer)
  refine ⟨counters, by decide +kernel, answer, ?_⟩
  rw [same, counters]

end

end Registry

end PaymentRelay
