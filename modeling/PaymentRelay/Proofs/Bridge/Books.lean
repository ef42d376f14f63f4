import PaymentRelay.Proofs.Registry.Conservation
import PaymentRelay.Proofs.Bridge.Steady

/-
  What callers see of a run, and what the registry holds and has counted.

  The books of a run are kept from its transcript: who is in flight, and how many calls were
  admitted and how each of them ended (`Books.note`). Whatever happens in step changes the counters
  of the registry as it changes the books (`Kept.kept_beat`), but for two things. A reply is counted
  when it is delivered, and the call returns it later; and a call that is due is counted when its
  entry goes, be it by the call or by a sweeper. When everything has settled neither is under way:
  the registry then has one entry for each call in flight (`Steady.perm_flights`), and the books
  agree with the counters.
-/

namespace PaymentRelay

/-- What callers see of a run. -/
structure Books where
  /-- The calls in flight, with their correlation ids. -/
  inFlight : List (Nat × String)
  /-- The calls that were neither refused as cancelled nor as duplicates. -/
  admitted : Nat
  returned : Nat
  timedOut : Nat
  /-- The calls that ended as cancelled once they were in flight. -/
  cancelled : Nat
  /-- The calls whose message was not published. -/
  unpublished : Nat
  /-- The calls that were given up in flight. -/
  givenUp : Nat

namespace Books

def blank : Books := ⟨[], 0, 0, 0, 0, 0, 0⟩

/-- The call with a number is in flight no more. -/
def close (k : Books) (number : Nat) : Books :=
  { k with inFlight := k.inFlight.filter fun x => x.1 ≠ number }

/-- The books after something has happened. -/
def note (k : Books) : Bridge.Beat × Bridge.Report → Books
  | (.act (.start d fresh), .started (.ok number)) =>
    { k with
      inFlight := k.inFlight ++ [(number, d.correlation fresh)]
      admitted := k.admitted + 1 }
  | (.act (.start ..), .started (.error e)) =>
    if e.isRefusal then k
    else { k with admitted := k.admitted + 1, unpublished := k.unpublished + 1 }
  | (.act (.abandon number), _) =>
    if k.inFlight.any fun x => x.1 = number then
      { k.close number with givenUp := k.givenUp + 1 }
    else k
  | (_, .ended number (.ok _)) => { k.close number with returned := k.returned + 1 }
  | (_, .ended number (.error (.timeout ..))) =>
    { k.close number with timedOut := k.timedOut + 1 }
  | (_, .ended number (.error (.cancelled _))) =>
    { k.close number with cancelled := k.cancelled + 1 }
  | (_, .ended number _) => k.close number
  | _ => k

/-- The books of a run. -/
def ofRun (t : List (Bridge.Beat × Bridge.Report)) : Books := t.foldl note blank

end Books

namespace Bridge

/-- The calls in flight with their correlation ids. -/
def flights (b : Bridge) : List (Nat × String) := b.calls.map fun c => (c.number, c.correlation)

/-- The reply of the call lies in its slot. -/
def isReplied (b : Bridge) (c : Call) : Bool :=
  match b.registry.content c.ticket with
  | .reply _ => true
  | _ => false

/-- How many calls have a reply that they have not returned yet. -/
def replied (b : Bridge) : Nat := b.calls.countP b.isReplied

/-- The books and the bridge agree. -/
structure Kept (k : Books) (b : Bridge) : Prop where
  steady : b.Steady
  reached : ∃ ops, b.registry = Registry.perform.after .empty ops
  inFlight : k.inFlight = b.flights
  admitted : b.registry.counters.registered = k.admitted
  /-- A reply is counted when it is delivered, and returned when its call looks. -/
  returned : b.registry.counters.completed = k.returned + b.replied
  cancelled : b.registry.counters.cancelled = k.cancelled + k.unpublished + k.givenUp
  total : k.admitted =
    k.inFlight.length + k.returned + k.timedOut + k.cancelled + k.unpublished + k.givenUp

section
variable {b b' : Bridge} {c : Call} {k : Books}

/-! ## Calls with a reply -/

/-- A call in flight, and the others. -/
theorem Sound.perm_others (h : b.Sound) (hc : c ∈ b.calls) :
    b.calls.Perm (c :: b.calls.filter fun d => d.number ≠ c.number) := by
  have distinct : b.calls.Nodup := h.distinct.imp fun apart same => apart.1 (by rw [same])
  have others : b.calls.erase c = b.calls.filter fun d => d.number ≠ c.number := by
    rw [distinct.erase_eq_filter]
    refine List.filter_congr fun d hd => ?_
    by_cases same : d = c
    · simp [same]
    · have other : d.number ≠ c.number := fun number => same (h.unique hc d hd number)
      simp [same, other]
  rw [← others]
  exact List.perm_cons_erase hc

theorem isReplied_congr {d : Call} (same : b'.registry.content d.ticket =
    b.registry.content d.ticket) : b'.isReplied d = b.isReplied d := by
  simp only [isReplied, same]

theorem replied_congr (calls : b'.calls = b.calls)
    (same : ∀ d ∈ b.calls, b'.isReplied d = b.isReplied d) : b'.replied = b.replied := by
  rw [replied, calls]
  exact List.countP_congr fun d hd => by rw [same d hd]

/-- A call departs, and the slots of the others are what they were. -/
theorem Sound.replied_depart (h : b.Sound) (hc : c ∈ b.calls) {r : Registry}
    (others : ∀ d ∈ b.calls, d.number ≠ c.number →
      r.content d.ticket = b.registry.content d.ticket) :
    b.replied = (b.depart c r).replied + if b.isReplied c then 1 else 0 := by
  have same : (b.depart c r).replied =
      (b.calls.filter fun d => d.number ≠ c.number).countP b.isReplied := by
    refine List.countP_congr fun d hd => ?_
    have both : d ∈ b.calls ∧ d.number ≠ c.number := by simpa [depart] using hd
    rw [isReplied_congr (b := b)]
    exact (Registry.content_drop _).trans (others d both.1 both.2)
  rw [same, replied, (h.perm_others hc).countP_eq, List.countP_cons]

theorem Sound.length_depart (h : b.Sound) (hc : c ∈ b.calls) (r : Registry) :
    b.flights.length = (b.depart c r).flights.length + 1 := by
  simp only [flights, List.length_map, (h.perm_others hc).length_eq, List.length_cons, depart]

theorem flights_depart (b : Bridge) (c : Call) (r : Registry) :
    (b.depart c r).flights = b.flights.filter fun x => x.1 ≠ c.number := by
  simp [flights, depart, List.filter_map, Function.comp_def]

/-! ## Steps that the books do not tell of -/

/-- A step that the books do not tell of, and that changes the counters no further than the replies
that wait. -/
theorem Kept.same (h : Kept k b) (steady : b'.Steady)
    (reached : ∃ ops, b'.registry = Registry.perform.after .empty ops)
    (flights : b'.flights = b.flights)
    (registered : b'.registry.counters.registered = b.registry.counters.registered)
    (completed : b'.registry.counters.completed + b.replied =
      b.registry.counters.completed + b'.replied)
    (cancelled : b'.registry.counters.cancelled = b.registry.counters.cancelled) : Kept k b' where
  steady := steady
  reached := reached
  inFlight := h.inFlight.trans flights.symm
  admitted := registered.trans h.admitted
  returned := by
    have := h.returned
    omega
  cancelled := cancelled.trans h.cancelled
  total := h.total

theorem Kept.reached_act (h : Kept k b) (a : Act) :
    ∃ ops, (b.act a).1.registry = Registry.perform.after .empty ops := by
  obtain ⟨before, eq⟩ := h.reached
  obtain ⟨ops, eq', _⟩ := h.steady.sound.registry_act a
  exact ⟨before ++ ops, by rw [eq', eq, Registry.perform.after_append]⟩

/-! ## Starts -/

theorem enroll_eq {d : Dial} {fresh : String}
    (hp : b.registry.isPending (d.correlation fresh) = false) :
    b.enroll d fresh =
      { entries := b.registry.entries ++ [⟨d.correlation fresh, b.registry.slots.length, d.channel,
          d.message.route, d.context.effectiveDeadline b.now d.timeout⟩]
        slots := b.registry.slots ++ [⟨true, .waiting⟩]
        counters := { b.registry.counters with
          registered := b.registry.counters.registered + 1 } } := by
  rw [enroll, Registry.register_of_not_isPending hp]

theorem counters_withdraw {d : Dial} {fresh : String}
    (hp : b.registry.isPending (d.correlation fresh) = false) :
    (b.withdraw d fresh).counters = { b.registry.counters with
      registered := b.registry.counters.registered + 1
      cancelled := b.registry.counters.cancelled + 1 } := by
  have pending : (b.enroll d fresh).isPending (d.correlation fresh) = true := by
    rw [enroll_eq hp]
    exact Registry.isPending_iff.mpr
      ⟨_, List.mem_append_right _ (List.mem_singleton_self _), rfl⟩
  show ((b.enroll d fresh).cancel (d.correlation fresh)).1.counters = _
  rw [Registry.cancel, Registry.counters_remove, remove_answer, pending, if_pos rfl, enroll_eq hp]

theorem Kept.kept_start (h : Kept k b) (d : Dial) (fresh : String)
    (ho : b.InStep (.act (.start d fresh))) :
    Kept (k.note (.act (.start d fresh), (b.act (.start d fresh)).2))
      (b.act (.start d fresh)).1 := by
  have steady := h.steady.steady_act ho.inOrder
  have reached := h.reached_act (.start d fresh)
  have held := h.steady.sound.held
  rw [act_start] at steady reached ⊢
  by_cases refused : d.context.isCancelled b.signals = true ∨
      b.registry.isPending (d.correlation fresh) = true
  · obtain ⟨e, refusal, eq⟩ := start_refused refused
    rw [eq]
    simp only [Books.note, refusal, if_true]
    exact h
  · obtain ⟨given, hp⟩ : d.context.isCancelled b.signals = false ∧
        b.registry.isPending (d.correlation fresh) = false := by simpa using refused
    rcases start_admitted given hp with ⟨e, admission, eq⟩ | ⟨peers, published, _, eq⟩ <;>
      rw [eq] at steady reached ⊢
    · simp only [Books.note, admission, Bool.false_eq_true, if_false]
      have counters := counters_withdraw hp
      have replied : replied { b with registry := b.withdraw d fresh } = b.replied :=
        replied_congr rfl fun c hc =>
          isReplied_congr (Registry.content_congr (slot_withdraw hp (held c hc).1))
      refine ⟨steady, reached, h.inFlight, ?_, ?_, ?_, ?_⟩
      · simp only [counters, h.admitted]
      · simp only [counters, h.returned, replied]
      · simp only [counters, h.cancelled]
        omega
      · have := h.total
        dsimp only
        omega
    · have registered : (b.enroll d fresh).counters =
          { b.registry.counters with registered := b.registry.counters.registered + 1 } := by
        rw [enroll_eq hp]
      have replied : replied { b with
          hub := { b.hub with peers, published }
          registry := b.enroll d fresh
          calls := b.calls ++ [b.opened d fresh]
          nextCall := b.nextCall + 1 } = b.replied := by
        -- The slots of the old calls are what they were, and that of the new one is empty.
        have old : b.calls.countP (isReplied { b with registry := b.enroll d fresh }) =
            b.replied := List.countP_congr fun c hc => by
          rw [isReplied_congr (b := b) (Registry.content_congr (slot_enroll (held c hc).1))]
        have empty : isReplied { b with registry := b.enroll d fresh } (b.opened d fresh) =
            false := by
          simp only [isReplied, (content_opened hp).1]
        refine (List.countP_append ..).trans ?_
        rw [List.countP_singleton]
        exact (congrArg₂ (· + ·) old (if_neg (by rw [Bool.not_eq_true]; exact empty)))
      refine ⟨steady, reached, ?_, ?_, ?_, ?_, ?_⟩
      · simp [Books.note, h.inFlight, flights, opened]
      · simp only [Books.note, registered, h.admitted]
      · simp only [Books.note, registered, h.returned, replied]
      · simp only [Books.note, registered, h.cancelled]
      · have := h.total
        simp only [Books.note, List.length_append, List.length_singleton]
        omega

/-! ## Ends -/

/-- A call departs, and is counted as one that has ended: in the counters as in the books, unless a
reply had been counted before. -/
theorem Kept.ends (h : Kept k b) (hc : c ∈ b.calls) {r : Registry} {k' : Books}
    (steady : (b.depart c r).Steady)
    (reached : ∃ ops, (b.depart c r).registry = Registry.perform.after .empty ops)
    (others : ∀ d ∈ b.calls, d.number ≠ c.number →
      r.content d.ticket = b.registry.content d.ticket)
    (inFlight : k'.inFlight = k.inFlight.filter fun x => x.1 ≠ c.number)
    (admitted : k'.admitted = k.admitted)
    (returned : k'.returned = k.returned + if b.isReplied c then 1 else 0)
    (one : k'.returned + k'.timedOut + k'.cancelled + k'.unpublished + k'.givenUp =
      k.returned + k.timedOut + k.cancelled + k.unpublished + k.givenUp + 1)
    (registered : r.counters.registered = b.registry.counters.registered)
    (completed : r.counters.completed = b.registry.counters.completed)
    (cancelled : r.counters.cancelled + (k.cancelled + k.unpublished + k.givenUp) =
      b.registry.counters.cancelled + (k'.cancelled + k'.unpublished + k'.givenUp)) :
    Kept k' (b.depart c r) := by
  have flights : k'.inFlight = (b.depart c r).flights := by
    rw [inFlight, h.inFlight, flights_depart]
  have length : k.inFlight.length = k'.inFlight.length + 1 := by
    rw [flights, h.inFlight, h.steady.sound.length_depart hc r]
  have replied := h.steady.sound.replied_depart hc others
  have before := h.returned
  have closed := h.cancelled
  have total := h.total
  refine ⟨steady, reached, flights, ?_, ?_, ?_, ?_⟩
  · rw [admitted, ← h.admitted]
    exact registered
  · show r.counters.completed = _
    omega
  · show r.counters.cancelled = _
    omega
  · omega

/-- A call that waits removes the entry of its correlation id. -/
theorem Sound.counters_removal (h : b.Sound) (hc : c ∈ b.calls)
    (waits : b.registry.content c.ticket = .waiting) (count : Counters → Counters) :
    (b.registry.remove c.correlation count).1.counters = count b.registry.counters := by
  obtain ⟨e, _, _, _, found⟩ := h.own_entry hc waits
  rw [Registry.remove_of_some found]

theorem isReplied_of_waiting (waits : b.registry.content c.ticket = .waiting) :
    b.isReplied c = false := by
  simp only [isReplied, waits]

theorem Kept.kept_abandon (h : Kept k b) (number : Nat) (ho : b.InStep (.act (.abandon number))) :
    Kept (k.note (.act (.abandon number), (b.act (.abandon number)).2))
      (b.act (.abandon number)).1 := by
  have steady := h.steady.steady_act ho.inOrder
  have reached := h.reached_act (.abandon number)
  have sound := h.steady.sound
  obtain ⟨_, quiet⟩ := ho.inOrder.settled sound rfl
  simp only [act] at steady reached ⊢
  rcases b.inFlight_or number with ⟨c, hc, rfl⟩ | missing
  · have waits := (prospect_eq_none_iff.mp (quiet c hc)).1
    have known : (k.inFlight.any fun x => x.1 = c.number) = true := by
      rw [h.inFlight, List.any_eq_true]
      exact ⟨_, List.mem_map_of_mem hc, by simp⟩
    have gone : b.abandon c.number = b.depart c (b.registry.cancel c.correlation).1 := by
      rw [abandon_of_mem hc (sound.unique hc), sound.stage_of_waiting hc waits]
    have counters : (b.registry.cancel c.correlation).1.counters = _ :=
      sound.counters_removal hc waits _
    rw [gone] at steady reached ⊢
    simp only [Books.note, known, if_true]
    refine h.ends hc steady reached (fun d hd => sound.own_removal hc waits (.inr rfl) hd) rfl rfl
      ?_ ?_ ?_ ?_ ?_
    · simp [isReplied_of_waiting waits, Books.close]
    · simp only [Books.close]
      omega
    · rw [counters]
    · rw [counters]
    · simp only [counters, Books.close]
      omega
  · have unknown : (k.inFlight.any fun x => x.1 = number) = false := by
      rw [h.inFlight, List.any_eq_false]
      intro x hx
      obtain ⟨c, hc, rfl⟩ := List.mem_map.mp hx
      simpa using missing c hc
    rw [abandon_of_not_mem missing]
    simp only [Books.note, unknown, Bool.false_eq_true, if_false]
    exact h

/-- A call that looks and ends. -/
theorem Kept.kept_ending (h : Kept k b) (hc : c ∈ b.calls) {o : Outcome} {r : Registry}
    (ending : Ending b c o r) (branch : Branch) (steady : (b.depart c r).Steady)
    (reached : ∃ ops, (b.depart c r).registry = Registry.perform.after .empty ops) :
    Kept (k.note (.act (.poll c.number branch), .ended c.number o)) (b.depart c r) := by
  have sound := h.steady.sound
  have others := ending.others sound hc
  cases ending with
  | @answered m full =>
    have replied : b.isReplied c = true := by simp only [isReplied, full]
    have counters : (b.registry.take c.ticket).1.counters = b.registry.counters := by
      rw [Registry.take_of_reply full]
    refine h.ends hc steady reached others rfl rfl ?_ ?_ ?_ ?_ ?_
    · rw [replied]
      rfl
    · simp only [Books.note, Books.close]
      omega
    · rw [counters]
    · rw [counters]
    · rw [counters]
      rfl
  | swept closed =>
    have unreplied : b.isReplied c = false := by simp only [isReplied, closed]
    refine h.ends hc steady reached others rfl rfl ?_ ?_ rfl rfl rfl
    · rw [unreplied]
      rfl
    · simp only [Books.note, timedOut, Books.close]
      omega
  | timedOut waits =>
    have counters : (b.registry.expire c.correlation).1.counters = _ :=
      sound.counters_removal hc waits _
    refine h.ends hc steady reached others rfl rfl ?_ ?_ ?_ ?_ ?_
    · rw [isReplied_of_waiting waits]
      rfl
    · simp only [Books.note, timedOut, Books.close]
      omega
    · rw [counters]
    · rw [counters]
    · rw [counters]
      rfl
  | cancelled waits =>
    have counters : (b.registry.cancel c.correlation).1.counters = _ :=
      sound.counters_removal hc waits _
    refine h.ends hc steady reached others rfl rfl ?_ ?_ ?_ ?_ ?_
    · rw [isReplied_of_waiting waits]
      rfl
    · simp only [Books.note, Bridge.cancelled, Books.close]
      omega
    · rw [counters]
    · rw [counters]
    · simp only [counters, Books.note, Bridge.cancelled, Books.close]
      omega

/-- A call that has been overtaken looks once more, and the books do not tell of it. -/
theorem Kept.kept_yield (h : Kept k b) (steady : (b.yieldTo c).Steady)
    (reached : ∃ ops, (b.yieldTo c).registry = Registry.perform.after .empty ops) :
    Kept k (b.yieldTo c) := by
  have stays : (b.yieldTo c).replied = b.replied := by
    simp only [replied, yieldTo, List.countP_map]
    refine List.countP_congr fun d _ => ?_
    simp only [Function.comp_apply]
    split <;> rfl
  refine h.same steady reached ?_ rfl ?_ rfl
  · simp only [flights, yieldTo, List.map_map]
    refine List.map_congr_left fun d _ => ?_
    simp only [Function.comp_apply]
    split <;> rfl
  · rw [stays]
    rfl

theorem Kept.kept_poll (h : Kept k b) (number : Nat) (branch : Branch) :
    Kept (k.note (.act (.poll number branch), (b.act (.poll number branch)).2))
      (b.act (.poll number branch)).1 := by
  have steady := h.steady.steady_poll number branch
  have reached := h.reached_act (.poll number branch)
  rw [act_poll] at reached ⊢
  rw [report_poll]
  rcases b.inFlight_or number with ⟨c, hc, rfl⟩ | missing
  · rcases h.steady.poll_cases hc branch with eq | ⟨_, eq⟩ | ⟨o, r, ending, eq⟩ <;>
      rw [eq] at steady reached ⊢
    · exact h
    · exact h.kept_yield steady reached
    · exact h.kept_ending hc ending branch steady reached
  · rw [poll_of_not_mem missing]
    exact h

/-! ## Replies -/

/-- A reply that is delivered lies in the slot of one call more. -/
theorem Sound.replied_delivered (h : b.Sound) {e : Entry} (he : e ∈ b.registry.entries)
    {m : Message} (calls : b'.calls = b.calls)
    (slots : b'.registry.slots = Registry.fill b.registry.slots e.ticket (.reply m)) :
    b'.replied = b.replied + 1 := by
  obtain ⟨d, hd, ticket, _⟩ := h.owned e he
  have waits := h.registry.waiting e he
  have filled := Registry.content_fill_self slots (h.registry.issued e he) waits
  rw [← ticket] at waits filled
  have others : ∀ c ∈ b.calls.filter (fun c => c.number ≠ d.number),
      b'.isReplied c = b.isReplied c := by
    intro c hc
    obtain ⟨hc, other⟩ : c ∈ b.calls ∧ c.number ≠ d.number := by simpa using hc
    refine isReplied_congr (Registry.content_fill_ne slots ?_)
    rw [← ticket]
    exact fun same => other (by rw [h.eq_of_mem hc hd (.inr same)])
  have after : b'.isReplied d = true := by simp only [isReplied, filled]
  rw [replied, replied, calls, (h.perm_others hd).countP_eq, (h.perm_others hd).countP_eq,
    List.countP_cons, List.countP_cons, after, isReplied_of_waiting waits,
    List.countP_congr fun c hc => by rw [others c hc]]
  rfl

theorem Kept.kept_listen (h : Kept k b) :
    Kept (k.note (.act .listen, (b.act .listen).2)) (b.act .listen).1 := by
  have steady := h.steady.steady_act (a := .listen) (.inl rfl)
  have reached := h.reached_act .listen
  have sound := h.steady.sound
  cases queued : b.unread with
  | nil =>
    have stays : b.act .listen = (b, .silent) := by
      simp only [act, queued, listen_of_nil queued]
    rw [stays]
    exact h
  | cons m rest =>
    have report : (b.act .listen).2 = .heard m (b.registry.resolve m).2 := by
      simp only [act, queued]
    obtain ⟨streams, eq, _⟩ := listen_of_cons queued
    rw [report]
    rw [act_listen, eq] at steady reached ⊢
    show Kept k _
    rcases Registry.resolve_cases b.registry m with ⟨_, _, hr⟩ | ⟨e, he, ⟨_, _, hr⟩ |
      ⟨_, gone, _, _⟩ | ⟨_, _, _, hr⟩⟩
    · rw [hr] at steady reached ⊢
      exact h.same steady reached rfl rfl rfl rfl
    · rw [hr] at steady reached ⊢
      exact h.same steady reached rfl rfl rfl rfl
    · -- The holder of an entry is there.
      obtain ⟨d, hd, ticket, _⟩ := sound.owned e (Registry.mem_of_entry? he).1
      rw [← ticket, (sound.held d hd).2] at gone
      cases gone
    · rw [hr] at steady reached ⊢
      refine h.same steady reached rfl rfl ?_ rfl
      -- The reply is counted, and not returned yet.
      have more : replied { b with
          registry := { b.registry with
            entries := b.registry.without m.correlation
            slots := Registry.fill b.registry.slots e.ticket (.reply m)
            counters := { b.registry.counters with
              completed := b.registry.counters.completed + 1 } }
          hub := { b.hub with streams } } = b.replied + 1 :=
        sound.replied_delivered (Registry.mem_of_entry? he).1 rfl rfl
      rw [Nat.add_assoc, Nat.add_comm 1, ← more]

/-! ## Rounds -/

/-- The sweep counts what it takes as timed out, for no holder of an entry has gone. -/
theorem Kept.kept_sweep (h : Kept k b) : Kept k (b.sweep sweepGrace).1 := by
  have sound := h.steady.sound
  have stays : (b.sweep sweepGrace).1.replied = b.replied := by
    refine replied_congr rfl fun c hc => ?_
    rcases h.steady.content_sweep hc with same | ⟨waits, _, closed⟩
    · exact isReplied_congr same
    · simp only [isReplied, waits, closed]
  have present : (b.registry.entries.filter (b.registry.isStale b.now sweepGrace)).filter
      (fun e => b.registry.isAbandoned e.ticket) = [] := by
    rw [List.filter_eq_nil_iff]
    intro e he
    obtain ⟨c, hc, ticket, _⟩ := sound.owned e (List.mem_of_mem_filter he)
    rw [← ticket, (sound.held c hc).2]
    exact Bool.false_ne_true
  refine h.same h.steady.steady_sweep (h.reached_act (.sweep sweepGrace)) rfl rfl ?_ ?_
  · rw [stays]
    rfl
  · show b.registry.counters.cancelled + List.length _ = _
    rw [present]
    rfl

theorem note_hub (k : Books) (b : Bridge) {a : Act} (ha : a.isHub = true) :
    k.note (.act a, (b.act a).2) = k := by
  cases a with
  | read peer | reply peer m =>
    simp only [act]
    split <;> rfl
  | join | leave | publish | dropHandle => rfl
  | _ => cases ha

/-- Whatever happens in step, the books are kept. -/
theorem Kept.kept_beat (h : Kept k b) {x : Beat} (hx : b.InStep x) :
    Kept (k.note (x, (b.beat x).2)) (b.beat x).1 := by
  cases x with
  | act a =>
    have steady : (b.act a).1.Steady := h.steady.steady_beat hx
    have reached := h.reached_act a
    show Kept (k.note (.act a, (b.act a).2)) (b.act a).1
    by_cases ha : a.isHub = true
    · obtain ⟨hub, eq⟩ := act_hub (b := b) ha
      rw [note_hub k b ha]
      rw [eq] at steady reached ⊢
      exact h.same steady reached rfl rfl rfl rfl
    cases a with
    | start d fresh => exact h.kept_start d fresh hx
    | abandon number => exact h.kept_abandon number hx
    | listen => exact h.kept_listen
    | poll number branch => exact h.kept_poll number branch
    | signal n => exact h.same steady reached rfl rfl rfl rfl
    | tick span => exact h.same steady reached rfl rfl rfl rfl
    | sweep grace =>
      rcases hx with turn | ⟨_, others⟩
      · cases turn
      · exact absurd rfl (others grace)
    | join | leave | read | publish | reply | dropHandle => exact absurd rfl ha
  | hire interval => exact h.same (h.steady.sweepers _) h.reached rfl rfl rfl rfl
  | round =>
    show Kept k _
    refine sweepDue_keeps (P := Kept k) ?_ fun _ => Kept.kept_sweep
    exact h.same (h.steady.sweepers _) h.reached rfl rfl rfl rfl

/-! ## Runs -/

theorem kept_new (capacity limit : Nat) (listening : Bool) :
    Kept .blank (new (.new capacity limit) listening) := by
  have steady := steady_new capacity limit listening
  cases listening <;> exact ⟨steady, ⟨[], rfl⟩, rfl, rfl, rfl, rfl, rfl⟩

theorem kept_after {capacity limit : Nat} {listening : Bool} {beats : List Beat}
    (run : beat.Allows InStep (new (.new capacity limit) listening) beats) :
    Kept (Books.ofRun (beat.transcript (new (.new capacity limit) listening) beats))
      (beat.after (new (.new capacity limit) listening) beats) := by
  refine run.history (Q := fun t b => Kept (Books.ofRun t) b)
    (kept_new capacity limit listening) fun t b x h hx => ?_
  rw [Books.ofRun, List.foldl_append]
  exact h.kept_beat hx

/-- Where all calls wait, there is one entry for each of them, under its correlation id. -/
theorem Steady.perm_flights (h : b.Steady)
    (waits : ∀ c ∈ b.calls, b.registry.content c.ticket = .waiting) :
    (b.registry.entries.map (·.correlation)).Perm (b.flights.map (·.2)) ∧
      (b.flights.map (·.2)).Nodup := by
  have entries : (b.registry.entries.map (·.correlation)).Nodup :=
    List.pairwise_map.mpr (h.sound.registry.distinct.imp And.left)
  have ids : b.flights.map (·.2) = b.calls.map (·.correlation) := by
    simp only [flights, List.map_map, Function.comp_def]
  have calls : (b.calls.map (·.correlation)).Nodup :=
    List.pairwise_map.mpr <| h.sound.distinct.imp_of_mem fun hc hd other same =>
      other.1 (h.apart _ hc _ hd same)
  rw [ids]
  refine ⟨(List.perm_ext_iff_of_nodup entries calls).mpr fun id => ?_, calls⟩
  simp only [List.mem_map]
  constructor
  · rintro ⟨e, he, rfl⟩
    obtain ⟨c, hc, _, correlation, _⟩ := h.sound.owned e he
    exact ⟨c, hc, correlation⟩
  · rintro ⟨c, hc, rfl⟩
    obtain ⟨e, he, _, _, found⟩ := h.sound.own_entry hc (waits c hc)
    exact ⟨e, he, (Registry.mem_of_entry? found).2⟩

/-- In every run in step, whenever everything has settled, the registry has one entry for each call
in flight and no other, and its counters say how many calls were admitted and how each of them
ended. Once all calls have ended nothing is pending. -/
theorem books_agree (capacity limit : Nat) (listening : Bool) (beats : List Beat)
    (run : beat.Allows InStep (new (.new capacity limit) listening) beats)
    (settled : (beat.after (new (.new capacity limit) listening) beats).Settled) :
    let start := new (.new capacity limit) listening
    let r := (beat.after start beats).registry
    let k := Books.ofRun (beat.transcript start beats)
    (r.entries.map (·.correlation)).Perm (k.inFlight.map (·.2)) ∧
      (k.inFlight.map (·.2)).Nodup ∧
      r.counters.registered = k.admitted ∧
      r.counters.completed = k.returned ∧
      r.counters.timeouts = k.timedOut ∧
      r.counters.cancelled = k.cancelled + k.unpublished + k.givenUp ∧
      (k.inFlight = [] → r.pendingCount = 0) := by
  intro start r k
  have kept : Kept k (beat.after start beats) := kept_after run
  generalize hb : beat.after start beats = b at settled kept
  have waits : ∀ c ∈ b.calls, b.registry.content c.ticket = .waiting := fun c hc =>
    (prospect_eq_none_iff.mp ((kept.steady.sound.settled_iff.mp settled).2 c hc)).1
  obtain ⟨perm, distinct⟩ := kept.steady.perm_flights waits
  rw [← kept.inFlight] at perm distinct
  -- No reply is on its way.
  have none : b.replied = 0 := by
    refine List.countP_eq_zero.mpr fun c hc => ?_
    rw [isReplied_of_waiting (waits c hc)]
    exact Bool.false_ne_true
  have pending : b.registry.pendingCount = k.inFlight.length := by
    simpa [Registry.pendingCount] using perm.length_eq
  have timeouts : b.registry.counters.timeouts = k.timedOut := by
    obtain ⟨ops, eq⟩ := kept.reached
    have balance := (Registry.accounts_after ops).balance
    rw [← eq] at balance
    simp only [Counters.ended] at balance
    have admitted := kept.admitted
    have returned := kept.returned
    have cancelled := kept.cancelled
    have total := kept.total
    omega
  have registry : r = b.registry := congrArg Bridge.registry hb
  rw [registry]
  refine ⟨perm, distinct, kept.admitted, ?_, timeouts, kept.cancelled, fun ended => ?_⟩
  · rw [kept.returned, none, Nat.add_zero]
  · rw [pending, ended, List.length_nil]

/-- A call that is given up is counted as cancelled, and nothing is left of it. -/
theorem books_agree_abandoned :
    let m : Message := ⟨"payment", "inv-1", "", "c-1", .empty, .null, .epoch⟩
    let d : Dial := ⟨.background, "inv-1", m, .ofSeconds 10⟩
    let start := new (.new 1 m.size) true
    let beats : List Beat := [.act (.join "inv-1"), .act (.start d ""), .act (.abandon 0)]
    let r := (beat.after start beats).registry
    beat.Allows InStep start beats ∧ (beat.after start beats).Settled ∧
      Books.ofRun (beat.transcript start beats) = ⟨[], 1, 0, 0, 0, 0, 1⟩ ∧
      r.counters.registered = 1 ∧ r.counters.cancelled = 1 ∧ r.pendingCount = 0 := by
  intro m d start beats
  have idle : start.AtRest := atRest_new 1 m.size true
  have sound : start.Sound := sound_new _ _
  obtain ⟨joins, started, waits, _⟩ := idle.rest_call sound d "" rfl rfl
    (by simp [d, m, start, new, Hub.new, Hub.subscribe]) (by decide)
  have sound' := sound_act (sound_act sound (.join d.channel)) (.start d "")
  have run : beat.Allows InStep start beats :=
    ⟨.inr ⟨idle, by simp⟩, .inr ⟨joins, by simp⟩, .inr ⟨waits, by simp⟩, trivial⟩
  have joined : (start.act (.join d.channel)).2 = .joined 1 := by
    simp [act, start, new, Hub.new, Hub.subscribe, Hub.join]
  have told : beat.transcript start beats = [(.act (.join "inv-1"), .joined 1),
      (.act (.start d ""), .started (.ok 0)), (.act (.abandon 0), .silent)] := by
    rw [← joined, ← show _ = Report.started (.ok 0) from started]
    rfl
  have settled : (beat.after start beats).Settled :=
    waits.settled.settled_abandon sound' 0
  have books : Books.ofRun (beat.transcript start beats) = ⟨[], 1, 0, 0, 0, 0, 1⟩ := by
    rw [told]
    rfl
  obtain ⟨_, _, registered, _, _, cancelled, none⟩ := books_agree 1 m.size true beats run settled
  rw [show new (.new 1 m.size) true = start from rfl, books] at registered cancelled none
  refine ⟨run, settled, books, ?_, ?_, ?_⟩
  · rw [registered]
  · simp only [cancelled, Nat.zero_add]
  · rw [none rfl]

end

end Bridge

end PaymentRelay
