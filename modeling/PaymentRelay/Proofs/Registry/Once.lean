import PaymentRelay.Proofs.Registry.Turn

/-
  Every registration is resolved at most once.

  A registration gets an entry and a ticket of its own, and `Once` is what a run of operations can
  make of it, whatever the run does with other registrations and however often it uses the same
  correlation id again: it ends at most once, by an operation that says so in its answer
  (`Ending`); under its ticket at most one message is found, one that was delivered to it; and
  once it has ended it is never there again, and nothing new ever comes under its ticket.

  Each of these is followed along the run from what single operations mean (`Turn`): what is found
  under a ticket was delivered to it (`delivered_of_content`), what was delivered stays until it is
  taken (`kept_until_taken`), and a slot that has been closed stays closed (`closed_of_closed`).
-/

namespace PaymentRelay

namespace Registry

/-- The registry before the operation at a position of a run. -/
def upTo (r : Registry) (ops : List Op) (i : Nat) : Registry := perform.after r (ops.take i)

/-- The operation at a position of a run, with its answer. -/
def step? (r : Registry) (ops : List Op) (i : Nat) : Option (Op × Answer) :=
  (perform.transcript r ops)[i]?

/-- The operation at a position ends the registration with a ticket. -/
def EndsAt (r : Registry) (ops : List Op) (t i : Nat) : Prop :=
  i < ops.length ∧ (r.upTo ops i).Live t ∧ ¬ (r.upTo ops (i + 1)).Live t

/-- The holder of a ticket takes a message at a position. -/
def YieldsAt (r : Registry) (ops : List Op) (t i : Nat) (m : Message) : Prop :=
  r.step? ops i = some (.take t, .found (.reply m))

/-- A message is delivered at a position, while an entry is there that has its correlation id and
its channel. -/
def DeliversAt (r : Registry) (ops : List Op) (e : Entry) (i : Nat) (m : Message) : Prop :=
  r.step? ops i = some (.resolve m, .resolution .delivered) ∧ (r.upTo ops i).Live e.ticket ∧
    m.correlation = e.correlation ∧ m.channel = e.channel

/-- The operations and answers that end the registration of an entry. -/
inductive Ending (r : Registry) (e : Entry) : Op → Answer → Prop
  | delivered {m : Message} (correlation : m.correlation = e.correlation)
      (channel : m.channel = e.channel) : Ending r e (.resolve m) (.resolution .delivered)
  | callerGone {m : Message} (correlation : m.correlation = e.correlation)
      (channel : m.channel = e.channel) : Ending r e (.resolve m) (.resolution .callerGone)
  | expired : Ending r e (.expire e.correlation) (.removed true)
  | cancelled : Ending r e (.cancel e.correlation) (.removed true)
  | swept {now : Instant} {grace : Span} {count : Nat} (stale : r.isStale now grace e = true) :
      Ending r e (.sweep now grace) (.swept count)

/-- What a run of operations makes of the registration of an entry. -/
structure Once (r : Registry) (e : Entry) (ops : List Op) : Prop where
  /-- It ends at most once. -/
  ends_once : ∀ i j, r.EndsAt ops e.ticket i → r.EndsAt ops e.ticket j → i = j
  /-- While it is there, it is ended by the operations that say so, and by no other. -/
  ends_iff : ∀ i o a, r.step? ops i = some (o, a) → (r.upTo ops i).Live e.ticket →
    (¬ (r.upTo ops (i + 1)).Live e.ticket ↔ Ending (r.upTo ops i) e o a)
  /-- At most one message is found under its ticket, and that once. -/
  yields_once : ∀ i j m m', r.YieldsAt ops e.ticket i m → r.YieldsAt ops e.ticket j m' →
    i = j ∧ m = m'
  /-- A message is found under its ticket, or is there to be found, exactly if it was delivered
  while the registration was there, with its correlation id and on its channel. -/
  yields_iff : ∀ n m, n ≤ ops.length →
    ((∃ i < n, r.YieldsAt ops e.ticket i m) ∨ (r.upTo ops n).content e.ticket = .reply m ↔
      ∃ i < n, r.DeliversAt ops e i m)
  /-- A message that is there to be found is what the holder finds, and nothing else is. -/
  found_iff : ∀ n m, ((r.upTo ops n).perform (.take e.ticket)).2 = .found (.reply m) ↔
    (r.upTo ops n).content e.ticket = .reply m
  /-- Once it has ended it is never there again. -/
  never_revived : ∀ i j, i ≤ j → ¬ (r.upTo ops i).Live e.ticket → ¬ (r.upTo ops j).Live e.ticket
  /-- Once it has ended nothing new comes under its ticket. -/
  nothing_more : ∀ i j m, i ≤ j → ¬ (r.upTo ops i).Live e.ticket →
    (r.upTo ops j).content e.ticket = .reply m → (r.upTo ops i).content e.ticket = .reply m

/-! ## One operation -/

section
variable {r : Registry} {e : Entry} {t : Nat} {o : Op} {a : Answer}

/-- Nothing new comes under the ticket of a registration that has ended. -/
theorem Sound.content_of_not_live (h : r.Sound) (ht : t < r.slots.length) (gone : ¬ r.Live t)
    {m : Message} (hm : (r.perform o).1.content t = .reply m) : r.content t = .reply m := by
  rcases ((h.turn ht o).of_not_live gone).2 with content | ⟨_, _, _, _, closed⟩
  · exact content.symm.trans hm
  · rw [closed] at hm
    cases hm

/-- An entry is ended by the operations that say so, and by no other. -/
theorem Sound.ending_iff (h : r.Sound) (he : e ∈ r.entries) (ha : (r.perform o).2 = a) :
    ¬ (r.perform o).1.Live e.ticket ↔ Ending r e o a := by
  have found := h.entry?_of_mem he
  constructor
  · intro gone
    have turn := h.turn (h.issued e he) o
    rw [ha] at turn
    cases turn with
    | kept entries _ => exact absurd ⟨e, (entries e rfl).mpr he, rfl⟩ gone
    | taken entries _ _ => exact absurd ⟨e, (entries e rfl).mpr he, rfl⟩ gone
    | delivered mem ticket correlation channel =>
      rw [h.eq_of_mem mem he (.inr ticket)] at correlation channel
      exact .delivered correlation channel
    | lost mem ticket correlation channel =>
      rw [h.eq_of_mem mem he (.inr ticket)] at correlation channel
      exact .callerGone correlation channel
    | expired mem ticket =>
      rw [h.eq_of_mem mem he (.inr ticket)]
      exact .expired
    | cancelled mem ticket =>
      rw [h.eq_of_mem mem he (.inr ticket)]
      exact .cancelled
    | swept mem ticket stale =>
      rw [h.eq_of_mem mem he (.inr ticket)] at stale
      exact .swept stale
  · intro ending
    cases ending with
    | @delivered m correlation _ | @callerGone m correlation _ =>
      have answer : (r.resolve m).2 = .delivered ∨ (r.resolve m).2 = .callerGone := by
        simp only [perform, Answer.resolution.injEq] at ha
        simp [ha]
      rcases resolve_cases r m with ⟨_, hans, _⟩ | ⟨x, hx, ⟨_, hans, _⟩ | ⟨_, _, _, hr⟩ |
        ⟨_, _, _, hr⟩⟩
      · simp [hans] at answer
      · simp [hans] at answer
      all_goals
        rw [correlation, found, Option.some_inj] at hx
        subst hx
        simp only [perform, hr, correlation]
        exact h.not_live_without found
    | expired | cancelled =>
      simp only [perform, expire, cancel, remove_of_some found]
      exact h.not_live_without found
    | swept stale =>
      rintro ⟨x, hx, hxt⟩
      obtain ⟨hxm, hxs⟩ := List.mem_filter.mp hx
      rw [h.eq_of_mem hxm he (.inr hxt), stale] at hxs
      cases hxs

/-- The holder of a ticket finds the message that is in its slot. -/
theorem found_take_iff {m : Message} :
    (r.perform (.take t)).2 = .found (.reply m) ↔ r.content t = .reply m := by
  simp only [perform, Answer.found.injEq]
  by_cases full : ∃ m', r.content t = .reply m'
  · obtain ⟨m', content⟩ := full
    rw [take_of_reply content, content]
  · rw [take_of_not_reply fun m' content => full ⟨m', content⟩]

/-- A closed slot stays closed. -/
theorem Sound.closed_perform (h : r.Sound) (ht : t < r.slots.length)
    (hc : r.content t = .closed) : (r.perform o).1.content t = .closed := by
  have gone : ¬ r.Live t := h.not_live_of_content (by simp [hc])
  rcases ((h.turn ht o).of_not_live gone).2 with content | ⟨_, _, _, full, _⟩
  · exact content.trans hc
  · rw [hc] at full
    cases full

end

/-! ## Runs -/

section
variable {r : Registry} {e : Entry} {ops : List Op} {t : Nat}

theorem sound_upTo (h : r.Sound) (ops : List Op) (n : Nat) : (r.upTo ops n).Sound :=
  perform.after_keeps (P := Sound) (fun _ o hs => sound_perform hs o) h _

theorem length_upTo (r : Registry) (ops : List Op) (n : Nat) :
    r.slots.length ≤ (r.upTo ops n).slots.length :=
  perform.after_keeps (P := fun s => r.slots.length ≤ s.slots.length)
    (fun s o hs => Nat.le_trans hs (length_perform s o)) (Nat.le_refl _) _

/-- An operation answers in the state that it finds, and leads to the next one. -/
theorem step?_eq {i : Nat} {o : Op} {a : Answer} (h : r.step? ops i = some (o, a)) :
    i < ops.length ∧ ((r.upTo ops i).perform o).2 = a ∧
      r.upTo ops (i + 1) = ((r.upTo ops i).perform o).1 := by
  rw [ step?, perform.getElem?_transcript] at h
  cases ho : ops[i]? with
  | none => simp [ho] at h
  | some x =>
    simp only [ho, Option.map_some, Option.some.injEq, Prod.mk.injEq] at h
    obtain ⟨rfl, rfl⟩ := h
    exact ⟨(List.getElem?_eq_some_iff.mp ho).1, rfl, perform.after_take_succ r ho⟩

/-- One position further is one operation further, or the run is over. -/
theorem upTo_succ (r : Registry) (ops : List Op) (n : Nat) :
    (∃ o a, r.step? ops n = some (o, a)) ∨ r.upTo ops (n + 1) = r.upTo ops n := by
  cases ho : ops[n]? with
  | some o =>
    left
    exact ⟨o, _, by rw [ step?, perform.getElem?_transcript, ho]; rfl⟩
  | none =>
    right
    rw [Registry.upTo, Registry.upTo, List.take_add_one, ho, Option.toList_none, List.append_nil]

/-- What an operation keeps for a ticket is kept from any position of a run to any later one. -/
theorem upTo_keeps {P : Registry → Prop}
    (step : ∀ s o, s.Sound → t < s.slots.length → P s → P (s.perform o).1) (h : r.Sound)
    (ht : t < r.slots.length) {i j : Nat} (hij : i ≤ j) (hi : P (r.upTo ops i)) :
    P (r.upTo ops j) := by
  induction hij with
  | refl => exact hi
  | @step n _ ih =>
    rcases upTo_succ r ops n with ⟨o, a, ho⟩ | same
    · rw [(step?_eq ho).2.2]
      exact step _ o (sound_upTo h ops n) (Nat.lt_of_lt_of_le ht (length_upTo r ops n)) ih
    · rwa [same]

theorem Sound.never_live (h : r.Sound) (ht : t < r.slots.length) {i j : Nat} (hij : i ≤ j)
    (gone : ¬ (r.upTo ops i).Live t) : ¬ (r.upTo ops j).Live t :=
  upTo_keeps (P := fun s => ¬ s.Live t) (fun _ _ hs hts hg => hs.not_live_perform hts hg _)
    h ht hij gone

theorem Sound.closed_of_closed (h : r.Sound) (ht : t < r.slots.length) {i j : Nat} (hij : i ≤ j)
    (hc : (r.upTo ops i).content t = .closed) : (r.upTo ops j).content t = .closed :=
  upTo_keeps (P := fun s => s.content t = .closed) (fun _ _ hs hts hs' => hs.closed_perform hts hs')
    h ht hij hc

/-- An entry stays as it is for as long as its registration is there. -/
theorem Sound.mem_upTo (h : r.Sound) (he : e ∈ r.entries) {n : Nat}
    (live : (r.upTo ops n).Live e.ticket) : e ∈ (r.upTo ops n).entries := by
  have step : ∀ (s : Registry) (o : Op), s.Sound → e.ticket < s.slots.length →
      (s.Live e.ticket → e ∈ s.entries) →
      (s.perform o).1.Live e.ticket → e ∈ (s.perform o).1.entries := by
    intro s o hs hts mem live'
    have alive : s.Live e.ticket := Classical.byContradiction fun gone =>
      hs.not_live_perform hts gone o live'
    exact (((hs.turn hts o).of_live live').1 e rfl).mpr (mem alive)
  exact upTo_keeps (P := fun s => s.Live e.ticket → e ∈ s.entries) step h (h.issued e he)
    (Nat.zero_le n) (fun _ => he) live

/-- A message that is taken was in the slot, and the slot is closed after it. -/
theorem content_of_yieldsAt (h : r.Sound) (he : e ∈ r.entries) {i : Nat} {m : Message}
    (hy : r.YieldsAt ops e.ticket i m) :
    (r.upTo ops i).content e.ticket = .reply m ∧
      (r.upTo ops (i + 1)).content e.ticket = .closed := by
  obtain ⟨_, ha, next⟩ := step?_eq hy
  have ht := Nat.lt_of_lt_of_le (h.issued e he) (length_upTo r ops i)
  have full : (r.upTo ops i).content e.ticket = .reply m := found_take_iff.mp ha
  refine ⟨full, ?_⟩
  rw [next]
  simp only [perform, take_of_reply full]
  simp [content, slot?, List.getElem?_eq_getElem ht]

/-- A message that is delivered ends the registration and is in the slot after it. -/
theorem content_of_deliversAt (h : r.Sound) (he : e ∈ r.entries) {i : Nat} {m : Message}
    (hd : r.DeliversAt ops e i m) : (r.upTo ops (i + 1)).content e.ticket = .reply m := by
  obtain ⟨step, live, correlation, channel⟩ := hd
  obtain ⟨_, ha, next⟩ := step?_eq step
  have hs := sound_upTo h ops i
  have hm := h.mem_upTo he live
  have gone := (hs.ending_iff hm ha).mpr (.delivered correlation channel)
  have turn := hs.turn (hs.issued e hm) (.resolve m)
  rw [ha] at turn
  rw [next]
  cases turn with
  | kept entries _ => exact absurd ⟨e, (entries e rfl).mpr hm, rfl⟩ gone
  | delivered _ _ _ _ _ content => exact content

/-- What is in the slot of a registration was delivered to it. -/
theorem delivered_of_content (h : r.Sound) (he : e ∈ r.entries) {n : Nat} {m : Message}
    (hc : (r.upTo ops n).content e.ticket = .reply m) : ∃ i < n, r.DeliversAt ops e i m := by
  induction n with
  | zero =>
    rw [show r.upTo ops 0 = r from rfl, h.waiting e he] at hc
    cases hc
  | succ n ih =>
    rcases upTo_succ r ops n with ⟨o, a, ho⟩ | same
    · obtain ⟨_, ha, next⟩ := step?_eq ho
      have hs := sound_upTo h ops n
      have turn := hs.turn (Nat.lt_of_lt_of_le (h.issued e he) (length_upTo r ops n)) o
      rw [ha, ← next] at turn
      -- Only a delivery brings a message; if the operation is none, the message was there before.
      cases turn with
      | kept _ content =>
        obtain ⟨i, hi, hd⟩ := ih (content.symm.trans hc)
        exact ⟨i, Nat.lt_succ_of_lt hi, hd⟩
      | taken _ _ content => rw [content] at hc; cases hc
      | delivered mem ticket correlation channel _ content =>
        rw [content, Content.reply.injEq] at hc
        subst hc
        have live : (r.upTo ops n).Live e.ticket := ⟨_, mem, ticket⟩
        rw [hs.eq_of_mem mem (h.mem_upTo he live) (.inr ticket)] at correlation channel
        exact ⟨n, Nat.lt_succ_self n, ho, live, correlation, channel⟩
      | lost mem ticket _ _ _ _ content =>
        rw [content, ← ticket, hs.waiting _ mem] at hc
        cases hc
      | expired _ _ _ content => rw [content] at hc; cases hc
      | cancelled _ _ _ content => rw [content] at hc; cases hc
      | swept _ _ _ _ content => rw [content] at hc; cases hc
    · rw [same] at hc
      obtain ⟨i, hi, hd⟩ := ih hc
      exact ⟨i, Nat.lt_succ_of_lt hi, hd⟩

/-- What was delivered stays in the slot until it is taken. -/
theorem kept_until_taken (h : r.Sound) (he : e ∈ r.entries) {i n : Nat} {m : Message}
    (hd : r.DeliversAt ops e i m) (hin : i < n) :
    (∃ j < n, r.YieldsAt ops e.ticket j m) ∨ (r.upTo ops n).content e.ticket = .reply m := by
  induction hin with
  | refl => exact .inr (content_of_deliversAt h he hd)
  | @step n _ ih =>
    rcases ih with ⟨j, hj, hy⟩ | full
    · exact .inl ⟨j, Nat.lt_succ_of_lt hj, hy⟩
    · rcases upTo_succ r ops n with ⟨o, a, ho⟩ | same
      · obtain ⟨_, ha, next⟩ := step?_eq ho
        have hs := sound_upTo h ops n
        have gone : ¬ (r.upTo ops n).Live e.ticket := hs.not_live_of_content (by simp [full])
        have turn := hs.turn (Nat.lt_of_lt_of_le (h.issued e he) (length_upTo r ops n)) o
        rw [ha, ← next] at turn
        rcases (turn.of_not_live gone).2 with content | ⟨m', rfl, rfl, full', _⟩
        · exact .inr (content.trans full)
        · rw [full, Content.reply.injEq] at full'
          subst full'
          exact .inl ⟨n, Nat.lt_succ_self n, ho⟩
      · rw [same]
        exact .inr full

/-- Whatever happens to a registration happens to it once. -/
theorem once_of_mem (h : r.Sound) (he : e ∈ r.entries) (ops : List Op) : Once r e ops where
  ends_once := by
    have ordered : ∀ i j, r.EndsAt ops e.ticket i → r.EndsAt ops e.ticket j → ¬ i < j :=
      fun i j hi hj hij => h.never_live (h.issued e he) hij hi.2.2 hj.2.1
    intro i j hi hj
    have := ordered i j hi hj
    have := ordered j i hj hi
    omega
  ends_iff := by
    intro i o a step live
    obtain ⟨_, ha, next⟩ := step?_eq step
    rw [next]
    exact (sound_upTo h ops i).ending_iff (h.mem_upTo he live) ha
  yields_once := by
    have ordered : ∀ i j m m', r.YieldsAt ops e.ticket i m → r.YieldsAt ops e.ticket j m' →
        ¬ i < j := by
      intro i j m m' hi hj hij
      have closed := h.closed_of_closed (h.issued e he) hij (content_of_yieldsAt h he hi).2
      rw [(content_of_yieldsAt h he hj).1] at closed
      cases closed
    intro i j m m' hi hj
    have := ordered i j m m' hi hj
    have := ordered j i m' m hj hi
    obtain rfl : i = j := by omega
    have same := hi.symm.trans hj
    simp only [Option.some.injEq, Prod.mk.injEq, Answer.found.injEq, Content.reply.injEq] at same
    exact ⟨rfl, same.2⟩
  yields_iff := by
    intro n m _
    constructor
    · rintro (⟨i, hi, hy⟩ | full)
      · obtain ⟨j, hj, hd⟩ := delivered_of_content h he (content_of_yieldsAt h he hy).1
        exact ⟨j, Nat.lt_trans hj hi, hd⟩
      · exact delivered_of_content h he full
    · rintro ⟨i, hi, hd⟩
      exact kept_until_taken h he hd hi
  found_iff := fun _ _ => found_take_iff
  never_revived := fun _ _ hij gone => h.never_live (h.issued e he) hij gone
  nothing_more := by
    intro i j m hij gone full
    have step : ∀ (s : Registry) (o : Op), s.Sound → e.ticket < s.slots.length →
        (¬ s.Live e.ticket ∧ ∀ m, s.content e.ticket = .reply m →
          (r.upTo ops i).content e.ticket = .reply m) →
        ¬ (s.perform o).1.Live e.ticket ∧ ∀ m, (s.perform o).1.content e.ticket = .reply m →
          (r.upTo ops i).content e.ticket = .reply m :=
      fun s o hs hts ⟨gone, old⟩ => ⟨hs.not_live_perform hts gone o,
        fun m hm => old m (hs.content_of_not_live hts gone hm)⟩
    exact (upTo_keeps (P := fun s => ¬ s.Live e.ticket ∧ ∀ m, s.content e.ticket = .reply m →
      (r.upTo ops i).content e.ticket = .reply m) step h (h.issued e he) hij
      ⟨gone, fun _ hm => hm⟩).2 m full

end

/-! ## Every registration -/

/-- In every run from an empty registry, a registration is refused exactly if its correlation id is
taken, and then nothing changes at all; otherwise it gets a ticket, under which it waits, and
whatever comes after it happens to it once. -/
theorem registration_resolved_once (before after : List Op) (c k route : String) (d : Instant) :
    let r := perform.after empty before
    let e : Entry := ⟨c, r.slots.length, k, route, d⟩
    (r.isPending c = true → r.register c k route d = (r, none)) ∧
    (r.isPending c = false →
      (r.register c k route d).2 = some e.ticket ∧
      e ∈ (r.register c k route d).1.entries ∧
      (r.register c k route d).1.content e.ticket = .waiting ∧
      Once (r.register c k route d).1 e after) := by
  intro r e
  have hr : r.Sound := perform.after_keeps (P := Sound) (fun _ o hs => sound_perform hs o)
    sound_empty before
  refine ⟨register_of_isPending, fun hp => ?_⟩
  have hs : (r.register c k route d).1.Sound := sound_register hr hp
  have he : e ∈ (r.register c k route d).1.entries := by
    rw [register_of_not_isPending hp]
    exact List.mem_append_right _ (List.mem_singleton_self e)
  exact ⟨by rw [register_of_not_isPending hp], he, hs.waiting e he, once_of_mem hs he after⟩

/-- A correlation id that has been answered is used again: the second registration is not refused,
and the reply to the first is no message of the second. -/
theorem registration_resolved_once_reused :
    let m : Message := { Message.new "payment.ack" "inv-1" .epoch with correlation := "c-1" }
    let before := [.register "c-1" "inv-1" "payment" .start, .resolve m]
    let e : Entry := ⟨"c-1", 1, "inv-1", "payment", .start⟩
    let r := perform.after empty before
    r.isPending "c-1" = false ∧ r.content 0 = .reply m ∧
      (r.register "c-1" "inv-1" "payment" .start).1.content 1 = .waiting ∧
      Once (r.register "c-1" "inv-1" "payment" .start).1 e [.resolve m, .take 1, .resolve m] := by
  intro m before e r
  have free : r.isPending "c-1" = false := by decide +kernel
  have once := (registration_resolved_once before [.resolve m, .take 1, .resolve m] "c-1" "inv-1"
    "payment" .start).2 free
  exact ⟨free, rfl, once.2.2.1, once.2.2.2⟩

end Registry

end PaymentRelay
