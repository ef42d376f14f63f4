import PaymentRelay.Proofs.Bridge.Origin

/-
  Whose entry a call removes.

  A call that is due, cancelled or given up removes the entry of its correlation id. The entry is
  its own exactly as long as nothing is in its slot (`Sound.removed_own_iff`): once its own entry is
  gone, another call may have been registered under the id. A call that looks late then ends the
  other one (`late_look_ends_successor`).

  So callers owe it to each other that no call starts under the id of a call in flight (`NoReuse`).
  In such runs every call removes its own entry alone (`own_entry_removed`), and a call that a reply
  was delivered to ends with the reply (`delivered_call_returns`).
-/

namespace PaymentRelay

namespace Bridge

/-- The act is one of the call with a number: it looks, or is given up. -/
def Act.isOf (number : Nat) : Act → Prop
  | .poll n _ | .abandon n => n = number
  | _ => False

/-- The act removes the entry. -/
def Removes (b : Bridge) (a : Act) (e : Entry) : Prop :=
  e ∈ b.registry.entries ∧ e ∉ (b.act a).1.registry.entries

/-- No two calls in flight have the same correlation id. -/
def Apart (b : Bridge) : Prop :=
  ∀ c ∈ b.calls, ∀ d ∈ b.calls, c.correlation = d.correlation → c.number = d.number

/-- No call starts under the correlation id of a call in flight. -/
def NoReuse : Bridge → List Act → Prop
  | _, [] => True
  | b, a :: rest =>
    (∀ d fresh, a = .start d fresh → ∀ c ∈ b.calls, c.correlation ≠ d.correlation fresh) ∧
      NoReuse (b.act a).1 rest

section
variable {b : Bridge} {c : Call} {a : Act} {e : Entry}

/-! ## What a call removes -/

/-- The entry of a correlation id belongs to a call exactly as long as the call waits. -/
theorem Sound.own_iff_waiting (h : b.Sound) (hc : c ∈ b.calls)
    (he : b.registry.entry? c.correlation = some e) :
    e.ticket = c.ticket ↔ b.registry.content c.ticket = .waiting := by
  constructor
  · intro own
    rw [← own]
    exact h.registry.waiting e (Registry.mem_of_entry? he).1
  · intro waits
    obtain ⟨e', _, own, _, he'⟩ := h.own_entry hc waits
    rw [he] at he'
    cases he'
    exact own

/-- What a removal takes is the entry of the correlation id. -/
theorem Sound.entry?_of_removed (h : b.Sound) {count : Counters → Counters} {correlation : String}
    (mem : e ∈ b.registry.entries)
    (gone : e ∉ (b.registry.remove correlation count).1.entries) :
    b.registry.entry? correlation = some e := by
  cases he : b.registry.entry? correlation with
  | none =>
    rw [Registry.remove_of_none he] at gone
    exact absurd mem gone
  | some e' =>
    rw [Registry.remove_of_some he, Registry.mem_without] at gone
    have same : e.correlation = correlation := by
      by_contra other
      exact gone ⟨mem, other⟩
    rw [← same, h.registry.entry?_of_mem mem] at he
    exact he.symm

/-- A call removes no other entry than that of its correlation id. -/
theorem Sound.entry?_of_removes (h : b.Sound) (hc : c ∈ b.calls) (ha : a.isOf c.number)
    (removes : Removes b a e) : b.registry.entry? c.correlation = some e := by
  obtain ⟨mem, gone⟩ := removes
  cases a with
  | poll number branch =>
    obtain rfl : number = c.number := ha
    have look := poll_look hc (h.unique hc) branch
    generalize hx : b.poll c.number branch = next at look
    cases look with
    | idle =>
      rw [act_poll_none hx] at gone
      exact absurd mem gone
    | answered full =>
      rw [act_poll_some hx, Registry.take_of_reply full] at gone
      exact absurd mem gone
    | dropped =>
      rw [act_poll_some hx] at gone
      exact absurd mem gone
    | timedOut =>
      rw [act_poll_some hx] at gone
      exact h.entry?_of_removed mem gone
    | cancelled =>
      rw [act_poll_some hx] at gone
      exact h.entry?_of_removed mem gone
    | overtaken =>
      rw [act_poll_none hx] at gone
      exact absurd mem gone
  | abandon number =>
    obtain rfl : number = c.number := ha
    simp only [act, abandon_of_mem hc (h.unique hc)] at gone
    cases hs : c.stage with
    | waiting =>
      rw [hs] at gone
      exact h.entry?_of_removed mem gone
    | resolved =>
      rw [hs] at gone
      exact absurd mem gone
  | _ => exact ha.elim

/-- The entry that a call removes is its own exactly if nothing is in its slot. -/
theorem Sound.removed_own_iff (h : b.Sound) (hc : c ∈ b.calls) (ha : a.isOf c.number)
    (removes : Removes b a e) :
    e.ticket = c.ticket ↔ b.registry.content c.ticket = .waiting :=
  h.own_iff_waiting hc (h.entry?_of_removes hc ha removes)

/-! ## Runs without reuse -/

/-- Where calls in flight are apart, the entry of the correlation id of a call is its own. -/
theorem Apart.own (apart : b.Apart) (h : b.Sound) (hc : c ∈ b.calls)
    (he : b.registry.entry? c.correlation = some e) : e.ticket = c.ticket := by
  obtain ⟨mem, correlation⟩ := Registry.mem_of_entry? he
  obtain ⟨d, hd, own, same, _⟩ := h.owned e mem
  have number := apart d hd c hc (same.trans correlation)
  rw [← own, h.unique hc d hd number]

/-- A step that brings no new call keeps calls apart. -/
theorem Apart.of_noMail {b' : Bridge} (apart : b.Apart) (noMail : NoMail b b') : b'.Apart := by
  intro c hc d hd same
  obtain ⟨c', hc', eq, _⟩ := noMail c hc
  obtain ⟨d', hd', eq', _⟩ := noMail d hd
  rw [eq, eq'] at same ⊢
  exact apart c' hc' d' hd' same

theorem Apart.apart_act (apart : b.Apart) (h : b.Sound)
    (unused : ∀ d fresh, a = .start d fresh → ∀ c ∈ b.calls, c.correlation ≠ d.correlation fresh) :
    (b.act a).1.Apart := by
  have move := h.move a
  generalize b.act a = next at move
  obtain ⟨b', r⟩ := next
  cases move with
  | quiet _ _ _ _ _ noMail => exact apart.of_noMail noMail
  | joined _ _ _ _ calls => exact fun c hc d hd => apart c (calls ▸ hc) d (calls ▸ hd)
  | handed _ _ _ _ _ calls => exact fun c hc d hd => apart c (calls ▸ hc) d (calls ▸ hd)
  | @opened d fresh _ _ _ _ calls =>
    intro x hx y hy same
    rw [calls, List.mem_append, List.mem_singleton] at hx hy
    have other := unused d fresh rfl
    -- The call that starts shares its id with no call in flight.
    rcases hx with hx | rfl <;> rcases hy with hy | rfl
    · exact apart x hx y hy same
    · exact absurd same (other x hx)
    · exact absurd same.symm (other y hy)
    · rfl
  | heard _ _ _ _ calls => exact fun c hc d hd => apart c (calls ▸ hc) d (calls ▸ hd)
  | returned _ _ _ _ _ _ noMail => exact apart.of_noMail noMail

theorem Apart.apart_after (apart : b.Apart) (h : b.Sound) {acts : List Act}
    (noReuse : NoReuse b acts) : (act.after b acts).Apart := by
  induction acts generalizing b with
  | nil => exact apart
  | cons a rest ih => exact ih (apart.apart_act h noReuse.1) (sound_act h a) noReuse.2

/-- A call that a reply was delivered to ends with the reply, if calls in flight are apart. -/
theorem Apart.returns (apart : b.Apart) (h : b.Sound) (hc : c ∈ b.calls) {m : Message}
    (full : b.registry.content c.ticket = .reply m) {branch : Branch} {o : Outcome}
    (ended : (b.poll c.number branch).2 = some o) : o = .ok m := by
  -- No entry of its id is left: it would be its own, and then nothing would be in its slot.
  have missing : b.registry.isPending c.correlation = false := by
    by_contra found
    rw [Bool.not_eq_false] at found
    obtain ⟨e, he⟩ := Option.isSome_iff_exists.mp found
    have waits := (h.own_iff_waiting hc he).mp (apart.own h hc he)
    rw [full] at waits
    cases waits
  have look := poll_look hc (h.unique hc) branch
  generalize b.poll c.number branch = next at look ended
  cases look with
  | idle => cases ended
  | answered full' =>
    rw [full, Content.reply.injEq] at full'
    rw [full']
    exact (Option.some.inj ended).symm
  | dropped closed =>
    rw [full] at closed
    cases closed
  | timedOut _ _ found =>
    rw [missing] at found
    cases found
  | cancelled _ _ found =>
    rw [missing] at found
    cases found
  | overtaken => cases ended

end

section
variable {capacity limit : Nat} {acts : List Act}

/-- Where no call starts under the id of a call in flight, a call removes its own entry alone. -/
theorem own_entry_removed (noReuse : NoReuse (new (.new capacity limit) true) acts) {c : Call}
    (hc : c ∈ (act.after (new (.new capacity limit) true) acts).calls) {a : Act}
    (ha : a.isOf c.number) {e : Entry}
    (removes : Removes (act.after (new (.new capacity limit) true) acts) a e) :
    e.ticket = c.ticket := by
  have sound := sound_new (.new capacity limit) true
  have apart : (new (.new capacity limit) true).Apart := by simp [Apart, new]
  have sound' := sound_after sound acts
  exact (apart.apart_after sound noReuse).own sound' hc (sound'.entry?_of_removes hc ha removes)

/-- And a call that a reply was delivered to ends with the reply, at whatever it looks. -/
theorem delivered_call_returns (noReuse : NoReuse (new (.new capacity limit) true) acts) {c : Call}
    (hc : c ∈ (act.after (new (.new capacity limit) true) acts).calls) {m : Message}
    (full : (act.after (new (.new capacity limit) true) acts).registry.content c.ticket = .reply m)
    {branch : Branch} {o : Outcome}
    (ended : ((act.after (new (.new capacity limit) true) acts).poll c.number branch).2 = some o) :
    o = .ok m := by
  have sound := sound_new (.new capacity limit) true
  have apart : (new (.new capacity limit) true).Apart := by simp [Apart, new]
  exact (apart.apart_after sound noReuse).returns (sound_after sound acts) hc full ended

end

/-- With reuse it is otherwise. A reply is delivered to the first call, which does not look before a
second one has started under its id. Then the first finds its deadline, and removes the entry of the
second: it ends with a timeout, its reply is lost, and the second is dropped before it is due. -/
theorem late_look_ends_successor :
    let m : Message := ⟨"payment", "inv-1", "", "c-1", .empty, .null, .epoch⟩
    let first : Dial := ⟨.background, "inv-1", m, .ofSeconds 0⟩
    let second : Dial := ⟨.background, "inv-1", m, .ofSeconds 10⟩
    let t := act.transcript (new (.new 1 m.size) true) [.join "inv-1", .start first "", .reply 1 m,
      .listen, .start second "", .poll 0 .deadline, .poll 1 .reply]
    Told t 1 (.start first "") (.started (.ok 0)) ∧
      Told t 3 .listen (.heard m .delivered) ∧
      Told t 4 (.start second "") (.started (.ok 1)) ∧
      Told t 5 (.poll 0 .deadline) (.ended 0 (.error (.timeout "c-1" (.ofSeconds 0)))) ∧
      Told t 6 (.poll 1 .reply) (.ended 1 (.error .replyDropped)) := by
  intro m first second t
  have room (x : Message) : enqueue (Nat.nextPowerOfTwo 1) [] x = [x] :=
    enqueue_nil (Hub.capacity_pos 1 0) x
  have members : (Dict.lookup "inv-1"
      (Dict.put "inv-1" ((Dict.lookup "inv-1" []).getD 0 + 1) [])).getD 0 = 1 := by decide
  have due : Context.background.effectiveDeadline .start (.ofSeconds 0) ≤ .start := by decide
  have early : ¬ Context.background.effectiveDeadline .start (.ofSeconds 10) ≤ .start := by decide
  have after : (Context.background.effectiveDeadline .start (.ofSeconds 0)).since .start =
      .ofSeconds 0 := by decide
  have quiet : Context.background.isCancelled .none = false := rfl
  simp [t, first, second, m, Told, Machine.transcript, act, new, Hub.new, Hub.subscribe,
    Hub.join, start, quiet, due, early, after, dropped, Registry.empty,
    Registry.register, Registry.isPending, Registry.entry?, Hub.publish, Hub.checkSize,
    Directory.members, Directory.enter, Hub.reach, Hub.deliver, Hub.peer?, Hub.reply,
    Message.stamped, room, members, unread, Hub.stream?, listen, Hub.receiveReply, poll, look,
    collect, Registry.take, Registry.content, Registry.slot?, Registry.resolve, Registry.expire,
    Registry.remove, Registry.drop, Registry.fill, Registry.isAbandoned, Registry.without]

end Bridge

end PaymentRelay
