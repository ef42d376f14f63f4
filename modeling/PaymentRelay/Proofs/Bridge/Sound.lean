import PaymentRelay.Proofs.Bridge.Act

/-
  What every act of a bridge keeps.

  A call in flight holds the slot of its ticket, and every entry of the registry is that of a call
  in flight (`Sound`). So a call that still waits has an entry of its own under its correlation id
  (`Sound.own_entry`), and whatever reply is in its slot has its correlation id and its channel,
  for the registry looks at both before it fills a slot.

  The proof follows how acts touch the registry: by an operation that neither registers a call nor
  lets a holder go (`Sound.sound_op`), by a call that departs (`Sound.sound_depart`), and by a call
  that starts (`Sound.sound_start`).
-/

namespace PaymentRelay

namespace Bridge

/-- What every act keeps. -/
structure Sound (b : Bridge) : Prop where
  registry : b.registry.Sound
  distinct : b.calls.Pairwise fun c d => c.number ≠ d.number ∧ c.ticket ≠ d.ticket
  counted : ∀ c ∈ b.calls, c.number < b.nextCall
  held : ∀ c ∈ b.calls,
    c.ticket < b.registry.slots.length ∧ b.registry.isAbandoned c.ticket = false
  owned : ∀ e ∈ b.registry.entries, ∃ c ∈ b.calls,
    c.ticket = e.ticket ∧ c.correlation = e.correlation ∧ c.channel = e.channel
  answered : ∀ c ∈ b.calls, ∀ m, b.registry.content c.ticket = .reply m →
    m.correlation = c.correlation ∧ m.channel = c.channel
  resolved : ∀ c ∈ b.calls, c.stage = .resolved → b.registry.content c.ticket ≠ .waiting

theorem sound_new (hub : Hub) (listening : Bool) : (new hub listening).Sound := by
  cases listening <;>
    exact ⟨Registry.sound_empty, .nil, by simp [new], by simp [new], by simp [new, Registry.empty],
      by simp [new], by simp [new]⟩

section
variable {b b' : Bridge} {c d : Call}

/-- Calls with a number or a ticket in common are the same call. -/
theorem Sound.eq_of_mem (h : b.Sound) (hc : c ∈ b.calls) (hd : d ∈ b.calls)
    (same : c.number = d.number ∨ c.ticket = d.ticket) : c = d :=
  Registry.eq_of_apart h.distinct hc hd same

theorem Sound.unique (h : b.Sound) (hc : c ∈ b.calls) (d : Call) (hd : d ∈ b.calls)
    (same : d.number = c.number) : d = c :=
  h.eq_of_mem hd hc (.inl same)

/-- An entry with the ticket of a call in flight has its correlation id and its channel. -/
theorem Sound.entry_of_ticket (h : b.Sound) (hc : c ∈ b.calls) {e : Entry}
    (he : e ∈ b.registry.entries) (ht : e.ticket = c.ticket) :
    e.correlation = c.correlation ∧ e.channel = c.channel := by
  obtain ⟨d, hd, hdt, hdc, hdk⟩ := h.owned e he
  obtain rfl : d = c := h.eq_of_mem hd hc (.inr (hdt.trans ht))
  exact ⟨hdc.symm, hdk.symm⟩

/-- A call that waits has its own entry under its correlation id. -/
theorem Sound.own_entry (h : b.Sound) (hc : c ∈ b.calls)
    (hw : b.registry.content c.ticket = .waiting) :
    ∃ e ∈ b.registry.entries, e.ticket = c.ticket ∧ e.channel = c.channel ∧
      b.registry.entry? c.correlation = some e := by
  obtain ⟨inside, here⟩ := h.held c hc
  obtain ⟨e, he, ht⟩ := h.registry.live c.ticket inside here hw
  obtain ⟨correlation, channel⟩ := h.entry_of_ticket hc he ht
  refine ⟨e, he, ht, channel, ?_⟩
  rw [← correlation]
  exact h.registry.entry?_of_mem he

/-- Soundness looks at the registry and the calls alone. -/
theorem Sound.congr (h : b.Sound) (registry : b'.registry = b.registry)
    (calls : b'.calls = b.calls) (nextCall : b'.nextCall = b.nextCall) : b'.Sound := by
  constructor
  · exact registry ▸ h.registry
  · exact calls ▸ h.distinct
  · rw [calls, nextCall]
    exact h.counted
  · rw [calls, registry]
    exact h.held
  · rw [calls, registry]
    exact h.owned
  · rw [calls, registry]
    exact h.answered
  · rw [calls, registry]
    exact h.resolved

end

end Bridge

/-- The operation neither registers a call nor lets a holder go. -/
def Registry.Op.IsPlain : Op → Prop
  | .register .. | .drop _ => False
  | _ => True

namespace Bridge

/-! ## Operations on the registry -/

section
variable {b : Bridge} {c : Call} {o : Registry.Op}

/-- What a plain operation does to the slot of a call in flight: nothing, unless it takes a reply,
removes the entry of the call, or delivers a reply to it. -/
theorem Sound.content_op (h : b.Sound) (hc : c ∈ b.calls) (o : Registry.Op) :
    (b.registry.perform o).1.content c.ticket = b.registry.content c.ticket ∨
    (b.registry.perform o).1.content c.ticket = .closed ∨
    ∃ m, o = .resolve m ∧ b.registry.content c.ticket = .waiting ∧
      m.correlation = c.correlation ∧ m.channel = c.channel ∧
      (b.registry.perform o).1.content c.ticket = .reply m := by
  have turn := h.registry.turn (h.held c hc).1 o
  generalize (b.registry.perform o).2 = answer at turn
  cases turn with
  | kept _ content => exact .inl content
  | taken _ _ content => exact .inr (.inl content)
  | @delivered e m mem ticket correlation channel _ content =>
    obtain ⟨same, side⟩ := h.entry_of_ticket hc mem ticket
    refine .inr (.inr ⟨m, rfl, ?_, correlation.trans same, channel.trans side, content⟩)
    rw [← ticket]
    exact h.registry.waiting e mem
  | lost _ _ _ _ _ _ content => exact .inl content
  | expired _ _ _ content => exact .inr (.inl content)
  | cancelled _ _ _ content => exact .inr (.inl content)
  | swept _ _ _ _ content => exact .inr (.inl content)

theorem Sound.sound_op (h : b.Sound) (ho : o.IsPlain) :
    Sound { b with registry := (b.registry.perform o).1 } := by
  obtain ⟨sub, hlen⟩ : (b.registry.perform o).1.entries.Sublist b.registry.entries ∧
      (b.registry.perform o).1.slots.length = b.registry.slots.length := by
    rcases Registry.perform_shrinks b.registry o with ⟨c, k, route, d, rfl, _⟩ | shrinks
    · exact absurd ho (by simp [Registry.Op.IsPlain])
    · exact shrinks
  refine ⟨Registry.sound_perform h.registry o, h.distinct, h.counted, ?_, ?_, ?_, ?_⟩
  · intro c hc
    obtain ⟨inside, here⟩ := h.held c hc
    have stays : o ≠ .drop c.ticket := by
      rintro rfl
      exact ho
    exact ⟨by rw [hlen]; exact inside, (Registry.isAbandoned_perform inside stays).trans here⟩
  · intro e he
    exact h.owned e (sub.subset he)
  · intro c hc m hm
    rcases h.content_op hc o with same | closed | ⟨m', rfl, _, correlation, channel, full⟩
    · exact h.answered c hc m (same.symm.trans hm)
    · rw [closed] at hm
      cases hm
    · rw [full, Content.reply.injEq] at hm
      subst hm
      exact ⟨correlation, channel⟩
  · intro c hc hs
    rcases h.content_op hc o with same | closed | ⟨m', _, _, _, _, full⟩
    · rw [same]
      exact h.resolved c hc hs
    · rw [closed]
      exact Content.noConfusion
    · rw [full]
      exact Content.noConfusion

end

/-! ## Calls that depart -/

section
variable {b : Bridge} {c d : Call}

/-- A call departs once its entry is gone. -/
theorem Sound.sound_depart (h : b.Sound) (hc : c ∈ b.calls)
    (gone : ¬ b.registry.Live c.ticket) : (b.depart c b.registry).Sound := by
  have remains : ∀ d, d ∈ (b.depart c b.registry).calls → d ∈ b.calls ∧ d.number ≠ c.number := by
    intro d hd
    simpa [depart] using hd
  have apart : ∀ d, d ∈ b.calls → d.number ≠ c.number → d.ticket ≠ c.ticket :=
    fun d hd hn ht => hn (by rw [h.eq_of_mem hd hc (.inr ht)])
  refine ⟨Registry.sound_perform h.registry (.drop c.ticket), h.distinct.filter _, ?_, ?_, ?_, ?_,
    ?_⟩
  · intro d hd
    exact h.counted d (remains d hd).1
  · intro d hd
    obtain ⟨hm, hn⟩ := remains d hd
    obtain ⟨inside, here⟩ := h.held d hm
    have other : Registry.Op.drop c.ticket ≠ .drop d.ticket := by
      intro same
      injection same with same
      exact apart d hm hn same.symm
    exact ⟨Nat.lt_of_lt_of_le inside (Registry.length_perform b.registry (.drop c.ticket)),
      (Registry.isAbandoned_perform inside other).trans here⟩
  · intro e he
    obtain ⟨d, hd, ht, correlation, channel⟩ := h.owned e he
    refine ⟨d, ?_, ht, correlation, channel⟩
    -- The call that departs owns no entry any more.
    have hn : d.number ≠ c.number := by
      intro same
      rw [h.unique hc d hd same] at ht
      exact gone ⟨e, he, ht.symm⟩
    simpa [depart] using ⟨hd, hn⟩
  · intro d hd m hm
    exact h.answered d (remains d hd).1 m ((Registry.content_drop _).symm.trans hm)
  · intro d hd hs
    rw [show (b.depart c b.registry).registry = b.registry.drop c.ticket from rfl,
      Registry.content_drop]
    exact h.resolved d (remains d hd).1 hs

/-- A call that removes the entry of its correlation id departs: either the entry was its own, or
its own had been removed before. -/
theorem Sound.sound_removal (h : b.Sound) (hc : c ∈ b.calls) {o : Registry.Op}
    (removal : o = .expire c.correlation ∨ o = .cancel c.correlation) :
    (b.depart c (b.registry.perform o).1).Sound := by
  have gone : ∀ count, ¬ (b.registry.remove c.correlation count).1.Live c.ticket := by
    intro count
    rcases h.registry.remove_cases (h.held c hc).1 c.correlation count with
      ⟨_, _, _, _, _, gone, _⟩ | ⟨entries, _⟩
    · exact gone
    · rintro ⟨e, he, ht⟩
      have hm := (entries e ht).mp he
      have own : b.registry.entry? c.correlation = some e := by
        rw [← (h.entry_of_ticket hc hm ht).1]
        exact h.registry.entry?_of_mem hm
      rw [Registry.remove_of_some own] at he
      exact (Registry.mem_without.mp he).2 (Registry.mem_of_entry? own).2
  -- So the removal can be taken for an operation of its own, after which the call departs.
  have sound : Sound { b with registry := (b.registry.perform o).1 } := by
    rcases removal with rfl | rfl <;> exact h.sound_op trivial
  refine sound.sound_depart hc ?_
  rcases removal with rfl | rfl
  · exact gone fun n => { n with timeouts := n.timeouts + 1 }
  · exact gone fun n => { n with cancelled := n.cancelled + 1 }

/-- A call that yields is still in flight, and so are all others. -/
theorem mem_yieldTo : d ∈ (b.yieldTo c).calls ↔
    (d ∈ b.calls ∧ d.number ≠ c.number) ∨
      ∃ e ∈ b.calls, e.number = c.number ∧ d = { e with stage := .resolved } := by
  simp only [yieldTo, List.mem_map]
  constructor
  · rintro ⟨e, he, rfl⟩
    split
    · next hn => exact .inr ⟨e, he, hn, rfl⟩
    · next hn => exact .inl ⟨he, hn⟩
  · rintro (⟨hd, hn⟩ | ⟨e, he, hn, rfl⟩)
    · exact ⟨d, hd, if_neg hn⟩
    · exact ⟨e, he, if_pos hn⟩

theorem Sound.sound_yieldTo (h : b.Sound) (hc : c ∈ b.calls)
    (hw : b.registry.content c.ticket ≠ .waiting) : (b.yieldTo c).Sound := by
  -- But for its stage, a call is what it was.
  have origin : ∀ d ∈ (b.yieldTo c).calls, ∃ e ∈ b.calls, d.number = e.number ∧
      d.ticket = e.ticket ∧ d.correlation = e.correlation ∧ d.channel = e.channel := by
    intro d hd
    rcases mem_yieldTo.mp hd with ⟨hm, _⟩ | ⟨e, he, _, rfl⟩
    · exact ⟨d, hm, rfl, rfl, rfl, rfl⟩
    · exact ⟨e, he, rfl, rfl, rfl, rfl⟩
  refine ⟨h.registry, ?_, ?_, ?_, ?_, ?_, ?_⟩
  · refine List.pairwise_map.mpr (h.distinct.imp ?_)
    intro d e apart
    split <;> split <;> exact apart
  · intro d hd
    obtain ⟨e, he, hn, _⟩ := origin d hd
    rw [hn]
    exact h.counted e he
  · intro d hd
    obtain ⟨e, he, _, ht, _⟩ := origin d hd
    rw [ht]
    exact h.held e he
  · intro x hx
    obtain ⟨e, he, ht, correlation, channel⟩ := h.owned x hx
    by_cases hn : e.number = c.number
    · exact ⟨_, mem_yieldTo.mpr (.inr ⟨e, he, hn, rfl⟩), ht, correlation, channel⟩
    · exact ⟨e, mem_yieldTo.mpr (.inl ⟨he, hn⟩), ht, correlation, channel⟩
  · intro d hd m hm
    obtain ⟨e, he, _, ht, correlation, channel⟩ := origin d hd
    rw [ht] at hm
    rw [correlation, channel]
    exact h.answered e he m hm
  · intro d hd hs
    rcases mem_yieldTo.mp hd with ⟨hm, _⟩ | ⟨e, he, hn, rfl⟩
    · exact h.resolved d hm hs
    · rw [h.unique hc e he hn]
      exact hw

/-- A call that finds no entry under its correlation id waits no more. -/
theorem Sound.not_waiting_of_missing (h : b.Sound) (hc : c ∈ b.calls)
    (missing : b.registry.isPending c.correlation = false) :
    b.registry.content c.ticket ≠ .waiting := by
  intro hw
  obtain ⟨e, _, _, _, found⟩ := h.own_entry hc hw
  simp [Registry.isPending, found] at missing

/-- As long as nothing is in its slot, a call looks at everything it waits for. -/
theorem Sound.stage_of_waiting (h : b.Sound) (hc : c ∈ b.calls)
    (hw : b.registry.content c.ticket = .waiting) : c.stage = .waiting := by
  cases hs : c.stage with
  | waiting => rfl
  | resolved => exact absurd hw (h.resolved c hc hs)

/-- What a call that waits finds is up to the clock and the signals. -/
theorem Sound.poll_of_waiting (h : b.Sound) (hc : c ∈ b.calls)
    (hw : b.registry.content c.ticket = .waiting) (branch : Branch) :
    (b.poll c.number branch).2 =
      match branch with
      | .reply => none
      | .deadline =>
        if c.deadline ≤ b.now then
          some (.error (.timeout c.correlation (c.deadline.since c.started)))
        else none
      | .cancellation =>
        if c.context.isCancelled b.signals then some (.error (.cancelled c.correlation))
        else none := by
  have waits := h.stage_of_waiting hc hw
  have look := poll_look hc (h.unique hc) branch
  generalize b.poll c.number branch = next at look
  cases look with
  | idle _ early quiet =>
    cases branch with
    | reply => rfl
    | deadline => exact (if_neg (early rfl waits)).symm
    | cancellation => exact (if_neg (by simp [quiet rfl waits])).symm
  | answered full => exact absurd (hw.symm.trans full) Content.noConfusion
  | dropped closed => exact absurd (hw.symm.trans closed) Content.noConfusion
  | timedOut _ due => exact (if_pos due).symm
  | cancelled _ given => exact (if_pos given).symm
  | overtaken _ _ missing => exact absurd hw (h.not_waiting_of_missing hc missing)

theorem Sound.sound_poll (h : b.Sound) (number : Nat) (branch : Branch) :
    (b.poll number branch).1.Sound := by
  rcases b.inFlight_or number with ⟨c, hc, rfl⟩ | missing
  · have look := poll_look hc (h.unique hc) branch
    generalize b.poll c.number branch = next at look
    cases look with
    | idle => exact h
    | answered full =>
      have sound := h.sound_op (o := .take c.ticket) trivial
      have gone : ¬ b.registry.Live c.ticket := h.registry.not_live_of_content (by simp [full])
      exact sound.sound_depart hc
        (h.registry.not_live_perform (h.held c hc).1 gone (.take c.ticket))
    | dropped closed => exact h.sound_depart hc (h.registry.not_live_of_content (by simp [closed]))
    | timedOut => exact h.sound_removal hc (.inl rfl)
    | cancelled => exact h.sound_removal hc (.inr rfl)
    | overtaken _ _ missing => exact h.sound_yieldTo hc (h.not_waiting_of_missing hc missing)
  · rw [poll_of_not_mem missing]
    exact h

theorem Sound.sound_abandon (h : b.Sound) (number : Nat) : (b.abandon number).Sound := by
  rcases b.inFlight_or number with ⟨c, hc, rfl⟩ | missing
  · rw [abandon_of_mem hc (h.unique hc)]
    cases hs : c.stage with
    | waiting => exact h.sound_removal hc (.inr rfl)
    | resolved =>
      exact h.sound_depart hc (h.registry.not_live_of_content (h.resolved c hc hs))
  · rw [abandon_of_not_mem missing]
    exact h

end

/-! ## Calls that start -/

section
variable {b : Bridge} {c : Call} {d : Dial} {fresh : String}

theorem slot_enroll {t : Nat} (ht : t < b.registry.slots.length) :
    (b.enroll d fresh).slots[t]? = b.registry.slots[t]? :=
  Registry.slot_register ht

theorem slot_withdraw (hp : b.registry.isPending (d.correlation fresh) = false) {t : Nat}
    (ht : t < b.registry.slots.length) :
    (b.withdraw d fresh).slots[t]? = b.registry.slots[t]? := by
  rw [withdraw, enroll, (Registry.register_withdrawn hp).2]
  exact List.getElem?_append_left ht

theorem Sound.sound_withdraw (h : b.Sound)
    (hp : b.registry.isPending (d.correlation fresh) = false) :
    Sound { b with registry := b.withdraw d fresh } := by
  have sound : (b.withdraw d fresh).Sound :=
    Registry.sound_perform (Registry.sound_perform (Registry.sound_register h.registry hp)
      (.cancel _)) (.drop _)
  refine ⟨sound, h.distinct, h.counted, ?_, ?_, ?_, ?_⟩
  · intro c hc
    obtain ⟨inside, here⟩ := h.held c hc
    refine ⟨?_, (Registry.isAbandoned_congr (slot_withdraw hp inside)).trans here⟩
    show c.ticket < (b.withdraw d fresh).slots.length
    rw [withdraw, enroll, (Registry.register_withdrawn hp).2, List.length_append]
    exact Nat.lt_add_right _ inside
  · intro e he
    refine h.owned e ?_
    rwa [← (Registry.register_withdrawn hp).1]
  · intro c hc m hm
    refine h.answered c hc m ?_
    rwa [← Registry.content_congr (slot_withdraw hp (h.held c hc).1)]
  · intro c hc hs
    show (b.withdraw d fresh).content c.ticket ≠ .waiting
    rw [Registry.content_congr (slot_withdraw hp (h.held c hc).1)]
    exact h.resolved c hc hs

theorem content_opened (hp : b.registry.isPending (d.correlation fresh) = false) :
    (b.enroll d fresh).content (b.opened d fresh).ticket = .waiting ∧
      (b.enroll d fresh).isAbandoned (b.opened d fresh).ticket = false := by
  rw [enroll, Registry.register_of_not_isPending hp]
  simp [opened, Registry.content, Registry.isAbandoned, Registry.slot?]

theorem Sound.sound_opened (h : b.Sound)
    (hp : b.registry.isPending (d.correlation fresh) = false) :
    Sound { b with
      registry := b.enroll d fresh
      calls := b.calls ++ [b.opened d fresh]
      nextCall := b.nextCall + 1 } := by
  have longer : (b.enroll d fresh).slots.length = b.registry.slots.length + 1 := by
    rw [enroll, Registry.register_of_not_isPending hp]
    simp
  -- A call is an old one or the one that starts.
  have split : ∀ c ∈ b.calls ++ [b.opened d fresh], c ∈ b.calls ∨ c = b.opened d fresh := by
    intro c hc
    simpa using hc
  refine ⟨Registry.sound_register h.registry hp, ?_, ?_, ?_, ?_, ?_, ?_⟩
  · refine List.pairwise_append.mpr ⟨h.distinct, List.pairwise_singleton .., ?_⟩
    intro c hc e he
    rw [List.mem_singleton] at he
    subst he
    exact ⟨Nat.ne_of_lt (h.counted c hc), Nat.ne_of_lt (h.held c hc).1⟩
  · intro c hc
    rcases split c hc with hc | rfl
    · exact Nat.lt_succ_of_lt (h.counted c hc)
    · exact Nat.lt_succ_self _
  · intro c hc
    show c.ticket < (b.enroll d fresh).slots.length ∧ (b.enroll d fresh).isAbandoned _ = false
    rw [longer]
    rcases split c hc with hc | rfl
    · obtain ⟨inside, here⟩ := h.held c hc
      exact ⟨Nat.lt_succ_of_lt inside, (Registry.isAbandoned_congr (slot_enroll inside)).trans here⟩
    · exact ⟨Nat.lt_succ_self _, (content_opened hp).2⟩
  · intro e he
    rcases Registry.mem_register he with he | ⟨rfl, _⟩
    · obtain ⟨c, hc, own⟩ := h.owned e he
      exact ⟨c, List.mem_append_left _ hc, own⟩
    · exact ⟨_, List.mem_append_right _ (List.mem_singleton_self _), rfl, rfl, rfl⟩
  · intro c hc m hm
    rcases split c hc with hc | rfl
    · exact h.answered c hc m ((Registry.content_congr (slot_enroll (h.held c hc).1)).symm.trans hm)
    · rw [show Registry.content _ _ = _ from (content_opened hp).1] at hm
      cases hm
  · intro c hc hs
    rcases split c hc with hc | rfl
    · show (b.enroll d fresh).content c.ticket ≠ .waiting
      rw [Registry.content_congr (slot_enroll (h.held c hc).1)]
      exact h.resolved c hc hs
    · cases hs

theorem Sound.sound_start (h : b.Sound) (d : Dial) (fresh : String) :
    (b.start d fresh).1.Sound := by
  rcases start_cases b d fresh with ⟨e, eq⟩ | ⟨hp, e, eq⟩ | ⟨hp, _, peers, published, _, eq⟩ <;>
    rw [eq]
  · exact h
  · exact h.sound_withdraw hp
  · exact (h.sound_opened hp).congr rfl rfl rfl

end

/-! ## Acts -/

section
variable {b : Bridge}

theorem Sound.sound_listen (h : b.Sound) : b.listen.Sound := by
  cases hu : b.unread with
  | nil =>
    rw [listen_of_nil hu]
    exact h
  | cons m rest =>
    obtain ⟨streams, eq, _⟩ := listen_of_cons hu
    rw [eq]
    exact (h.sound_op (o := .resolve m) trivial).congr rfl rfl rfl

theorem sound_act (h : b.Sound) (a : Act) : (b.act a).1.Sound := by
  cases a with
  | join channel => exact h.congr rfl rfl rfl
  | leave peer => exact h.congr rfl rfl rfl
  | read peer =>
    simp only [act]
    split
    · exact h.congr rfl rfl rfl
    · exact h
  | publish channel m =>
    simp only [act, send]
    split
    · exact h.congr rfl rfl rfl
    · exact h
  | reply peer m =>
    simp only [act]
    split
    · exact h.congr rfl rfl rfl
    · exact h
  | start d fresh => exact h.sound_start d fresh
  | abandon number => exact h.sound_abandon number
  | signal n => exact h.congr rfl rfl rfl
  | dropHandle n => exact h
  | tick span => exact h.congr rfl rfl rfl
  | sweep grace => exact (h.sound_op (o := .sweep b.now grace) trivial).congr rfl rfl rfl
  | listen =>
    rw [act_listen]
    exact h.sound_listen
  | poll number branch =>
    rw [act_poll]
    exact h.sound_poll number branch

/-- At every moment of every run from a sound bridge it is sound. -/
theorem sound_after (h : b.Sound) (acts : List Act) : (act.after b acts).Sound :=
  act.after_keeps (P := Sound) (fun _ a hs => sound_act hs a) h acts

end

end Bridge

end PaymentRelay
