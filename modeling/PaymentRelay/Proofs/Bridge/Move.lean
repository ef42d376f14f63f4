import PaymentRelay.Proofs.Bridge.Sound

/-
  What one act can mean for replies on their way.

  A reply is handed in by a peer, waits in the stream of the listener, is heard, comes to lie in
  the slot of a call, and is returned by the call. In a sound bridge every act is one of six moves
  (`Move`): somebody joins, a reply is handed in, a call starts, a reply is heard, a reply is
  returned, or no reply gets any further. That is proved once, for every act (`Sound.move`).
-/

namespace PaymentRelay

namespace Bridge

/-- The report tells of something that replies on their way depend on. -/
def Report.isNews : Report → Bool
  | .joined _ | .replied (.ok _) | .started (.ok _) | .heard .. | .ended _ (.ok _) => true
  | _ => false

/-- The calls in flight are among those before, and find no reply that they did not find before. -/
def NoMail (b b' : Bridge) : Prop :=
  ∀ d ∈ b'.calls, ∃ c ∈ b.calls, d = { c with stage := d.stage } ∧
    (b'.registry.content c.ticket = b.registry.content c.ticket ∨
      b'.registry.content c.ticket = .closed)

/-- What an act means for replies on their way. -/
inductive Move (b b' : Bridge) : Act → Report → Prop
  /-- No reply gets any further. -/
  | quiet {a : Act} {r : Report} (report : r.isNews = false) (badges : b'.hub.badges ⊆ b.hub.badges)
      (nextId : b'.hub.nextId = b.hub.nextId) (unread : b'.unread = b.unread)
      (nextCall : b'.nextCall = b.nextCall) (noMail : NoMail b b') : Move b b' a r
  /-- A peer joins a channel. -/
  | joined {channel : String} (badges : b'.hub.badges = b.hub.badges ++ [(b.hub.nextId, channel)])
      (nextId : b'.hub.nextId = b.hub.nextId + 1) (unread : b'.unread = b.unread)
      (nextCall : b'.nextCall = b.nextCall) (calls : b'.calls = b.calls)
      (registry : b'.registry = b.registry) :
      Move b b' (.join channel) (.joined b.hub.nextId)
  /-- A reply is handed in by a peer, and gets the channel of the peer. -/
  | handed {peer : Nat} {channel : String} {m : Message} (member : (peer, channel) ∈ b.hub.badges)
      (badges : b'.hub.badges = b.hub.badges) (nextId : b'.hub.nextId = b.hub.nextId)
      (unread : b'.unread = b.unread ∨
        b'.unread = enqueue b.hub.capacity b.unread (m.stamped channel))
      (nextCall : b'.nextCall = b.nextCall) (calls : b'.calls = b.calls)
      (registry : b'.registry = b.registry) :
      Move b b' (.reply peer m) (.replied (.ok ()))
  /-- A call starts, and waits. -/
  | opened {d : Dial} {fresh : String} (badges : b'.hub.badges = b.hub.badges)
      (nextId : b'.hub.nextId = b.hub.nextId) (unread : b'.unread = b.unread)
      (nextCall : b'.nextCall = b.nextCall + 1) (calls : b'.calls = b.calls ++ [b.opened d fresh])
      (old : ∀ c ∈ b.calls, b'.registry.content c.ticket = b.registry.content c.ticket)
      (waits : b'.registry.content (b.opened d fresh).ticket = .waiting) :
      Move b b' (.start d fresh) (.started (.ok b.nextCall))
  /-- A reply is heard, and comes to lie in one slot at most. -/
  | heard {m : Message} {r : Resolution} (badges : b'.hub.badges = b.hub.badges)
      (nextId : b'.hub.nextId = b.hub.nextId) (unread : b.unread = m :: b'.unread)
      (nextCall : b'.nextCall = b.nextCall) (calls : b'.calls = b.calls)
      (filled : (∀ c ∈ b.calls, b'.registry.content c.ticket = b.registry.content c.ticket) ∨
        ∃ d ∈ b.calls, b.registry.content d.ticket = .waiting ∧
          b'.registry.content d.ticket = .reply m ∧
          ∀ c ∈ b.calls, c.ticket ≠ d.ticket →
            b'.registry.content c.ticket = b.registry.content c.ticket) :
      Move b b' .listen (.heard m r)
  /-- A call returns the reply that lies in its slot, and is gone. -/
  | returned {c : Call} {branch : Branch} {m : Message} (mem : c ∈ b.calls)
      (full : b.registry.content c.ticket = .reply m) (badges : b'.hub.badges = b.hub.badges)
      (nextId : b'.hub.nextId = b.hub.nextId) (unread : b'.unread = b.unread)
      (nextCall : b'.nextCall = b.nextCall) (noMail : NoMail b b')
      (gone : ∀ d ∈ b'.calls, d.number ≠ c.number) :
      Move b b' (.poll c.number branch) (.ended c.number (.ok m))

section
variable {b b' : Bridge} {c : Call}

theorem noMail_of_eq (calls : b'.calls = b.calls) (registry : b'.registry = b.registry) :
    NoMail b b' := by
  intro c hc
  rw [calls] at hc
  exact ⟨c, hc, rfl, .inl (by rw [registry])⟩

/-- Plain operations other than a reply bring nothing. -/
theorem Sound.content_plain (h : b.Sound) (hc : c ∈ b.calls) {o : Registry.Op}
    (ho : ∀ m, o ≠ .resolve m) :
    (b.registry.perform o).1.content c.ticket = b.registry.content c.ticket ∨
      (b.registry.perform o).1.content c.ticket = .closed := by
  rcases h.content_op hc o with same | closed | ⟨m, rfl, _⟩
  · exact .inl same
  · exact .inr closed
  · exact absurd rfl (ho m)

/-- A call that departs after an operation brings nothing to the others. -/
theorem noMail_depart {r : Registry}
    (hr : ∀ d ∈ b.calls, r.content d.ticket = b.registry.content d.ticket ∨
      r.content d.ticket = .closed) : NoMail b (b.depart c r) := by
  intro d hd
  have hm : d ∈ b.calls := by
    have both : d ∈ b.calls ∧ d.number ≠ c.number := by simpa [depart] using hd
    exact both.1
  refine ⟨d, hm, rfl, ?_⟩
  show (r.drop c.ticket).content d.ticket = _ ∨ (r.drop c.ticket).content d.ticket = _
  rw [Registry.content_drop]
  exact hr d hm

theorem not_mem_depart (r : Registry) : ∀ d ∈ (b.depart c r).calls, d.number ≠ c.number := by
  intro d hd
  have both : d ∈ b.calls ∧ d.number ≠ c.number := by simpa [depart] using hd
  exact both.2

end

/-! ## Moves -/

section
variable {b : Bridge}

theorem move_of_hub {hub : Hub} {a : Act} {r : Report} (report : r.isNews = false)
    (badges : hub.badges ⊆ b.hub.badges) (nextId : hub.nextId = b.hub.nextId)
    (streams : hub.streams = b.hub.streams) : Move b { b with hub } a r :=
  .quiet report badges nextId (unread_congr rfl streams) rfl (noMail_of_eq rfl rfl)

theorem move_of_noMail {b' : Bridge} {a : Act} {r : Report} (report : r.isNews = false)
    (hub : b'.hub = b.hub) (listener : b'.listener = b.listener)
    (nextCall : b'.nextCall = b.nextCall) (noMail : NoMail b b') : Move b b' a r := by
  refine .quiet report ?_ ?_ (unread_congr listener ?_) nextCall noMail <;> rw [hub]
  exact List.Subset.refl _

theorem move_stay {a : Act} {r : Report} (report : r.isNews = false) : Move b b a r :=
  move_of_noMail report rfl rfl rfl (noMail_of_eq rfl rfl)

theorem Sound.noMail_withdraw (h : b.Sound) {d : Dial} {fresh : String}
    (hp : b.registry.isPending (d.correlation fresh) = false) :
    NoMail b { b with registry := b.withdraw d fresh } := by
  intro c hc
  exact ⟨c, hc, rfl, .inl (Registry.content_congr (slot_withdraw hp (h.held c hc).1))⟩

theorem Sound.move_start (h : b.Sound) (d : Dial) (fresh : String) :
    Move b (b.start d fresh).1 (.start d fresh) (.started (b.start d fresh).2) := by
  rcases start_cases b d fresh with ⟨e, eq⟩ | ⟨hp, e, eq⟩ | ⟨hp, _, peers, published, badges, eq⟩
    <;> rw [eq]
  · exact move_stay rfl
  · exact move_of_noMail rfl rfl rfl rfl (h.noMail_withdraw hp)
  · refine .opened badges rfl (unread_congr rfl rfl) rfl rfl ?_ (content_opened hp).1
    intro c hc
    exact Registry.content_congr (slot_enroll (h.held c hc).1)

/-- A reply that is resolved comes to lie in the slot of one call, or in none. -/
theorem Sound.filled_resolve (h : b.Sound) (m : Message) :
    (∀ c ∈ b.calls, (b.registry.resolve m).1.content c.ticket = b.registry.content c.ticket) ∨
      ∃ d ∈ b.calls, b.registry.content d.ticket = .waiting ∧
        (b.registry.resolve m).1.content d.ticket = .reply m ∧
        ∀ c ∈ b.calls, c.ticket ≠ d.ticket →
          (b.registry.resolve m).1.content c.ticket = b.registry.content c.ticket := by
  rcases Registry.resolve_cases b.registry m with ⟨_, _, hr⟩ | ⟨e, he, ⟨_, _, hr⟩ | ⟨_, _, _, hr⟩ |
    ⟨_, _, _, hr⟩⟩ <;> rw [hr]
  · exact .inl fun _ _ => rfl
  · exact .inl fun _ _ => rfl
  · exact .inl fun _ _ => rfl
  · obtain ⟨hm, _⟩ := Registry.mem_of_entry? he
    obtain ⟨d, hd, ht, _⟩ := h.owned e hm
    have waits := h.registry.waiting e hm
    refine .inr ⟨d, hd, ?_, ?_, ?_⟩
    · rw [ht]
      exact waits
    · rw [ht]
      exact Registry.content_fill_self rfl (h.registry.issued e hm) waits
    · intro c _ hct
      exact Registry.content_fill_ne rfl (ht ▸ hct)

theorem Sound.move_listen (h : b.Sound) : Move b (b.act .listen).1 .listen (b.act .listen).2 := by
  cases hu : b.unread with
  | nil =>
    have stays : b.act .listen = (b, .silent) := by
      simp only [act, hu, listen_of_nil hu]
    rw [stays]
    exact move_stay rfl
  | cons m rest =>
    obtain ⟨streams, eq, left⟩ := listen_of_cons hu
    have heard : b.act .listen = (b.listen, .heard m (b.registry.resolve m).2) := by
      simp only [act, hu]
    rw [heard]
    refine .heard (by rw [eq]; rfl) (by rw [eq]) (by rw [left, hu]) (by rw [eq]) (by rw [eq]) ?_
    rw [eq]
    exact h.filled_resolve m

theorem Sound.move_poll (h : b.Sound) (number : Nat) (branch : Branch) :
    Move b (b.act (.poll number branch)).1 (.poll number branch)
      (b.act (.poll number branch)).2 := by
  rcases b.inFlight_or number with ⟨c, hc, rfl⟩ | missing
  · have look := poll_look hc (h.unique hc) branch
    generalize hx : b.poll c.number branch = next at look
    -- Whatever a call that departs does to the registry, it brings nothing to the others.
    have departs : ∀ (o : Registry.Op), (∀ m, o ≠ .resolve m) →
        NoMail b (b.depart c (b.registry.perform o).1) :=
      fun o ho => noMail_depart fun d hd => h.content_plain hd ho
    cases look with
    | idle =>
      rw [act_poll_none hx]
      exact move_stay rfl
    | answered full =>
      rw [act_poll_some hx]
      exact .returned hc full rfl rfl (unread_congr rfl rfl) rfl
        (departs (.take c.ticket) (fun _ => Registry.Op.noConfusion)) (not_mem_depart _)
    | dropped closed =>
      rw [act_poll_some hx]
      exact move_of_noMail rfl rfl rfl rfl (noMail_depart fun _ _ => .inl rfl)
    | timedOut =>
      rw [act_poll_some hx]
      exact move_of_noMail rfl rfl rfl rfl
        (departs (.expire c.correlation) (fun _ => Registry.Op.noConfusion))
    | cancelled =>
      rw [act_poll_some hx]
      exact move_of_noMail rfl rfl rfl rfl
        (departs (.cancel c.correlation) (fun _ => Registry.Op.noConfusion))
    | overtaken =>
      rw [act_poll_none hx]
      refine move_of_noMail rfl rfl rfl rfl ?_
      intro d hd
      rcases mem_yieldTo.mp hd with ⟨hm, _⟩ | ⟨e, he, _, rfl⟩
      · exact ⟨d, hm, rfl, .inl rfl⟩
      · exact ⟨e, he, rfl, .inl rfl⟩
  · have stays := poll_of_not_mem missing branch
    rw [act_poll_none stays]
    exact move_stay rfl

theorem Sound.move_abandon (h : b.Sound) (number : Nat) {r : Report} (report : r.isNews = false) :
    Move b (b.abandon number) (.abandon number) r := by
  rcases b.inFlight_or number with ⟨c, hc, rfl⟩ | missing
  · rw [abandon_of_mem hc (h.unique hc)]
    cases c.stage with
    | waiting =>
      exact move_of_noMail report rfl rfl rfl (noMail_depart fun d hd =>
        h.content_plain (o := .cancel c.correlation) hd (fun _ => Registry.Op.noConfusion))
    | resolved => exact move_of_noMail report rfl rfl rfl (noMail_depart fun _ _ => .inl rfl)
  · rw [abandon_of_not_mem missing]
    exact move_stay report

/-- Every act is one of the six moves. -/
theorem Sound.move (h : b.Sound) (a : Act) : Move b (b.act a).1 a (b.act a).2 := by
  cases a with
  | join channel =>
    exact .joined (by simp [act, Hub.join, Hub.badges]) rfl (unread_congr rfl rfl) rfl rfl rfl
  | leave peer =>
    exact move_of_hub rfl (fun _ hx => Hub.badges_leave peer hx) (Hub.capacity_leave peer).2
      (Hub.streams_leave peer)
  | read peer =>
    simp only [act]
    split
    · next p _ =>
      obtain ⟨peers, eq, badges⟩ := b.hub.receive_eq p
      rw [eq]
      exact move_of_hub rfl (by rw [badges]; exact List.Subset.refl _) rfl rfl
    · exact move_stay rfl
  | publish channel m =>
    simp only [act, send]
    obtain ⟨peers, published, eq, badges⟩ := b.hub.publish_eq channel m
    split
    · next hub _ hx =>
      rw [hx] at eq
      subst eq
      exact move_of_hub rfl (by rw [badges]; exact List.Subset.refl _) rfl rfl
    · exact move_stay rfl
  | reply peer m =>
    simp only [act]
    split
    · next p hp =>
      rcases b.hub.reply_cases p m with ⟨⟨e, answer⟩, same⟩ | ⟨answer, sent⟩
      · rw [answer, same]
        exact move_stay rfl
      · rw [answer, sent]
        refine .handed (Hub.peer?_mem hp) rfl rfl ?_ rfl rfl rfl
        exact unread_reply b (m.stamped p.channel)
    · exact move_stay rfl
  | start d fresh => exact h.move_start d fresh
  | abandon number => exact h.move_abandon number rfl
  | signal n => exact move_of_noMail rfl rfl rfl rfl (noMail_of_eq rfl rfl)
  | dropHandle n => exact move_stay rfl
  | tick span => exact move_of_noMail rfl rfl rfl rfl (noMail_of_eq rfl rfl)
  | sweep grace =>
    refine move_of_noMail rfl rfl rfl rfl ?_
    intro c hc
    exact ⟨c, hc, rfl, h.content_plain (o := .sweep b.now grace) hc
      (fun _ => Registry.Op.noConfusion)⟩
  | listen => exact h.move_listen
  | poll number branch => exact h.move_poll number branch

end

end Bridge

end PaymentRelay
