import PaymentRelay.Proofs.Bridge.Beat
import PaymentRelay.Proofs.Bridge.Succession

/-
  What every step of a bridge with sweepers keeps, however late the sweepers and the calls are.

  A sweeper may find the entry of a call that has been due for a while and has not looked. The call
  then finds nothing any more, and as its deadline has passed it takes that for its timeout. So the
  prospect of a call is the same before the sweep and after it, and at most one reason to end is
  ready for each call, as where nobody sweeps (`Steady`). While everything settles no call starts,
  so that the ids of calls in flight are all different, and a call that removes an entry removes its
  own (`Steady.poll_cases`).
-/

namespace PaymentRelay

namespace Bridge

/-- At most one reason to end is ready for each call, and none while a reply is unread; nothing is
taken from a call that is not due. -/
structure Steady (b : Bridge) : Prop where
  sound : b.Sound
  dated : b.Dated
  apart : b.Apart
  lapsed : ∀ c ∈ b.calls, b.registry.content c.ticket = .closed → c.deadline ≤ b.now
  answered : ∀ c ∈ b.calls, ∀ m, b.registry.content c.ticket = .reply m →
    ¬ c.deadline ≤ b.now ∧ c.context.isCancelled b.signals = false
  due : ∀ c ∈ b.calls, c.deadline ≤ b.now → c.context.isCancelled b.signals = false
  unread : b.unread = [] ∨ (∃ m, b.unread = [m]) ∧ ∀ c ∈ b.calls, b.prospect c = none

/-- How a call ends that looks, and what becomes of the registry before the call departs. -/
inductive Ending (b : Bridge) (c : Call) : Outcome → Registry → Prop
  | answered {m : Message} (full : b.registry.content c.ticket = .reply m) :
      Ending b c (.ok m) (b.registry.take c.ticket).1
  /-- A sweeper has taken its entry. -/
  | swept (closed : b.registry.content c.ticket = .closed) : Ending b c (timedOut c) b.registry
  | timedOut (waits : b.registry.content c.ticket = .waiting) :
      Ending b c (timedOut c) (b.registry.expire c.correlation).1
  | cancelled (waits : b.registry.content c.ticket = .waiting) :
      Ending b c (cancelled c) (b.registry.cancel c.correlation).1

/-- The calls in flight were in flight before, and find what they found. -/
def Remain (b b' : Bridge) : Prop :=
  ∀ d ∈ b'.calls, ∃ c ∈ b.calls, d = { c with stage := d.stage } ∧
    b'.registry.content c.ticket = b.registry.content c.ticket

section
variable {b b' : Bridge} {c : Call} {a : Act} {x : Beat}

/-! ## Rest -/

theorem Steady.calm (h : b.Steady) (unclosed : ∀ c ∈ b.calls,
    b.registry.content c.ticket ≠ .closed) : b.Calm :=
  ⟨h.sound, unclosed, h.answered, h.due, h.unread⟩

theorem Calm.steady (calm : b.Calm) (dated : b.Dated) (apart : b.Apart) : b.Steady :=
  ⟨calm.sound, dated, apart, fun c hc closed => absurd closed (calm.unclosed c hc), calm.answered,
    calm.due, calm.unread⟩

theorem unclosed_of_quiet (quiet : ∀ c ∈ b.calls, b.prospect c = none) :
    ∀ c ∈ b.calls, b.registry.content c.ticket ≠ .closed := by
  intro c hc
  rw [(prospect_eq_none_iff.mp (quiet c hc)).1]
  exact Content.noConfusion

/-- What does not happen in the turn of a task leaves calls with different ids. -/
theorem Steady.apart_act (h : b.Steady) (ho : b.InOrder a) : (b.act a).1.Apart := by
  by_cases starts : ∃ d fresh, a = .start d fresh
  · obtain ⟨d, fresh, rfl⟩ := starts
    obtain ⟨_, quiet⟩ := ho.settled h.sound rfl
    rcases start_cases b d fresh with ⟨e, eq⟩ | ⟨hp, e, eq⟩ | ⟨hp, _⟩
    · simp only [act, eq]
      exact h.apart
    · simp only [act, eq]
      exact h.apart
    · refine h.apart.apart_act h.sound ?_
      rintro d' fresh' same c hc correlation
      obtain ⟨rfl, rfl⟩ : d = d' ∧ fresh = fresh' := by simpa using same
      -- All calls in flight wait, so their ids are pending.
      have waits := (prospect_eq_none_iff.mp (quiet c hc)).1
      obtain ⟨e, _, _, _, found⟩ := h.sound.own_entry hc waits
      rw [correlation] at found
      simp [Registry.isPending, found] at hp
  · exact h.apart.apart_act h.sound fun d fresh same => absurd ⟨d, fresh, same⟩ starts

/-! ## Turns -/

/-- A call that removes an entry removes its own, and waits till then. -/
theorem Steady.waits_of_pending (h : b.Steady) (hc : c ∈ b.calls)
    (found : b.registry.isPending c.correlation = true) :
    b.registry.content c.ticket = .waiting := by
  obtain ⟨e, he⟩ := Option.isSome_iff_exists.mp found
  exact (h.sound.own_iff_waiting hc he).mp (h.apart.own h.sound hc he)

/-- A call that takes its turn finds nothing, or finds that its entry has been swept and looks once
more, or ends. -/
theorem Steady.poll_cases (h : b.Steady) (hc : c ∈ b.calls) (branch : Branch) :
    b.poll c.number branch = (b, none) ∨
      b.registry.content c.ticket ≠ .waiting ∧ b.poll c.number branch = (b.yieldTo c, none) ∨
      ∃ o r, Ending b c o r ∧ b.poll c.number branch = (b.depart c r, some o) := by
  have look := poll_look hc (h.sound.unique hc) branch
  generalize b.poll c.number branch = next at look
  cases look with
  | idle => exact .inl rfl
  | answered full => exact .inr (.inr ⟨_, _, .answered full, rfl⟩)
  | dropped closed =>
    have late : b.dropped c = .timeout c.correlation (c.deadline.since c.started) :=
      if_pos (h.lapsed c hc closed)
    refine .inr (.inr ⟨_, _, .swept closed, ?_⟩)
    rw [late]
    rfl
  | timedOut _ _ found =>
    exact .inr (.inr ⟨_, _, .timedOut (h.waits_of_pending hc found), rfl⟩)
  | cancelled _ _ found =>
    exact .inr (.inr ⟨_, _, .cancelled (h.waits_of_pending hc found), rfl⟩)
  | overtaken _ _ missing =>
    exact .inr (.inl ⟨h.sound.not_waiting_of_missing hc missing, rfl⟩)

/-- A call that ends leaves the slots of the others alone. -/
theorem Ending.others {o : Outcome} {r : Registry} (ending : Ending b c o r) (h : b.Sound)
    (hc : c ∈ b.calls) : ∀ d ∈ b.calls, d.number ≠ c.number →
      r.content d.ticket = b.registry.content d.ticket := by
  intro d hd other
  cases ending with
  | answered full =>
    rw [Registry.take_of_reply full]
    refine Registry.content_congr (List.getElem?_modify_ne _ _ ?_)
    exact fun same => other (by rw [h.eq_of_mem hd hc (.inr same.symm)])
  | swept => rfl
  | timedOut waits => exact h.own_removal hc waits (.inl rfl) hd other
  | cancelled waits => exact h.own_removal hc waits (.inr rfl) hd other

theorem remain_yieldTo : Remain b (b.yieldTo c) := by
  intro d hd
  rcases mem_yieldTo.mp hd with ⟨hm, _⟩ | ⟨e, he, _, rfl⟩
  · exact ⟨d, hm, rfl, rfl⟩
  · exact ⟨e, he, rfl, rfl⟩

theorem Steady.keep (h : b.Steady) (sound : b'.Sound) (dated : b'.Dated) (apart : b'.Apart)
    (remain : Remain b b') (now : b'.now = b.now) (signals : b'.signals = b.signals)
    (unread : b'.unread = b.unread) : b'.Steady where
  sound := sound
  dated := dated
  apart := apart
  lapsed := by
    intro d hd closed
    obtain ⟨c, hc, eq, content⟩ := remain d hd
    rw [eq] at closed ⊢
    rw [now]
    exact h.lapsed c hc (content.symm.trans closed)
  answered := by
    intro d hd m full
    obtain ⟨c, hc, eq, content⟩ := remain d hd
    rw [eq] at full ⊢
    rw [now, signals]
    exact h.answered c hc m (content.symm.trans full)
  due := by
    intro d hd
    obtain ⟨c, hc, eq, _⟩ := remain d hd
    rw [eq, now, signals]
    exact h.due c hc
  unread := by
    rw [unread]
    refine h.unread.imp_right fun ⟨one, quiet⟩ => ⟨one, fun d hd => ?_⟩
    obtain ⟨c, hc, eq, content⟩ := remain d hd
    rw [eq]
    exact (prospect_congr content now signals).trans (quiet c hc)

theorem Steady.steady_poll (h : b.Steady) (number : Nat) (branch : Branch) :
    (b.poll number branch).1.Steady := by
  have sound := h.sound.sound_poll number branch
  have dated := h.sound.dated_act h.dated (.poll number branch)
  have apart := h.apart_act (a := .poll number branch) (.inl rfl)
  rw [act_poll] at dated apart
  rcases b.inFlight_or number with ⟨c, hc, rfl⟩ | missing
  · rcases h.poll_cases hc branch with eq | ⟨_, eq⟩ | ⟨o, r, ending, eq⟩ <;>
      rw [eq] at sound dated apart ⊢
    · exact h
    · exact h.keep sound dated apart remain_yieldTo rfl rfl (unread_congr rfl rfl)
    · refine h.keep sound dated apart (fun d hd => ?_) rfl rfl (unread_congr rfl rfl)
      obtain ⟨hm, content⟩ := sameProspects_depart (ending.others h.sound hc) d hd
      exact ⟨d, hm, rfl, content⟩
  · rw [poll_of_not_mem missing]
    exact h

/-- An act in its order keeps a steady bridge steady. -/
theorem Steady.steady_act (h : b.Steady) (ho : b.InOrder a) : (b.act a).1.Steady := by
  have dated := h.sound.dated_act h.dated a
  have apart := h.apart_act ho
  cases turn : a.isTurn with
  | false =>
    have calm := h.calm (unclosed_of_quiet (ho.settled h.sound turn).2)
    exact (calm.calm_act ho).steady dated apart
  | true =>
    cases a with
    | listen =>
      rcases h.unread with silent | ⟨_, quiet⟩
      · rw [act_listen, listen_of_nil silent]
        exact h
      · have calm := h.calm (unclosed_of_quiet quiet)
        exact (calm.calm_act ho).steady dated apart
    | poll number branch =>
      rw [act_poll]
      exact h.steady_poll number branch
    | _ => cases turn

/-! ## Rounds -/

/-- The sweep takes nothing from a call whose reply is there, and closes the slot of no call that is
not due. -/
theorem Steady.content_sweep (h : b.Steady) (hc : c ∈ b.calls) :
    (b.sweep sweepGrace).1.registry.content c.ticket = b.registry.content c.ticket ∨
      b.registry.content c.ticket = .waiting ∧ c.deadline ≤ b.now ∧
        (b.sweep sweepGrace).1.registry.content c.ticket = .closed := by
  have turn := h.sound.registry.turn_sweep (t := c.ticket) b.now sweepGrace (n := 0)
  cases turn with
  | kept _ content => exact .inl content
  | @swept e _ _ _ mem ticket stale _ content =>
    have waits := h.sound.registry.waiting e mem
    have here := (h.sound.held c hc).2
    rw [← ticket] at here
    -- Its holder is there, so the sweep takes it for its deadline.
    have overdue : c.deadline.after sweepGrace ≤ b.now := by
      simpa [Registry.isStale, Registry.isOverdue, here, h.dated e mem c hc ticket.symm] using stale
    refine .inr ⟨ticket ▸ waits, ?_, content⟩
    by_cases due : c.deadline ≤ b.now
    · exact due
    · exact absurd overdue (Int.not_le.mpr (Instant.lt_after_of_not_le due sweepGrace))

theorem Steady.steady_sweep (h : b.Steady) : (b.sweep sweepGrace).1.Steady where
  sound := sound_act h.sound (.sweep sweepGrace)
  dated := h.sound.dated_act h.dated (.sweep sweepGrace)
  apart := h.apart
  lapsed := by
    intro c hc closed
    rcases h.content_sweep hc with same | ⟨_, due, _⟩
    · exact h.lapsed c hc (same.symm.trans closed)
    · exact due
  answered := by
    intro c hc m full
    rcases h.content_sweep hc with same | ⟨_, _, closed⟩
    · exact h.answered c hc m (same.symm.trans full)
    · rw [closed] at full
      cases full
  due := h.due
  unread := by
    refine h.unread.imp_right fun ⟨one, quiet⟩ => ⟨one, fun c hc => ?_⟩
    have none := quiet c hc
    rcases h.content_sweep hc with same | ⟨_, due, _⟩
    · exact (prospect_congr same rfl rfl).trans none
    · exact absurd due (prospect_eq_none_iff.mp none).2.1

theorem Steady.sweepers (h : b.Steady) (ss : List Sweeper) : Steady { b with sweepers := ss } :=
  ⟨h.sound.congr rfl rfl rfl, h.dated, h.apart, h.lapsed, h.answered, h.due, h.unread⟩

/-- Whatever happens in step keeps a steady bridge steady. -/
theorem Steady.steady_beat (h : b.Steady) (hx : b.InStep x) : (b.beat x).1.Steady := by
  cases x with
  | act a => exact h.steady_act hx.inOrder
  | hire interval => exact h.sweepers _
  | round => exact sweepDue_keeps (h.sweepers _) fun _ => Steady.steady_sweep

theorem steady_new (capacity limit : Nat) (listening : Bool) :
    (new (.new capacity limit) listening).Steady := by
  refine (calm_idle capacity limit listening).steady (dated_new capacity limit listening) ?_
  cases listening <;> simp [Apart, new]

end

end Bridge

end PaymentRelay
