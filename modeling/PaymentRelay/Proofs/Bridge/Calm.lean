import PaymentRelay.Proofs.Bridge.Move

/-
  Runs in which everything settles after each step.

  A bridge has settled when no turn of a task does anything (`Settled`). A run is orderly when
  everything else happens in bridges that have settled, and nobody but the calls and the listener
  touches the registry (`Orderly`). The order of the turns in between is open.

  In an orderly run at most one reason to end is ready for each call, and none at all while a reply
  is unread (`Calm`). How a call ends is then a matter of the state that it is in (`prospect`): the
  call ends that way at its next turn that does anything (`Calm.poll_cases`), and no turn of another
  call has a say in it.
-/

namespace PaymentRelay

namespace Bridge

/-- The act is the turn of a task. -/
def Act.isTurn : Act → Bool
  | .listen | .poll .. => true
  | _ => false

/-- No turn of a task does anything. -/
def Settled (b : Bridge) : Prop := ∀ a : Act, a.isTurn = true → b.act a = (b, .silent)

/-- An act that may happen in an orderly run. -/
def InOrder (b : Bridge) (a : Act) : Prop :=
  a.isTurn = true ∨ b.Settled ∧ ∀ grace, a ≠ .sweep grace

/-- Everything but the turns of tasks happens when everything has settled, and nobody sweeps. -/
def Orderly : Bridge → List Act → Prop
  | _, [] => True
  | b, a :: rest => b.InOrder a ∧ Orderly (b.act a).1 rest

/-- A call ends because its deadline has come. -/
def timedOut (c : Call) : Outcome :=
  .error (.timeout c.correlation (c.deadline.since c.started))

/-- A call ends because its context is cancelled. -/
def cancelled (c : Call) : Outcome := .error (.cancelled c.correlation)

/-- How a call is going to end, as things are. -/
def prospect (b : Bridge) (c : Call) : Option Outcome :=
  match b.registry.content c.ticket with
  | .reply m => some (.ok m)
  | .closed => some (.error (b.dropped c))
  | .waiting =>
    if c.deadline ≤ b.now then some (timedOut c)
    else if c.context.isCancelled b.signals then some (cancelled c)
    else none

/-- At most one reason to end is ready for each call, and none while a reply is unread. -/
structure Calm (b : Bridge) : Prop where
  sound : b.Sound
  unclosed : ∀ c ∈ b.calls, b.registry.content c.ticket ≠ .closed
  answered : ∀ c ∈ b.calls, ∀ m, b.registry.content c.ticket = .reply m →
    ¬ c.deadline ≤ b.now ∧ c.context.isCancelled b.signals = false
  due : ∀ c ∈ b.calls, c.deadline ≤ b.now → c.context.isCancelled b.signals = false
  unread : b.unread = [] ∨ (∃ m, b.unread = [m]) ∧ ∀ c ∈ b.calls, b.prospect c = none

section
variable {b b' : Bridge} {c d : Call}

theorem prospect_eq_none_iff : b.prospect c = none ↔
    b.registry.content c.ticket = .waiting ∧ ¬ c.deadline ≤ b.now ∧
      c.context.isCancelled b.signals = false := by
  unfold prospect
  cases b.registry.content c.ticket with
  | reply m => simp
  | closed => simp
  | waiting =>
    by_cases due : c.deadline ≤ b.now
    · simp [due]
    · cases hx : c.context.isCancelled b.signals <;> simp [due]

/-- The prospect of a call is up to its slot, the clock and the signals. -/
theorem prospect_congr
    (content : b'.registry.content c.ticket = b.registry.content c.ticket)
    (now : b'.now = b.now) (signals : b'.signals = b.signals) : b'.prospect c = b.prospect c := by
  simp only [prospect, content, now, signals, dropped]

theorem prospect_of_reply {m : Message} (h : b.registry.content c.ticket = .reply m) :
    b.prospect c = some (.ok m) := by
  simp only [prospect, h]

theorem prospect_of_due (h : b.registry.content c.ticket = .waiting) (due : c.deadline ≤ b.now) :
    b.prospect c = some (timedOut c) := by
  simp only [prospect, h, due, if_true]

theorem prospect_of_cancelled (h : b.registry.content c.ticket = .waiting)
    (early : ¬ c.deadline ≤ b.now) (given : c.context.isCancelled b.signals = true) :
    b.prospect c = some (cancelled c) := by
  simp only [prospect, h, early, given, if_true, if_false]

/-! ## What has settled -/

/-- A call that finds nothing at whatever it looks has no reason to end. -/
theorem Sound.prospect_of_still (h : b.Sound) (hc : c ∈ b.calls)
    (still : ∀ branch, (b.poll c.number branch).2 = none) : b.prospect c = none := by
  have empty : b.registry.content c.ticket = .waiting := by
    have look := poll_look hc (h.unique hc) .reply
    have nothing := still .reply
    generalize b.poll c.number .reply = next at look nothing
    cases look with
    | idle empty => exact empty (.inl rfl)
    | answered => cases nothing
    | dropped => cases nothing
    | overtaken _ ready => simp at ready
  have early := still .deadline
  have quiet := still .cancellation
  rw [h.poll_of_waiting hc empty] at early quiet
  rw [prospect_eq_none_iff]
  refine ⟨empty, ?_, ?_⟩
  · intro due
    simp [due] at early
  · simpa using quiet

/-- A bridge has settled when nothing is unread and no call is going to end. -/
theorem Sound.settled_iff (h : b.Sound) :
    b.Settled ↔ b.unread = [] ∧ ∀ c ∈ b.calls, b.prospect c = none := by
  constructor
  · intro settled
    refine ⟨?_, ?_⟩
    · cases hu : b.unread with
      | nil => rfl
      | cons m rest =>
        have still := settled .listen rfl
        simp only [act, hu, Prod.mk.injEq] at still
        exact absurd still.2 Report.noConfusion
    · intro c hc
      refine h.prospect_of_still hc fun branch => ?_
      rcases hx : b.poll c.number branch with ⟨next, _ | o⟩
      · rfl
      · have still := settled (.poll c.number branch) rfl
        rw [act_poll_some hx, Prod.mk.injEq] at still
        exact absurd still.2 Report.noConfusion
  · rintro ⟨silent, quiet⟩ a ha
    cases a with
    | listen => simp only [act, silent, listen_of_nil silent]
    | poll number branch =>
      rcases b.inFlight_or number with ⟨c, hc, rfl⟩ | missing
      · obtain ⟨empty, early, quiet⟩ := prospect_eq_none_iff.mp (quiet c hc)
        have look := poll_look hc (h.unique hc) branch
        generalize hx : b.poll c.number branch = next at look
        cases look with
        | idle => exact act_poll_none hx
        | answered full => exact absurd (empty.symm.trans full) Content.noConfusion
        | dropped closed => exact absurd (empty.symm.trans closed) Content.noConfusion
        | timedOut _ due => exact absurd due early
        | cancelled _ given => exact absurd (quiet.symm.trans given) Bool.noConfusion
        | overtaken _ _ missing => exact absurd empty (h.not_waiting_of_missing hc missing)
      · exact act_poll_none (poll_of_not_mem missing branch)
    | _ => cases ha

end

/-! ## Turns -/

section
variable {b b' : Bridge} {c d : Call}

/-- The prospects of the calls are what they were. -/
def SameProspects (b b' : Bridge) : Prop := ∀ c ∈ b'.calls, c ∈ b.calls ∧
  b'.registry.content c.ticket = b.registry.content c.ticket

/-- A call that waits removes its own entry, and touches no other call. -/
theorem Sound.own_removal (h : b.Sound) (hc : c ∈ b.calls)
    (hw : b.registry.content c.ticket = .waiting) {o : Registry.Op}
    (removal : o = .expire c.correlation ∨ o = .cancel c.correlation) (hd : d ∈ b.calls)
    (other : d.number ≠ c.number) :
    (b.registry.perform o).1.content d.ticket = b.registry.content d.ticket := by
  obtain ⟨e, _, ht, _, found⟩ := h.own_entry hc hw
  have apart : d.ticket ≠ e.ticket := by
    rw [ht]
    exact fun same => other (by rw [h.eq_of_mem hd hc (.inr same)])
  rcases removal with rfl | rfl
  · simp only [Registry.perform, Registry.expire, Registry.remove_of_some found]
    exact Registry.content_fill_ne rfl apart
  · simp only [Registry.perform, Registry.cancel, Registry.remove_of_some found]
    exact Registry.content_fill_ne rfl apart

/-- What a call does that departs without touching the others. -/
theorem sameProspects_depart {r : Registry}
    (same : ∀ d ∈ b.calls, d.number ≠ c.number → r.content d.ticket = b.registry.content d.ticket) :
    SameProspects b (b.depart c r) := by
  intro d hd
  have both : d ∈ b.calls ∧ d.number ≠ c.number := by simpa [depart] using hd
  refine ⟨both.1, ?_⟩
  show (r.drop c.ticket).content d.ticket = _
  rw [Registry.content_drop]
  exact same d both.1 both.2

/-- In calm, a call that takes its turn finds nothing, or ends as it is going to end and touches no
other call. -/
theorem Calm.poll_cases (calm : b.Calm) (hc : c ∈ b.calls) (branch : Branch) :
    b.poll c.number branch = (b, none) ∨
    ∃ o r, b.poll c.number branch = (b.depart c r, some o) ∧ b.prospect c = some o ∧
      ∀ d ∈ b.calls, d.number ≠ c.number →
        r.content d.ticket = b.registry.content d.ticket := by
  have sound := calm.sound
  -- A call that is due or cancelled has got no reply.
  have waits : c.deadline ≤ b.now ∨ c.context.isCancelled b.signals = true →
      b.registry.content c.ticket = .waiting := by
    intro ready
    cases hx : b.registry.content c.ticket with
    | waiting => rfl
    | closed => exact absurd hx (calm.unclosed c hc)
    | reply m =>
      obtain ⟨early, quiet⟩ := calm.answered c hc m hx
      rcases ready with due | given
      · exact absurd due early
      · exact absurd (quiet.symm.trans given) Bool.noConfusion
  have look := poll_look hc (sound.unique hc) branch
  generalize b.poll c.number branch = next at look
  cases look with
  | idle => exact .inl rfl
  | @answered _ m full =>
    refine .inr ⟨_, _, rfl, prospect_of_reply full, ?_⟩
    intro d hd other
    rw [Registry.take_of_reply full]
    refine Registry.content_congr (List.getElem?_modify_ne _ _ ?_)
    exact fun same => other (by rw [sound.eq_of_mem hd hc (.inr same.symm)])
  | dropped closed => exact absurd closed (calm.unclosed c hc)
  | timedOut _ due =>
    have hw := waits (.inl due)
    exact .inr ⟨_, _, rfl, prospect_of_due hw due,
      fun d hd other => sound.own_removal hc hw (.inl rfl) hd other⟩
  | cancelled _ given =>
    have hw := waits (.inr given)
    have early : ¬ c.deadline ≤ b.now := by
      intro due
      exact absurd ((calm.due c hc due).symm.trans given) Bool.noConfusion
    exact .inr ⟨_, _, rfl, prospect_of_cancelled hw early given,
      fun d hd other => sound.own_removal hc hw (.inr rfl) hd other⟩
  | overtaken _ ready missing =>
    refine absurd (waits ?_) (sound.not_waiting_of_missing hc missing)
    exact ready.imp And.right And.right

theorem Calm.keep (calm : b.Calm) (sound : b'.Sound) (same : SameProspects b b')
    (now : b'.now = b.now) (signals : b'.signals = b.signals) (unread : b'.unread = b.unread) :
    b'.Calm where
  sound := sound
  unclosed := by
    intro c hc
    rw [(same c hc).2]
    exact calm.unclosed c (same c hc).1
  answered := by
    intro c hc m hm
    rw [now, signals]
    exact calm.answered c (same c hc).1 m ((same c hc).2.symm.trans hm)
  due := by
    intro c hc
    rw [now, signals]
    exact calm.due c (same c hc).1
  unread := by
    rw [unread]
    refine calm.unread.imp_right fun ⟨one, quiet⟩ => ⟨one, fun c hc => ?_⟩
    rw [prospect_congr (same c hc).2 now signals]
    exact quiet c (same c hc).1

theorem Calm.calm_poll (calm : b.Calm) (number : Nat) (branch : Branch) :
    (b.poll number branch).1.Calm := by
  rcases b.inFlight_or number with ⟨c, hc, rfl⟩ | missing
  · have sound := calm.sound.sound_poll c.number branch
    rcases calm.poll_cases hc branch with stays | ⟨o, r, ends, _, same⟩
    · rw [stays]
      exact calm
    · rw [ends] at sound ⊢
      exact calm.keep sound (sameProspects_depart same) rfl rfl (unread_congr rfl rfl)
  · rw [poll_of_not_mem missing branch]
    exact calm

/-- The slot of a call after the listener has read: the reply, if it is for this call. -/
theorem Sound.content_listen {m : Message} {rest : List Message} (h : b.Sound) (hc : c ∈ b.calls)
    (queued : b.unread = m :: rest) (hw : b.registry.content c.ticket = .waiting) :
    b.listen.registry.content c.ticket =
      if m.correlation = c.correlation ∧ m.channel = c.channel then .reply m else .waiting := by
  obtain ⟨streams, eq, _⟩ := listen_of_cons queued
  obtain ⟨e, he, ht, side, found⟩ := h.own_entry hc hw
  obtain ⟨inside, here⟩ := h.held c hc
  have registry : b.listen.registry = (b.registry.resolve m).1 := by rw [eq]
  rw [registry]
  split
  · next mine =>
    -- The entry under the correlation id of the reply is that of the call.
    have delivered : (b.registry.resolve m).1.slots =
        Registry.fill b.registry.slots c.ticket (.reply m) := by
      rw [← ht] at here ⊢
      simp [Registry.resolve, mine.1, found, side, mine.2, here]
    exact Registry.content_fill_self delivered inside hw
  · next other =>
    have turn := h.registry.turn inside (.resolve m)
    have answer : (b.registry.perform (.resolve m)).1 = (b.registry.resolve m).1 := rfl
    rw [answer] at turn
    generalize (b.registry.perform (.resolve m)).2 = a at turn
    cases turn with
    | kept _ content => exact content.trans hw
    | delivered mem ticket correlation channel =>
      obtain ⟨same, side⟩ := h.entry_of_ticket hc mem ticket
      exact absurd ⟨correlation.trans same, channel.trans side⟩ other
    | lost _ _ _ _ _ _ content => exact content.trans hw

/-- Hearing a reply gives at most one call a reason to end. -/
theorem Calm.calm_listen (calm : b.Calm) : b.listen.Calm := by
  rcases calm.unread with silent | ⟨⟨m, queued⟩, quiet⟩
  · rw [listen_of_nil silent]
    exact calm
  · obtain ⟨streams, eq, read⟩ := listen_of_cons queued
    have calls : b.listen.calls = b.calls := by rw [eq]
    have now : b.listen.now = b.now := by rw [eq]
    have signals : b.listen.signals = b.signals := by rw [eq]
    -- As long as a reply is unread all calls wait, so it is the first reason that any of them has.
    have content : ∀ c ∈ b.calls, b.listen.registry.content c.ticket =
        if m.correlation = c.correlation ∧ m.channel = c.channel then .reply m else .waiting :=
      fun c hc => calm.sound.content_listen hc queued (prospect_eq_none_iff.mp (quiet c hc)).1
    refine ⟨calm.sound.sound_listen, ?_, ?_, ?_, .inl read⟩
    · intro c hc
      rw [calls] at hc
      rw [content c hc]
      split <;> exact Content.noConfusion
    · intro c hc _ _
      rw [calls] at hc
      rw [now, signals]
      exact (prospect_eq_none_iff.mp (quiet c hc)).2
    · intro c hc _
      rw [calls] at hc
      rw [signals]
      exact (prospect_eq_none_iff.mp (quiet c hc)).2.2

/-! ## Other acts -/

/-- When everything has settled, calls that get one kind of reason to end stay calm. -/
theorem Calm.of_waiting (sound : b.Sound)
    (waits : ∀ c ∈ b.calls, b.registry.content c.ticket = .waiting)
    (single : (∀ c ∈ b.calls, ¬ c.deadline ≤ b.now) ∨
      ∀ c ∈ b.calls, c.context.isCancelled b.signals = false)
    (silent : b.unread = []) : b.Calm where
  sound := sound
  unclosed := by
    intro c hc
    rw [waits c hc]
    exact Content.noConfusion
  answered := by
    intro c hc m hm
    rw [waits c hc] at hm
    cases hm
  due := by
    intro c hc due
    rcases single with early | quiet
    · exact absurd due (early c hc)
    · exact quiet c hc
  unread := .inl silent

end

/-- The act is one of the hub alone. -/
def Act.isHub : Act → Bool
  | .join _ | .leave _ | .read _ | .publish .. | .reply .. | .dropHandle _ => true
  | _ => false

section
variable {b b' : Bridge} {c d : Call} {a : Act}

/-- An act of the hub alone leaves everything else as it is. -/
theorem act_hub (ha : a.isHub = true) : ∃ hub, (b.act a).1 = { b with hub } := by
  cases a with
  | join channel => exact ⟨_, rfl⟩
  | leave peer => exact ⟨_, rfl⟩
  | read peer =>
    simp only [act]
    split <;> exact ⟨_, rfl⟩
  | publish channel m =>
    simp only [act, send]
    split <;> exact ⟨_, rfl⟩
  | reply peer m =>
    simp only [act]
    split <;> exact ⟨_, rfl⟩
  | dropHandle n => exact ⟨_, rfl⟩
  | _ => cases ha

/-- Where nothing was unread, at most one reply is unread after an act of the hub. -/
theorem Sound.unread_hub (h : b.Sound) (ha : a.isHub = true) (silent : b.unread = []) :
    (b.act a).1.unread = [] ∨ ∃ m, (b.act a).1.unread = [m] := by
  have move := h.move a
  generalize (b.act a).2 = r at move
  cases move with
  | quiet _ _ _ unread => exact .inl (unread.trans silent)
  | joined _ _ unread => exact .inl (unread.trans silent)
  | handed _ _ _ unread =>
    rcases unread with unread | unread
    · exact .inl (unread.trans silent)
    · rw [unread, silent, enqueue]
      cases ([] : List Message).length + 1 - b.hub.capacity with
      | zero => exact .inr ⟨_, rfl⟩
      | succ n => exact .inl (by simp)
  | opened => cases ha
  | heard => cases ha
  | returned => cases ha

/-- What does not happen in the turn of a task happens when everything has settled. -/
theorem InOrder.settled (h : b.InOrder a) (sound : b.Sound) (ha : a.isTurn = false) :
    b.unread = [] ∧ ∀ c ∈ b.calls, b.prospect c = none := by
  rcases h with turn | ⟨settled, _⟩
  · rw [ha] at turn
    cases turn
  · exact sound.settled_iff.mp settled

theorem Calm.calm_hub (calm : b.Calm) (ho : b.InOrder a) (ha : a.isHub = true)
    (turn : a.isTurn = false) : (b.act a).1.Calm := by
  obtain ⟨silent, quiet⟩ := ho.settled calm.sound turn
  have sound := sound_act calm.sound a
  have unread := calm.sound.unread_hub ha silent
  obtain ⟨hub, eq⟩ := act_hub (b := b) ha
  rw [eq] at sound unread ⊢
  exact ⟨sound, calm.unclosed, calm.answered, calm.due, unread.imp_right fun one => ⟨one, quiet⟩⟩

theorem Calm.calm_start (calm : b.Calm) (d : Dial) (fresh : String)
    (ho : b.InOrder (.start d fresh)) : (b.start d fresh).1.Calm := by
  obtain ⟨silent, quiet⟩ := ho.settled calm.sound rfl
  have sound := calm.sound.sound_start d fresh
  have waits : ∀ c ∈ b.calls, b.registry.content c.ticket = .waiting :=
    fun c hc => (prospect_eq_none_iff.mp (quiet c hc)).1
  have uncancelled : ∀ c ∈ b.calls, c.context.isCancelled b.signals = false :=
    fun c hc => (prospect_eq_none_iff.mp (quiet c hc)).2.2
  rcases start_cases b d fresh with ⟨e, eq⟩ | ⟨hp, e, eq⟩ | ⟨hp, given, peers, published, _, eq⟩ <;>
    rw [eq] at sound ⊢
  · exact calm
  · refine .of_waiting sound ?_ (.inr uncancelled) silent
    intro c hc
    exact (Registry.content_congr (slot_withdraw hp (calm.sound.held c hc).1)).trans (waits c hc)
  · have split : ∀ c ∈ b.calls ++ [b.opened d fresh], c ∈ b.calls ∨ c = b.opened d fresh := by
      intro c hc
      simpa using hc
    refine .of_waiting sound ?_ (.inr ?_) ((unread_congr rfl rfl).trans silent)
    · intro c hc
      rcases split c hc with hc | rfl
      · exact (Registry.content_congr (slot_enroll (calm.sound.held c hc).1)).trans (waits c hc)
      · exact (content_opened hp).1
    · intro c hc
      rcases split c hc with hc | rfl
      · exact uncancelled c hc
      · exact given

/-- In a bridge that has settled, a call that is given up touches no other call. -/
theorem Calm.abandon_cases (calm : b.Calm) (quiet : ∀ c ∈ b.calls, b.prospect c = none)
    (number : Nat) : SameProspects b (b.abandon number) ∧ (b.abandon number).now = b.now ∧
      (b.abandon number).signals = b.signals ∧ (b.abandon number).unread = b.unread ∧
      (∀ c ∈ b.calls, c.number ≠ number → c ∈ (b.abandon number).calls) ∧
      ∀ c ∈ (b.abandon number).calls, c.number ≠ number := by
  rcases b.inFlight_or number with ⟨c, hc, rfl⟩ | missing
  · have hw := (prospect_eq_none_iff.mp (quiet c hc)).1
    have others : ∀ r, ∀ d ∈ b.calls, d.number ≠ c.number → d ∈ (b.depart c r).calls :=
      fun r d hd other => by simpa [depart] using ⟨hd, other⟩
    rw [abandon_of_mem hc (calm.sound.unique hc), calm.sound.stage_of_waiting hc hw]
    refine ⟨sameProspects_depart fun d hd other => ?_, rfl, rfl, unread_congr rfl rfl, others _,
      not_mem_depart _⟩
    exact calm.sound.own_removal hc hw (.inr rfl) hd other
  · rw [abandon_of_not_mem missing]
    exact ⟨fun c hc => ⟨hc, rfl⟩, rfl, rfl, rfl, fun c hc _ => hc, missing⟩

/-- Orderly runs stay calm. -/
theorem Calm.calm_act (calm : b.Calm) (ho : b.InOrder a) : (b.act a).1.Calm := by
  cases a with
  | start d fresh => exact calm.calm_start d fresh ho
  | abandon number =>
    obtain ⟨_, quiet⟩ := ho.settled calm.sound rfl
    obtain ⟨same, now, signals, unread, _⟩ := calm.abandon_cases quiet number
    exact calm.keep (calm.sound.sound_abandon number) same now signals unread
  | signal n =>
    -- No deadline has come so far, and a signal does not bring any.
    obtain ⟨silent, quiet⟩ := ho.settled calm.sound rfl
    exact .of_waiting (sound_act calm.sound (.signal n))
      (fun c hc => (prospect_eq_none_iff.mp (quiet c hc)).1)
      (.inl fun c hc => (prospect_eq_none_iff.mp (quiet c hc)).2.1) silent
  | tick span =>
    -- No context is cancelled so far, and the clock does not cancel any.
    obtain ⟨silent, quiet⟩ := ho.settled calm.sound rfl
    exact .of_waiting (sound_act calm.sound (.tick span))
      (fun c hc => (prospect_eq_none_iff.mp (quiet c hc)).1)
      (.inr fun c hc => (prospect_eq_none_iff.mp (quiet c hc)).2.2) silent
  | sweep grace =>
    rcases ho with turn | ⟨_, unswept⟩
    · cases turn
    · exact absurd rfl (unswept grace)
  | listen =>
    rw [act_listen]
    exact calm.calm_listen
  | poll number branch =>
    rw [act_poll]
    exact calm.calm_poll number branch
  | join | leave | read | publish | reply | dropHandle => exact calm.calm_hub ho rfl rfl

theorem calm_new (capacity limit : Nat) : (new (.new capacity limit) true).Calm :=
  .of_waiting (sound_new _ _) (by simp [new]) (.inl (by simp [new])) (unread_new capacity limit)

/-- An orderly run is one orderly run after another. -/
theorem orderly_append {xs ys : List Act} :
    Orderly b (xs ++ ys) ↔ Orderly b xs ∧ Orderly (act.after b xs) ys := by
  induction xs generalizing b with
  | nil => simp [Orderly, Machine.after]
  | cons a rest ih =>
    simp only [List.cons_append, Orderly, Machine.after, ih]
    exact and_assoc.symm

theorem Calm.calm_after (calm : b.Calm) {acts : List Act} (orderly : Orderly b acts) :
    (act.after b acts).Calm := by
  induction acts generalizing b with
  | nil => exact calm
  | cons a rest ih => exact ih (calm.calm_act orderly.1) orderly.2

end

end Bridge

end PaymentRelay
