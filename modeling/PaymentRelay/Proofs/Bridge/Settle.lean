import PaymentRelay.Proofs.Bridge.Fate

/-
  The schedule of the program: after each step the listener reads everything, and then every call
  looks at everything it waits for.

  Started in calm this is a run of turns like any other (`Turns`), and at its end everything has
  settled (`Calm.settle_turns`). So the runs of the program in which every step is followed by
  `settle` are orderly runs (`settling_run_orderly`).
-/

namespace PaymentRelay

namespace Bridge

/-- Turns of tasks lead from one bridge to another, and these calls end in them, in these ways. -/
def Turns (b b' : Bridge) (ended : List (Nat × Outcome)) : Prop :=
  ∃ acts : List Act, (∀ a ∈ acts, a.isTurn = true) ∧ act.after b acts = b' ∧
    ∀ n, outcomes n (act.transcript b acts) =
      ended.filterMap fun x => if x.1 = n then some x.2 else none

section
variable {b b' b'' : Bridge} {c : Call} {number : Nat}

theorem orderly_of_turns {acts : List Act} (turns : ∀ a ∈ acts, a.isTurn = true) :
    Orderly b acts := by
  induction acts generalizing b with
  | nil => trivial
  | cons a rest ih =>
    exact ⟨.inl (turns a (List.mem_cons_self ..)),
      ih fun a ha => turns a (List.mem_cons_of_mem _ ha)⟩

theorem Turns.refl (b : Bridge) : Turns b b [] := ⟨[], by simp, rfl, fun _ => rfl⟩

theorem Turns.trans {ended ended' : List (Nat × Outcome)} (h : Turns b b' ended)
    (h' : Turns b' b'' ended') : Turns b b'' (ended ++ ended') := by
  obtain ⟨acts, turns, rfl, told⟩ := h
  obtain ⟨acts', turns', rfl, told'⟩ := h'
  refine ⟨acts ++ acts', ?_, act.after_append b acts acts', ?_⟩
  · intro a ha
    exact (List.mem_append.mp ha).elim (turns a) (turns' a)
  · intro n
    rw [Machine.transcript_append, List.filterMap_append, ← told, ← told', outcomes,
      List.filterMap_append]
    rfl

theorem Turns.calm {ended : List (Nat × Outcome)} (h : Turns b b' ended) (calm : b.Calm) :
    b'.Calm := by
  obtain ⟨acts, turns, rfl, _⟩ := h
  exact calm.calm_after (orderly_of_turns turns)

/-! ## The listener -/

theorem turns_listen : Turns b b.listen [] := by
  refine ⟨[.listen], by simp [Act.isTurn], act_listen b, ?_⟩
  intro n
  exact outcomes_act fun _ => Act.noConfusion

theorem listenAll_eq : b.listenAll = b.unread.foldl (fun b _ => b.listen) b := by
  unfold listenAll unread
  cases b.listener.bind b.hub.stream? <;> rfl

theorem Calm.listenAll_turns (calm : b.Calm) : Turns b b.listenAll [] ∧ b.listenAll.unread = [] ∧
    b.listenAll.sweepers = b.sweepers := by
  rw [listenAll_eq]
  rcases calm.unread with silent | ⟨⟨m, queued⟩, _⟩
  · rw [silent]
    exact ⟨.refl b, silent, rfl⟩
  · rw [queued]
    obtain ⟨streams, eq, read⟩ := listen_of_cons queued
    exact ⟨turns_listen, read, by rw [List.foldl_cons, List.foldl_nil, eq]⟩

/-! ## The calls -/

/-- A call that looks at everything it waits for ends as it is going to end, or has no reason to
end. -/
theorem Calm.pollFully_cases (calm : b.Calm) (hc : c ∈ b.calls) :
    (b.pollFully c.number = (b, none) ∧ b.prospect c = none) ∨
    ∃ branch o r, b.pollFully c.number = (b.depart c r, some o) ∧
      b.poll c.number branch = (b.depart c r, some o) ∧
      ∀ d ∈ b.calls, d.number ≠ c.number → r.content d.ticket = b.registry.content d.ticket := by
  unfold pollFully
  -- A look that finds nothing leaves the bridge as it is, and the next one starts from there.
  rcases calm.poll_cases hc .reply with reply | ⟨o, r, reply, _, same⟩
  · rcases calm.poll_cases hc .deadline with deadline | ⟨o, r, deadline, _, same⟩
    · rcases calm.poll_cases hc .cancellation with cancellation | ⟨o, r, cancellation, _, same⟩
      · left
        refine ⟨by simp only [reply, deadline, cancellation], calm.sound.prospect_of_still hc ?_⟩
        intro branch
        cases branch with
        | reply => rw [reply]
        | deadline => rw [deadline]
        | cancellation => rw [cancellation]
      · exact .inr ⟨_, o, r, by simp only [reply, deadline, cancellation], cancellation, same⟩
    · exact .inr ⟨_, o, r, by simp only [reply, deadline], deadline, same⟩
  · exact .inr ⟨_, o, r, by simp only [reply], reply, same⟩

/-- Calls go, and the others keep the reasons to end that they have. -/
structure Leaves (b b' : Bridge) : Prop where
  unread : b'.unread = b.unread
  sweepers : b'.sweepers = b.sweepers
  prospects : ∀ c ∈ b'.calls, c ∈ b.calls ∧ b'.prospect c = b.prospect c

theorem Leaves.trans (h : Leaves b b') (h' : Leaves b' b'') : Leaves b b'' where
  unread := h'.unread.trans h.unread
  sweepers := h'.sweepers.trans h.sweepers
  prospects := fun c hc =>
    have ⟨hc', same'⟩ := h'.prospects c hc
    have ⟨hc'', same⟩ := h.prospects c hc'
    ⟨hc'', same'.trans same⟩

/-- After the call with a number has looked at everything, it is gone or has no reason to end. -/
theorem Calm.pollFully_turns (calm : b.Calm) (number : Nat) :
    Turns b (b.pollFully number).1 ((b.pollFully number).2.toList.map fun o => (number, o)) ∧
      Leaves b (b.pollFully number).1 ∧
      ∀ c ∈ (b.pollFully number).1.calls, c.number = number →
        (b.pollFully number).1.prospect c = none := by
  rcases b.inFlight_or number with ⟨c, hc, rfl⟩ | missing
  · rcases calm.pollFully_cases hc with ⟨stays, quiet⟩ | ⟨branch, o, r, ends, turn, same⟩
    · rw [stays]
      refine ⟨.refl b, ⟨rfl, rfl, fun d hd => ⟨hd, rfl⟩⟩, ?_⟩
      intro d hd own
      rw [calm.sound.unique hc d hd own]
      exact quiet
    · rw [ends]
      refine ⟨⟨[.poll c.number branch], by simp [Act.isTurn], ?_, ?_⟩,
        ⟨unread_congr rfl rfl, rfl, ?_⟩, ?_⟩
      · rw [Machine.after, act_poll_some turn]
        rfl
      · intro n
        rw [Machine.transcript, act_poll_some turn]
        rfl
      · intro d hd
        obtain ⟨hm, content⟩ := sameProspects_depart same d hd
        exact ⟨hm, prospect_congr content rfl rfl⟩
      · intro d hd own
        exact absurd own (not_mem_depart r d hd)
  · have stays : b.pollFully number = (b, none) := by
      simp only [pollFully, poll_of_not_mem missing]
    rw [stays]
    exact ⟨.refl b, ⟨rfl, rfl, fun d hd => ⟨hd, rfl⟩⟩,
      fun d hd own => absurd own (missing d hd)⟩

/-- After the calls of a list have looked, none of them has a reason to end. -/
theorem Calm.pollEach_turns (calm : b.Calm) (numbers : List Nat) :
    Turns b (b.pollEach numbers).1 (b.pollEach numbers).2 ∧ Leaves b (b.pollEach numbers).1 ∧
      ∀ c ∈ (b.pollEach numbers).1.calls, c.number ∈ numbers →
        (b.pollEach numbers).1.prospect c = none := by
  induction numbers generalizing b with
  | nil => exact ⟨.refl b, ⟨rfl, rfl, fun c hc => ⟨hc, rfl⟩⟩, by simp⟩
  | cons n rest ih =>
    obtain ⟨turns, leaves, quiet⟩ := calm.pollFully_turns n
    obtain ⟨turns', leaves', quiet'⟩ := ih (turns.calm calm)
    have bridge : (b.pollEach (n :: rest)).1 = ((b.pollFully n).1.pollEach rest).1 := by
      simp only [pollEach]
      split <;> rfl
    have ended : (b.pollEach (n :: rest)).2 =
        (b.pollFully n).2.toList.map (fun o => (n, o)) ++ ((b.pollFully n).1.pollEach rest).2 := by
      simp only [pollEach]
      cases (b.pollFully n).2 <;> rfl
    rw [bridge, ended]
    refine ⟨turns.trans turns', leaves.trans leaves', ?_⟩
    intro c hc hn
    rcases List.mem_cons.mp hn with own | hn
    · obtain ⟨hc', same⟩ := leaves'.prospects c hc
      rw [same]
      exact quiet c hc' own
    · exact quiet' c hc hn

/-! ## Settling -/

theorem sweepDue_of_nil (h : b.sweepers = []) : b.sweepDue = b := by
  cases b
  simp only at h
  subst h
  rfl

/-- In calm, and if nobody sweeps, settling is a run of turns after which everything has
settled. -/
theorem Calm.settle_turns (calm : b.Calm) (unswept : b.sweepers = []) :
    Turns b b.settle.1 b.settle.2 ∧ b.settle.1.Settled ∧ b.settle.1.sweepers = [] := by
  obtain ⟨read, silent, same⟩ := calm.listenAll_turns
  have unswept' := same.trans unswept
  have eq : b.settle = b.listenAll.pollEach (b.listenAll.calls.map (·.number)) := by
    simp only [settle, sweepDue_of_nil unswept']
  obtain ⟨turns, leaves, quiet⟩ :=
    (read.calm calm).pollEach_turns (b.listenAll.calls.map (·.number))
  have next := (read.trans turns).calm calm
  rw [eq]
  refine ⟨read.trans turns, next.sound.settled_iff.mpr ⟨leaves.unread.trans silent, ?_⟩,
    leaves.sweepers.trans unswept'⟩
  intro c hc
  exact quiet c hc (List.mem_map_of_mem (leaves.prospects c hc).1)

/-- The clock moves on in a bridge that has settled: the calls that are due end, and everything has
settled again. -/
theorem Calm.advance_turns (calm : b.Calm) (settled : b.Settled) (unswept : b.sweepers = [])
    (span : Span) :
    Turns { b with now := b.now.after span } (b.advance span).1 (b.advance span).2 ∧
      (b.advance span).1.Settled ∧ (b.advance span).1.sweepers = [] := by
  have next : Calm { b with now := b.now.after span } :=
    calm.calm_act (a := .tick span) (.inr ⟨settled, fun _ => Act.noConfusion⟩)
  obtain ⟨turns, leaves, _⟩ := next.pollEach_turns (b.calls.map (·.number))
  obtain ⟨turns', settled', unswept'⟩ :=
    (turns.calm next).settle_turns (leaves.sweepers.trans unswept)
  exact ⟨turns.trans turns', settled', unswept'⟩

end

/-! ## Runs of the program -/

section
variable {b : Bridge}

theorem sweepers_act (a : Act) : (b.act a).1.sweepers = b.sweepers := by
  cases a with
  | read peer | reply peer m =>
    simp only [act]
    split <;> rfl
  | publish channel m =>
    simp only [act, send]
    split <;> rfl
  | start d fresh =>
    show (b.start d fresh).1.sweepers = b.sweepers
    rcases start_cases b d fresh with ⟨e, eq⟩ | ⟨_, e, eq⟩ | ⟨_, _, peers, published, _, eq⟩ <;>
      rw [eq]
  | abandon number =>
    simp only [act, abandon]
    split <;> rfl
  | listen =>
    rw [act_listen]
    cases queued : b.unread with
    | nil => rw [listen_of_nil queued]
    | cons m rest =>
      obtain ⟨streams, eq, _⟩ := listen_of_cons queued
      rw [eq]
  | poll number branch =>
    rw [act_poll]
    unfold poll
    split
    · rfl
    · split <;> rfl
  | _ => rfl

/-- A step in a bridge that has settled, and settling after it, are orderly. -/
theorem Calm.settling_run (calm : b.Calm) (settled : b.Settled) (unswept : b.sweepers = [])
    {acts : List Act} (plain : ∀ a ∈ acts, ∀ grace, a ≠ .sweep grace) :
    (acts.foldl (fun b a => (b.act a).1.settle.1) b).Settled ∧
      ∃ run, Orderly b run ∧ act.after b run = acts.foldl (fun b a => (b.act a).1.settle.1) b := by
  induction acts generalizing b with
  | nil => exact ⟨settled, [], trivial, rfl⟩
  | cons a rest ih =>
    have inOrder : b.InOrder a := .inr ⟨settled, plain a (List.mem_cons_self ..)⟩
    have next := calm.calm_act inOrder
    obtain ⟨turns, settled', unswept'⟩ := next.settle_turns ((sweepers_act a).trans unswept)
    obtain ⟨settled'', run, orderly, same⟩ := ih (turns.calm next) settled' unswept'
      fun a ha => plain a (List.mem_cons_of_mem _ ha)
    -- The run: the step, the turns that settle it, and the run of the other steps.
    obtain ⟨between, taken, after, _⟩ := turns
    refine ⟨settled'', a :: (between ++ run), ⟨inOrder, ?_⟩, ?_⟩
    · rw [orderly_append, after]
      exact ⟨orderly_of_turns taken, orderly⟩
    · rw [Machine.after, act.after_append, after, same]
      rfl

end

/-- The runs of the program in which everything settles after each step are orderly. -/
theorem settling_run_orderly (capacity limit : Nat) (acts : List Act)
    (plain : ∀ a ∈ acts, ∀ grace, a ≠ .sweep grace) :
    let b := new (.new capacity limit) true
    let last := acts.foldl (fun b a => (b.act a).1.settle.1) b
    last.Settled ∧ ∃ run, Orderly b run ∧ act.after b run = last :=
  have calm := calm_new capacity limit
  calm.settling_run (calm.sound.settled_iff.mpr ⟨unread_new capacity limit, by simp [new]⟩) rfl
    plain

end Bridge

end PaymentRelay
