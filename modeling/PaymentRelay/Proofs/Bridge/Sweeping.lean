import PaymentRelay.Proofs.Bridge.Beat
import PaymentRelay.Proofs.Bridge.Settle
import PaymentRelay.Proofs.Registry.Sweep

/-
  Sweepers take no call that is alive.

  The sweep takes an entry whose holder has gone, and one whose deadline lies a while back. At a
  bridge the holder of an entry is there as long as the entry is, and a call that is due ends before
  the clock moves on. So where the clock is not carried past a deadline by more than the sweep
  leaves alone (`Punctual`), a sweeper that is due finds no entry to take (`Spared`), and the round
  leaves everything as it is but the sweepers themselves (`Spared.sweepDue_eq`). A run with sweepers
  is then a run without, with rounds in between that change nothing (`Spared.shadow`). A clock that
  moves by small steps, each when everything has settled, is never carried that far
  (`AtRest.allows`).

  The clock may jump: a sweeper that has missed many of its turns sweeps once, and then is due at
  the next of them.
-/

namespace PaymentRelay

namespace Bridge

/-- The clock is not carried further past the deadline of a call in flight than a sweep leaves
alone. -/
def Punctual (b : Bridge) : Beat → Prop
  | .act (.tick span) => ∀ c ∈ b.calls, b.now.after span < c.deadline.after sweepGrace
  | _ => True

/-- The bridge without its sweepers. -/
def unswept (b : Bridge) : Bridge := { b with sweepers := [] }

/-- The acts among what happens. -/
def Beat.act? : Beat → Option Act
  | .act a => some a
  | _ => none

/-- The acts of a run with their reports. -/
def actsOf (t : List (Beat × Report)) : List (Act × Report) :=
  t.filterMap fun x => x.1.act?.map fun a => (a, x.2)

theorem mem_actsOf {t : List (Beat × Report)} {a : Act} {r : Report} :
    (a, r) ∈ actsOf t ↔ (.act a, r) ∈ t := by
  simp only [actsOf, List.mem_filterMap, Option.map_eq_some_iff, Prod.mk.injEq, Prod.exists]
  constructor
  · rintro ⟨x, r', hx, a', ha, rfl, rfl⟩
    cases x with
    | act a =>
      obtain rfl : a = a' := Option.some.inj ha
      exact hx
    | _ => cases ha
  · exact fun h => ⟨_, _, h, a, rfl, rfl, rfl⟩

/-- No call that a sweeper could find has been due for as long as the sweep waits. -/
structure Spared (b : Bridge) : Prop where
  calm : b.Calm
  dated : b.Dated
  early : (∃ s ∈ b.sweepers, s.isDue b.now = true) →
    ∀ c ∈ b.calls, b.now < c.deadline.after sweepGrace

section
variable {b : Bridge} {c : Call} {a : Act} {x : Beat}

/-! ## Acts -/

theorem act_sweepers (b : Bridge) (ss : List Sweeper) (a : Act) :
    act { b with sweepers := ss } a = ({ (b.act a).1 with sweepers := ss }, (b.act a).2) := by
  cases a with
  | read peer | reply peer m =>
    cases hp : b.hub.peer? peer <;> simp only [act, hp]
  | publish channel m =>
    rcases hx : b.hub.publish channel m with ⟨hub, e | reached⟩ <;> simp only [act, send, hx]
  | start d fresh =>
    simp only [act, start]
    split
    · rfl
    · split
      · rfl
      · split <;> rfl
  | abandon number =>
    simp only [act, abandon]
    split <;> rfl
  | listen =>
    have unread : unread { b with sweepers := ss } = b.unread := rfl
    have listen : listen { b with sweepers := ss } = { b.listen with sweepers := ss } := by
      simp only [Bridge.listen]
      cases heard : b.listener.bind b.hub.stream? with
      | none => rfl
      | some s =>
        rcases received : b.hub.receiveReply s with ⟨hub, m | _ | _⟩ <;> simp only [received]
    simp only [act, unread, listen]
    split <;> rfl
  | poll number branch =>
    have look : ∀ c, look { b with sweepers := ss } c branch = b.look c branch := fun _ => rfl
    have poll : poll { b with sweepers := ss } number branch =
        ({ (b.poll number branch).1 with sweepers := ss }, (b.poll number branch).2) := by
      simp only [Bridge.poll, look]
      split
      · rfl
      · split <;> rfl
    rcases hx : b.poll number branch with ⟨next, _ | o⟩ <;> rw [hx] at poll
    · rw [act_poll_none hx, act_poll_none poll]
    · rw [act_poll_some hx, act_poll_some poll]
  | _ => rfl

theorem act_unswept (b : Bridge) (a : Act) :
    b.unswept.act a = ((b.act a).1.unswept, (b.act a).2) := act_sweepers b [] a

theorem InOrder.unswept (h : b.InOrder a) : b.unswept.InOrder a := by
  refine h.imp_right fun ⟨settled, others⟩ => ⟨fun t ht => ?_, others⟩
  rw [act_unswept, settled t ht]

/-- The signals are given by their own act alone, and made by none. -/
theorem signals_act (b : Bridge) (other : ∀ n, a ≠ .signal n) :
    (b.act a).1.signals = b.signals := by
  cases a with
  | read peer | reply peer m =>
    simp only [act]
    split <;> rfl
  | publish channel m =>
    simp only [act, send]
    split <;> rfl
  | start d fresh =>
    show (b.start d fresh).1.signals = b.signals
    rcases start_cases b d fresh with ⟨e, eq⟩ | ⟨_, e, eq⟩ | ⟨_, _, peers, published, _, eq⟩ <;>
      rw [eq]
  | abandon number =>
    simp only [act, abandon]
    split <;> rfl
  | signal n => exact absurd rfl (other n)
  | listen =>
    rw [act_listen]
    cases queued : b.unread with
    | nil => rw [listen_of_nil queued]
    | cons m rest =>
      obtain ⟨streams, eq, _⟩ := listen_of_cons queued
      rw [eq]
  | poll number branch =>
    rw [act_poll]
    unfold poll
    split
    · rfl
    · split <;> rfl
  | _ => rfl

/-- In calm, a call that ends has its reply, or is due, or its context is cancelled. -/
theorem Calm.ended (calm : b.Calm) {n : Nat} {o : Outcome} (h : (b.act a).2 = .ended n o) :
    ∃ c ∈ b.calls, c.number = n ∧ ((∃ m, o = .ok m) ∨ o = timedOut c ∨ o = cancelled c) := by
  have turn : ∃ branch, a = .poll n branch := by
    by_cases turn : ∃ branch, a = .poll n branch
    · exact turn
    · have unheard : outcomes n [(a, (b.act a).2)] = [] :=
        outcomes_act fun branch same => turn ⟨branch, same⟩
      simp [h, outcomes] at unheard
  obtain ⟨branch, rfl⟩ := turn
  rcases b.inFlight_or n with ⟨c, hc, rfl⟩ | missing
  · rcases calm.poll_cases hc branch with stays | ⟨o', r, ends, prospect, _⟩
    · rw [act_poll_none stays] at h
      cases h
    · rw [act_poll_some ends, Report.ended.injEq] at h
      obtain ⟨-, rfl⟩ := h
      refine ⟨c, hc, rfl, ?_⟩
      unfold Bridge.prospect at prospect
      cases hx : b.registry.content c.ticket with
      | reply m =>
        simp only [hx] at prospect
        exact .inl ⟨m, (Option.some.inj prospect).symm⟩
      | closed => exact absurd hx (calm.unclosed c hc)
      | waiting =>
        simp only [hx] at prospect
        split at prospect
        · exact .inr (.inl (Option.some.inj prospect).symm)
        · split at prospect
          · exact .inr (.inr (Option.some.inj prospect).symm)
          · cases prospect
  · rw [act_poll_none (poll_of_not_mem missing branch)] at h
    cases h

/-- In calm, no call is dropped. -/
theorem Calm.not_dropped (calm : b.Calm) (x : Beat) (n : Nat) :
    (b.beat x).2 ≠ .ended n (.error .replyDropped) := by
  cases x with
  | act a =>
    intro h
    obtain ⟨c, _, _, ⟨m, o⟩ | o | o⟩ := calm.ended h
    · cases o
    · simp [timedOut] at o
    · simp [cancelled] at o
  | hire interval => exact Report.noConfusion
  | round => exact Report.noConfusion

/-! ## Rounds -/

/-- A sweep before its time takes nothing. -/
theorem Sound.sweep_early (h : b.Sound) (dated : b.Dated)
    (early : ∀ c ∈ b.calls, b.now < c.deadline.after sweepGrace) :
    b.registry.sweep b.now sweepGrace = (b.registry, 0) := by
  refine Registry.sweep_of_fresh fun e he => ?_
  obtain ⟨c, hc, ht, _⟩ := h.owned e he
  have here : b.registry.isAbandoned e.ticket = false := ht ▸ (h.held c hc).2
  have ahead : ¬ e.deadline.after sweepGrace ≤ b.now := by
    rw [dated e he c hc ht]
    exact Int.not_le.mpr (early c hc)
  simp [Registry.isStale, Registry.isOverdue, here, ahead]

theorem Spared.sweepDue_eq (h : b.Spared) :
    b.sweepDue = { b with sweepers := b.sweepDue.sweepers } := by
  by_cases due : ∃ s ∈ b.sweepers, s.isDue b.now = true
  · have same : ∃ ss, b.sweepDue = { b with sweepers := ss } := by
      refine sweepDue_keeps (P := fun b' => ∃ ss, b' = { b with sweepers := ss })
        ⟨_, rfl⟩ ?_
      rintro _ ⟨ss, rfl⟩
      refine ⟨ss, ?_⟩
      simp only [sweep, h.calm.sound.sweep_early h.dated (h.early due)]
    obtain ⟨ss, eq⟩ := same
    rw [eq]
  · have undue : ∀ s ∈ b.sweepers, s.isDue b.now = false := by simpa using due
    rw [sweepDue_of_undue undue]

theorem Calm.sweepers (calm : b.Calm) (ss : List Sweeper) : Calm { b with sweepers := ss } :=
  ⟨calm.sound.congr rfl rfl rfl, calm.unclosed, calm.answered, calm.due, calm.unread⟩

theorem Spared.spared_round (h : b.Spared) : b.sweepDue.Spared := by
  by_cases due : ∃ s ∈ b.sweepers, s.isDue b.now = true
  · rw [h.sweepDue_eq]
    exact ⟨h.calm.sweepers _, h.dated, fun _ => h.early due⟩
  · have undue : ∀ s ∈ b.sweepers, s.isDue b.now = false := by simpa using due
    rw [sweepDue_of_undue undue]
    exact h

theorem Spared.spared_act (h : b.Spared) (ho : b.InStep (.act a)) (hp : b.Punctual (.act a)) :
    (b.act a).1.Spared := by
  refine ⟨h.calm.calm_act ho.inOrder, h.calm.sound.dated_act h.dated a, ?_⟩
  rintro ⟨s, hs, due⟩ d hd
  rw [sweepers_act] at hs
  rw [now_act] at due ⊢
  by_cases ticks : ∃ span, a = .tick span
  · obtain ⟨span, rfl⟩ := ticks
    exact hp d hd
  · -- The clock stands still, so the sweeper was due before.
    have still : a.clock b.now = b.now := by
      cases a with
      | tick span => exact absurd ⟨span, rfl⟩ ticks
      | _ => rfl
    rw [still] at due ⊢
    rcases h.calm.sound.calls_act a d hd with ⟨c, hc, same⟩ | ⟨dial, fresh, rfl, _⟩
    · rw [same]
      exact h.early ⟨s, hs, due⟩ c hc
    · rcases ho with turn | ⟨rest, _⟩
      · cases turn
      · simp [rest.undue s hs] at due

theorem Spared.spared_hire (h : b.Spared) (rest : b.AtRest) (interval : Span) :
    Spared { b with sweepers := b.sweepers ++ [Sweeper.new b.now interval] } := by
  refine ⟨h.calm.sweepers _, h.dated, fun _ c hc => ?_⟩
  -- When everything has settled, no deadline has come.
  have quiet := (h.calm.sound.settled_iff.mp rest.settled).2 c hc
  exact Instant.lt_after_of_not_le (prospect_eq_none_iff.mp quiet).2.1 sweepGrace

theorem Spared.spared_beat (h : b.Spared) (hx : b.InStep x ∧ b.Punctual x) :
    (b.beat x).1.Spared := by
  cases x with
  | act a => exact h.spared_act hx.1 hx.2
  | hire interval => exact h.spared_hire hx.1 interval
  | round => exact h.spared_round

theorem Settled.sweepers (h : b.Settled) (ss : List Sweeper) :
    Settled { b with sweepers := ss } := by
  intro a ha
  rw [act_sweepers, h a ha]

theorem Spared.rest_round (h : b.Spared) (settled : b.Settled) : b.sweepDue.AtRest := by
  refine ⟨?_, undue_sweepDue b⟩
  rw [h.sweepDue_eq]
  exact settled.sweepers _

/-! ## Runs -/

/-- What happens in a bridge is what happens without the sweepers, but for the sweepers. -/
theorem Spared.unswept_beat (h : b.Spared) (x : Beat) :
    (b.beat x).1.unswept = act.after b.unswept x.act?.toList := by
  cases x with
  | act a =>
    show (b.act a).1.unswept = (b.unswept.act a).1
    rw [act_unswept]
  | hire interval => rfl
  | round =>
    show b.sweepDue.unswept = b.unswept
    rw [h.sweepDue_eq]
    rfl

/-- Without the sweepers the run is orderly, is told the same, and leads to the same. -/
theorem Spared.shadow (h : b.Spared) {beats : List Beat}
    (run : beat.Allows (fun b x => b.InStep x ∧ b.Punctual x) b beats) :
    Orderly b.unswept (beats.filterMap Beat.act?) ∧
      act.transcript b.unswept (beats.filterMap Beat.act?) = actsOf (beat.transcript b beats) ∧
      act.after b.unswept (beats.filterMap Beat.act?) = (beat.after b beats).unswept := by
  induction beats generalizing b with
  | nil => exact ⟨trivial, rfl, rfl⟩
  | cons x rest ih =>
    obtain ⟨orderly, told, after⟩ := ih (h.spared_beat run.1) run.2
    have next := h.unswept_beat x
    rw [next] at orderly told after
    cases x with
    | act a =>
      have report : (b.unswept.act a).2 = (b.act a).2 := by rw [act_unswept]
      refine ⟨⟨run.1.1.inOrder.unswept, orderly⟩, ?_, after⟩
      show (a, (b.unswept.act a).2) :: _ = _
      rw [report]
      exact congrArg _ told
    | hire interval => exact ⟨orderly, told, after⟩
    | round => exact ⟨orderly, told, after⟩

theorem spared_new (capacity limit : Nat) (listening : Bool) :
    (new (.new capacity limit) listening).Spared := by
  refine ⟨calm_idle capacity limit listening, dated_new capacity limit listening, ?_⟩
  cases listening <;> simp [new]

/-- In every run in which everything settles after each step and the timers of the calls are not
passed over, sweepers, whenever they begin and however often they sweep, take nothing from the
registry, and no call is dropped. Without the sweepers the run is an orderly one with the same
reports, and after the same steps it stands the same in everything: clock, calls and counters. -/
theorem sweepers_take_no_live_call (capacity limit : Nat) (listening : Bool) (beats : List Beat)
    (run : beat.Allows (fun b x => b.InStep x ∧ b.Punctual x)
      (new (.new capacity limit) listening) beats) :
    let start := new (.new capacity limit) listening
    (∀ xs ys, beats = xs ++ .round :: ys →
      (beat.after start (xs ++ [.round])).registry = (beat.after start xs).registry) ∧
    (∀ x n, (x, .ended n (.error .replyDropped)) ∉ beat.transcript start beats) ∧
    Orderly start (beats.filterMap Beat.act?) ∧
    act.transcript start (beats.filterMap Beat.act?) = actsOf (beat.transcript start beats) ∧
    ∀ xs ys, beats = xs ++ ys →
      act.after start (xs.filterMap Beat.act?) = (beat.after start xs).unswept := by
  intro start
  have spared : start.Spared := spared_new capacity limit listening
  have idle : start.unswept = start := by
    cases listening <;> rfl
  have spared_after : ∀ xs, beat.Allows (fun b x => b.InStep x ∧ b.Punctual x) start xs →
      (beat.after start xs).Spared :=
    fun xs run => run.after_keeps spared fun b x h hx => h.spared_beat hx
  have shadow := spared.shadow run
  rw [idle] at shadow
  refine ⟨?_, ?_, shadow.1, shadow.2.1, ?_⟩
  · rintro xs ys rfl
    have before := spared_after xs (Machine.allows_append.mp run).1
    rw [beat.after_append]
    show (beat.after start xs).sweepDue.registry = _
    rw [before.sweepDue_eq]
  · have told := (run.history (Q := fun t b => b.Spared ∧
      ∀ x ∈ t, ∀ n, x.2 ≠ .ended n (.error .replyDropped)) ⟨spared, by simp⟩ ?_).2
    · exact fun x n dropped => told _ dropped n rfl
    · rintro t b x ⟨h, old⟩ hx
      refine ⟨h.spared_beat hx, fun y hy n => ?_⟩
      rcases List.mem_append.mp hy with hy | hy
      · exact old y hy n
      · rw [List.mem_singleton.mp hy]
        exact h.calm.not_dropped x n
  · rintro xs ys rfl
    have upTo := (spared.shadow (Machine.allows_append.mp run).1).2.2
    rwa [idle] at upTo

/-- A call that is swept over before and after its deadline, and finds its deadline itself. -/
theorem sweepers_take_no_live_call_due :
    let m : Message := ⟨"payment", "inv-1", "", "c-1", .empty, .null, .epoch⟩
    let d : Dial := ⟨.background, "inv-1", m, .ofSeconds 10⟩
    let start := new (.new 1 m.size) true
    let beats : List Beat := [.act (.join "inv-1"), .act (.start d ""), .hire (.ofSeconds 1),
      .round, .act (.tick (.ofSeconds 12)), .round, .act (.poll 0 .deadline)]
    beat.Allows (fun b x => b.InStep x ∧ b.Punctual x) start beats ∧
      (.act (.poll 0 .deadline), .ended 0 (.error (.timeout "c-1" (.ofSeconds 10)))) ∈
        beat.transcript start beats ∧
      (.poll 0 .deadline, .ended 0 (.error (.timeout "c-1" (.ofSeconds 10)))) ∈
        act.transcript start
          [.join "inv-1", .start d "", .tick (.ofSeconds 12), .poll 0 .deadline] := by
  intro m d start beats
  have ten : Context.background.effectiveDeadline .start (.ofSeconds 10) = ⟨10000000000⟩ := rfl
  have deadline : (start.opened d "").deadline = ⟨10000000000⟩ := ten
  -- Nothing is left to do before the call starts, and as long as it waits.
  have spared : start.Spared := spared_new 1 m.size true
  have idle : start.AtRest := atRest_new 1 m.size true
  obtain ⟨joins, started, rest, calls⟩ := idle.rest_call spared.calm.sound d "" rfl
    rfl (by simp [d, m, start, new, Hub.new, Hub.subscribe]) (by decide)
  have spared' := spared.spared_act (a := .join d.channel) (.inr ⟨idle, by simp⟩) trivial
  obtain ⟨joined, hj⟩ : ∃ joined, joined = (start.act (.join d.channel)).1 := ⟨_, rfl⟩
  rw [← hj] at joins started rest calls spared'
  have spared'' := spared'.spared_act (a := .start d "") (.inr ⟨joins, by simp⟩) trivial
  obtain ⟨_, inFlight, waits, _, now⟩ := opened_of_started started
  obtain ⟨opened, ho⟩ : ∃ opened, opened = (joined.act (.start d "")).1 := ⟨_, rfl⟩
  have same : joined.opened d "" = start.opened d "" := by rw [hj]; rfl
  rw [← ho] at rest calls spared''
  rw [← ho, same] at inFlight waits
  have clock : opened.now = .start := by rw [ho, now, hj]; rfl
  have alone : ∀ c ∈ opened.calls, c = start.opened d "" := by simp [calls, start, new]
  have run : beat.Allows (fun b x => b.InStep x ∧ b.Punctual x) start beats := by
    refine ⟨⟨.inr ⟨idle, by simp⟩, trivial⟩, ?_⟩
    show beat.Allows _ (start.act (.join d.channel)).1 _
    rw [← hj]
    refine ⟨⟨.inr ⟨joins, by simp⟩, trivial⟩, ?_⟩
    show beat.Allows _ (joined.act (.start d "")).1 _
    rw [← ho]
    have hired := spared''.spared_hire rest (.ofSeconds 1)
    have swept := hired.rest_round (rest.settled.sweepers _)
    refine ⟨⟨rest, trivial⟩, ⟨trivial, trivial⟩, ⟨.inr ⟨swept, by simp⟩, ?_⟩, ⟨trivial, trivial⟩,
      ⟨.inl rfl, trivial⟩, trivial⟩
    show Punctual (sweepDue { opened with
      sweepers := opened.sweepers ++ [Sweeper.new opened.now (.ofSeconds 1)] }) _
    rw [hired.sweepDue_eq]
    intro c hc
    rw [alone c hc, deadline]
    show opened.now.after (.ofSeconds 12) < _
    rw [clock]
    decide
  have told : (.poll 0 .deadline, .ended 0 (.error (.timeout "c-1" (.ofSeconds 10)))) ∈
      act.transcript start
        [.join "inv-1", .start d "", .tick (.ofSeconds 12), .poll 0 .deadline] := by
    have last : ((opened.act (.tick (.ofSeconds 12))).1.act (.poll 0 .deadline)).2 =
        .ended 0 (.error (.timeout "c-1" (.ofSeconds 10))) := by
      have sound := sound_act spared''.calm.sound (.tick (.ofSeconds 12))
      have due : (start.opened d "").deadline ≤ opened.now.after (.ofSeconds 12) := by
        rw [deadline, clock]
        decide
      have waited : (start.opened d "").deadline.since (start.opened d "").started =
          .ofSeconds 10 := by
        rw [deadline]
        decide
      have correlation : (start.opened d "").correlation = "c-1" := by
        show d.correlation "" = _
        simp [Dial.correlation, d, m]
      have outcome := (sound.poll_of_waiting inFlight waits .deadline).trans (if_pos due)
      rw [waited, correlation, show (start.opened d "").number = 0 from rfl] at outcome
      rw [report_poll, outcome]
    simp only [Machine.transcript]
    rw [show (start.act (.join "inv-1")).1 = joined from hj.symm, ← ho, last]
    simp
  refine ⟨run, ?_, told⟩
  have same := (sweepers_take_no_live_call 1 m.size true beats run).2.2.2.1
  rw [← mem_actsOf, ← same]
  exact told

end

/-! ## The schedule of the program -/

/-- The turn of a task, or a round of the sweepers. -/
def Beat.isTurn : Beat → Bool
  | .act a => a.isTurn
  | .hire _ => false
  | .round => true

/-- The program as a machine: after each step everything settles. Its answer are the calls that end,
and how. -/
def program : Machine Bridge Beat (List (Nat × Outcome)) := fun b x =>
  match x with
  | .act (.tick span) => b.advance span
  | x => (b.beat x).1.settle

/-- A step that may be given to the program: nobody else sweeps, and the clock moves by no more than
a sweep leaves alone. -/
def Beat.IsStep : Beat → Prop
  | .act (.sweep _) => False
  | .act (.tick span) => span.nanos ≤ sweepGrace.nanos
  | _ => True

/-- Turns and rounds lead from one bridge to another, and these calls end in them. -/
def Rounds (b b' : Bridge) (ended : List (Nat × Outcome)) : Prop :=
  ∃ beats : List Beat, (∀ x ∈ beats, x.isTurn = true) ∧ beat.after b beats = b' ∧
    ∀ n, outcomes n (actsOf (beat.transcript b beats)) =
      ended.filterMap fun x => if x.1 = n then some x.2 else none

section
variable {b b' b'' : Bridge} {ended ended' : List (Nat × Outcome)}

theorem outcomes_actsOf_append {n : Nat} (t t' : List (Beat × Report)) :
    outcomes n (actsOf (t ++ t')) = outcomes n (actsOf t) ++ outcomes n (actsOf t') := by
  rw [actsOf, List.filterMap_append, outcomes, List.filterMap_append]
  rfl

theorem after_map_act (b : Bridge) (as : List Act) :
    beat.after b (as.map .act) = act.after b as ∧
      actsOf (beat.transcript b (as.map .act)) = act.transcript b as := by
  induction as generalizing b with
  | nil => exact ⟨rfl, rfl⟩
  | cons a rest ih =>
    obtain ⟨after, told⟩ := ih (b.act a).1
    exact ⟨after, congrArg ((a, (b.act a).2) :: ·) told⟩

theorem Turns.rounds (h : Turns b b' ended) : Rounds b b' ended := by
  obtain ⟨as, turns, rfl, told⟩ := h
  obtain ⟨after, same⟩ := after_map_act b as
  refine ⟨as.map .act, ?_, after, fun n => by rw [same, told]⟩
  intro x hx
  obtain ⟨a, ha, rfl⟩ := List.mem_map.mp hx
  exact turns a ha

theorem rounds_sweepDue (b : Bridge) : Rounds b b.sweepDue [] :=
  ⟨[.round], by simp [Beat.isTurn], rfl, fun _ => rfl⟩

theorem Rounds.trans (h : Rounds b b' ended) (h' : Rounds b' b'' ended') :
    Rounds b b'' (ended ++ ended') := by
  obtain ⟨xs, turns, rfl, told⟩ := h
  obtain ⟨ys, turns', rfl, told'⟩ := h'
  refine ⟨xs ++ ys, ?_, beat.after_append b xs ys, fun n => ?_⟩
  · intro x hx
    exact (List.mem_append.mp hx).elim (turns x) (turns' x)
  · rw [Machine.transcript_append, outcomes_actsOf_append, told, told', List.filterMap_append]

/-- Turns and rounds may come at any time. -/
theorem allows_turns {beats : List Beat} (turns : ∀ x ∈ beats, x.isTurn = true) :
    beat.Allows (fun b x => b.InStep x ∧ b.Punctual x) b beats := by
  induction beats generalizing b with
  | nil => trivial
  | cons x rest ih =>
    refine ⟨?_, ih fun y hy => turns y (List.mem_cons_of_mem _ hy)⟩
    have turn := turns x (List.mem_cons_self ..)
    cases x with
    | act a =>
      refine ⟨.inl turn, ?_⟩
      cases a with
      | tick span => cases turn
      | _ => trivial
    | hire interval => cases turn
    | round => exact ⟨trivial, trivial⟩

theorem Rounds.spared (h : Rounds b b' ended) (spared : b.Spared) : b'.Spared := by
  obtain ⟨beats, turns, rfl, _⟩ := h
  exact (allows_turns turns).after_keeps spared fun b x h hx => h.spared_beat hx

/-- The clock stands still while tasks take their turns. -/
theorem Turns.now (h : Turns b b' ended) : b'.now = b.now := by
  obtain ⟨as, turns, rfl, _⟩ := h
  have still : ∀ (as : List Act) (b : Bridge), (∀ a ∈ as, a.isTurn = true) →
      (act.after b as).now = b.now := by
    intro as
    induction as with
    | nil => exact fun _ _ => rfl
    | cons a rest ih =>
      intro b turns
      refine (ih _ fun x hx => turns x (List.mem_cons_of_mem _ hx)).trans ?_
      have turn := turns a (List.mem_cons_self ..)
      rw [now_act]
      cases a with
      | tick span => cases turn
      | _ => rfl
  exact still as b turns

/-- Settling is a run of turns and rounds, and nothing is left to do then. -/
theorem Spared.settle_rounds (h : b.Spared) :
    Rounds b b.settle.1 b.settle.2 ∧ b.settle.1.AtRest := by
  obtain ⟨read, silent, _⟩ := h.calm.listenAll_turns
  have swept := (read.rounds.spared h).spared_round
  have unread : b.listenAll.sweepDue.unread = [] := by
    rw [(read.rounds.spared h).sweepDue_eq]
    exact silent
  obtain ⟨turns, leaves, quiet⟩ :=
    swept.calm.pollEach_turns (b.listenAll.sweepDue.calls.map (·.number))
  have rounds := (read.rounds.trans (rounds_sweepDue _)).trans turns.rounds
  have next : b.settle.1.Spared := rounds.spared h
  refine ⟨rounds, next.calm.sound.settled_iff.mpr ⟨leaves.unread.trans unread, ?_⟩, ?_⟩
  · intro c hc
    exact quiet c hc (List.mem_map_of_mem (leaves.prospects c hc).1)
  · intro s hs
    have still : b.settle.1.now = b.listenAll.sweepDue.now := turns.now
    rw [still]
    exact undue_sweepDue _ s (leaves.sweepers ▸ hs)

/-- A step of the program is the step itself with turns and rounds after it, and nothing is left to
do then. -/
theorem Spared.program_rounds (h : b.Spared) {x : Beat} (hx : b.InStep x ∧ b.Punctual x) :
    Rounds (b.beat x).1 (b.program x).1 (b.program x).2 ∧ (b.program x).1.AtRest := by
  have next := h.spared_beat hx
  by_cases ticks : ∃ span, x = .act (.tick span)
  · obtain ⟨span, rfl⟩ := ticks
    -- The calls look before the rest, and once more then.
    obtain ⟨turns, _, _⟩ := next.calm.pollEach_turns (b.calls.map (·.number))
    obtain ⟨rounds, atRest⟩ := (turns.rounds.spared next).settle_rounds
    exact ⟨turns.rounds.trans rounds, atRest⟩
  · have settles : b.program x = (b.beat x).1.settle := by
      cases x with
      | act a =>
        cases a with
        | tick span => exact absurd ⟨span, rfl⟩ ticks
        | _ => rfl
      | _ => rfl
    rw [settles]
    exact next.settle_rounds

/-- When nothing is left to do no deadline has come, and the clock may move by what a sweep leaves
alone. -/
theorem AtRest.allows (rest : b.AtRest) (h : b.Sound) {x : Beat} (hx : x.IsStep) :
    b.InStep x ∧ b.Punctual x := by
  cases x with
  | act a =>
    cases a with
    | sweep grace => exact hx.elim
    | tick span =>
      refine ⟨.inr ⟨rest, by simp⟩, fun c hc => ?_⟩
      have quiet := (h.settled_iff.mp rest.settled).2 c hc
      have early : b.now.nanos < c.deadline.nanos :=
        Int.not_le.mp (prospect_eq_none_iff.mp quiet).2.1
      have short : span.nanos ≤ sweepGrace.nanos := hx
      show b.now.nanos + span.nanos < c.deadline.nanos + sweepGrace.nanos
      omega
    | _ => exact ⟨.inr ⟨rest, by simp⟩, trivial⟩
  | hire interval => exact ⟨rest, trivial⟩
  | round => exact ⟨trivial, trivial⟩

/-- A step that comes when nothing is left to do tells of no end. -/
theorem AtRest.unheard (rest : b.AtRest) (x : Beat) (n : Nat) :
    outcomes n (actsOf [(x, (b.beat x).2)]) = [] := by
  cases x with
  | act a =>
    cases turn : a.isTurn with
    | true =>
      have still : (b.beat (.act a)).2 = .silent := congrArg Prod.snd (rest.settled a turn)
      rw [still]
      rfl
    | false =>
      refine outcomes_act fun branch same => ?_
      rw [same] at turn
      cases turn
  | hire interval => rfl
  | round => rfl

/-- Every run of the program is a run in step in which no timer of a call is passed over: with the
same end, and the same outcomes of each call. -/
theorem Spared.program_run (h : b.Spared) (rest : b.AtRest) {steps : List Beat}
    (run : ∀ x ∈ steps, x.IsStep) :
    ∃ beats, beat.Allows (fun b x => b.InStep x ∧ b.Punctual x) b beats ∧
      beat.after b beats = program.after b steps ∧ (program.after b steps).AtRest ∧
      ∀ n, outcomes n (actsOf (beat.transcript b beats)) =
        ((program.transcript b steps).flatMap (·.2)).filterMap fun x =>
          if x.1 = n then some x.2 else none := by
  induction steps generalizing b with
  | nil => exact ⟨[], trivial, rfl, rest, fun _ => rfl⟩
  | cons x xs ih =>
    have hx := rest.allows h.calm.sound (run x (List.mem_cons_self ..))
    have steps := fun y hy => run y (List.mem_cons_of_mem _ hy)
    obtain ⟨rounds, atRest⟩ := h.program_rounds hx
    obtain ⟨later, allowed, reached, atRest', told'⟩ :=
      ih (rounds.spared (h.spared_beat hx)) atRest steps
    obtain ⟨between, turns, settled, told⟩ := rounds
    -- The step, the turns and rounds that settle it, and what comes later.
    refine ⟨x :: (between ++ later), ⟨hx, Machine.allows_append.mpr ⟨allows_turns turns, ?_⟩⟩, ?_,
      atRest', fun n => ?_⟩
    · rw [settled]
      exact allowed
    · rw [Machine.after, beat.after_append, settled, reached]
      rfl
    · have split : beat.transcript b (x :: (between ++ later)) = [(x, (b.beat x).2)] ++
          (beat.transcript (b.beat x).1 between ++ beat.transcript (b.program x).1 later) := by
        rw [Machine.transcript, beat.transcript_append, settled]
        rfl
      have first : (program.transcript b (x :: xs)).flatMap (·.2) =
          (b.program x).2 ++ (program.transcript (b.program x).1 xs).flatMap (·.2) := rfl
      rw [split, outcomes_actsOf_append, outcomes_actsOf_append, rest.unheard, told, told', first,
        List.filterMap_append]
      rfl

end

end Bridge

end PaymentRelay
