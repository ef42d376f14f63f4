import PaymentRelay.Proofs.Bridge.Calm
import PaymentRelay.Proofs.Bridge.Origin

/-
  How calls end in orderly runs.

  For a call that waits, the first of these decides: a reply with its correlation id is heard on its
  channel, the clock reaches its deadline, its context is cancelled, or it is given up (`judge`,
  `fate`). Nothing else does: neither replies on other channels or to other calls, nor handles that
  are dropped, nor what becomes of other calls.

  Along an orderly run, a call that nothing has decided about is in flight without a reason to end
  (`Calm.judged`), one that something has decided about is going to end that way until it does
  (`Calm.ending`), and one that is gone stays gone (`Sound.gone_act`). So a call ends as it was
  decided first, and once (`Calm.verdict_run`, `Resolves.of_settled`).
-/

namespace PaymentRelay

namespace Bridge

/-- What has been decided about a call. -/
inductive Fate where
  /-- Nothing yet. -/
  | waiting
  /-- It ends this way. -/
  | ended (o : Outcome)
  /-- Its caller gives it up. -/
  | givenUp

/-- What an act decides about a call that waits, from the time before it. -/
def judge (c : Call) (now : Instant) : Act × Report → Fate
  | (.listen, .heard m _) =>
    if m.correlation = c.correlation ∧ m.channel = c.channel then .ended (.ok m) else .waiting
  | (.tick span, _) => if c.deadline ≤ now.after span then .ended (timedOut c) else .waiting
  | (.signal n, _) => if c.context.signal = some n then .ended (cancelled c) else .waiting
  | (.abandon number, _) => if number = c.number then .givenUp else .waiting
  | _ => .waiting

/-- The time after an act. -/
def Act.clock (now : Instant) : Act → Instant
  | .tick span => now.after span
  | _ => now

/-- What is decided first about a call. -/
def fate (c : Call) : Instant → List (Act × Report) → Fate
  | _, [] => .waiting
  | now, x :: rest =>
    match judge c now x with
    | .waiting => fate c (x.1.clock now) rest
    | decided => decided

/-- How the call with a number ends in a run; a call that ends once has one outcome. -/
def outcomes (number : Nat) (t : List (Act × Report)) : List Outcome :=
  t.filterMap fun x =>
    match x.2 with
    | .ended n o => if n = number then some o else none
    | _ => none

/-- The outcomes of a call about which this has been decided. -/
def Fate.outcomes : Fate → List Outcome
  | .ended o => [o]
  | _ => []

/-- The call with a number is gone. -/
def Gone (b : Bridge) (number : Nat) : Prop := ∀ c ∈ b.calls, c.number ≠ number

section
variable {b b' : Bridge} {c : Call} {a : Act} {o : Outcome} {number : Nat}

theorem outcomes_cons (x : Act × Report) (t : List (Act × Report)) :
    outcomes number (x :: t) = outcomes number [x] ++ outcomes number t := by
  rw [outcomes, ← List.singleton_append, List.filterMap_append]
  rfl

theorem outcomes_of_not_ended {a : Act} {r : Report} (h : ∀ n o, r ≠ .ended n o) :
    outcomes number [(a, r)] = [] := by
  cases r with
  | ended n o => exact absurd rfl (h n o)
  | _ => rfl

/-- Only the turn of a call tells of an end, and only of its own. -/
theorem outcomes_act (h : ∀ branch, a ≠ .poll number branch) :
    outcomes number [(a, (b.act a).2)] = [] := by
  cases a with
  | poll n branch =>
    rcases hx : b.poll n branch with ⟨next, _ | o⟩
    · rw [act_poll_none hx]
      rfl
    · rw [act_poll_some hx]
      have other : n ≠ number := by
        rintro rfl
        exact h branch rfl
      simp [outcomes, other]
  | read | reply | listen =>
    refine outcomes_of_not_ended ?_
    intro n o
    simp only [act]
    split <;> exact Report.noConfusion
  | _ => exact outcomes_of_not_ended fun n o => Report.noConfusion

/-- The clock moves by its own act alone. -/
theorem now_act (b : Bridge) (a : Act) : (b.act a).1.now = a.clock b.now := by
  cases a with
  | read peer | reply peer m =>
    simp only [act]
    split <;> rfl
  | publish channel m =>
    simp only [act, send]
    split <;> rfl
  | start d fresh =>
    show (b.start d fresh).1.now = b.now
    rcases start_cases b d fresh with ⟨e, eq⟩ | ⟨_, e, eq⟩ | ⟨_, _, peers, published, _, eq⟩ <;>
      rw [eq]
  | abandon number =>
    simp only [act, abandon]
    split <;> rfl
  | listen =>
    rw [act_listen]
    cases queued : b.unread with
    | nil => rw [listen_of_nil queued]; rfl
    | cons m rest =>
      obtain ⟨streams, eq, _⟩ := listen_of_cons queued
      rw [eq]
      rfl
  | poll number branch =>
    rw [act_poll]
    unfold poll
    split
    · rfl
    · split <;> rfl
  | _ => rfl

/-! ## Calls that are gone -/

theorem Sound.nextCall_act (h : b.Sound) (a : Act) : b.nextCall ≤ (b.act a).1.nextCall := by
  have move := h.move a
  generalize (b.act a).2 = r at move
  cases move with
  | quiet _ _ _ _ nextCall => omega
  | joined _ _ _ nextCall => omega
  | handed _ _ _ _ nextCall => omega
  | opened _ _ _ nextCall => omega
  | heard _ _ _ nextCall => omega
  | returned _ _ _ _ _ nextCall => omega

/-- A call that is gone is neither in flight again nor heard of. -/
theorem Sound.gone_act (h : b.Sound) (gone : b.Gone number) (old : number < b.nextCall) (a : Act) :
    (b.act a).1.Gone number ∧ outcomes number [(a, (b.act a).2)] = [] := by
  have stays : ∀ {b' : Bridge}, NoMail b b' → b'.Gone number := by
    intro b' noMail d hd
    obtain ⟨c, hc, same, _⟩ := noMail d hd
    rw [same]
    exact gone c hc
  have unheard : outcomes number [(a, (b.act a).2)] = [] := by
    -- Only its own turn could tell of it, and a call that is not in flight has none.
    by_cases turn : ∃ branch, a = .poll number branch
    · obtain ⟨branch, rfl⟩ := turn
      rw [act_poll_none (poll_of_not_mem gone branch)]
      rfl
    · exact outcomes_act fun branch same => turn ⟨branch, same⟩
  refine ⟨?_, unheard⟩
  have move := h.move a
  generalize (b.act a).2 = r at move
  cases move with
  | quiet _ _ _ _ _ noMail => exact stays noMail
  | joined _ _ _ _ calls registry => exact stays (noMail_of_eq calls registry)
  | handed _ _ _ _ _ calls registry => exact stays (noMail_of_eq calls registry)
  | @opened d fresh _ _ _ _ calls =>
    intro c hc
    rw [calls] at hc
    rcases List.mem_append.mp hc with hc | hc
    · exact gone c hc
    · rw [List.mem_singleton] at hc
      subst hc
      exact Nat.ne_of_gt old
  | heard _ _ _ _ calls =>
    intro c hc
    rw [calls] at hc
    exact gone c hc
  | returned _ _ _ _ _ _ noMail => exact stays noMail

/-! ## Calls that are going to end -/

/-- A call that has a reason to end keeps it until it ends that way. -/
theorem Calm.ending (calm : b.Calm) (ho : b.InOrder a) (hc : c ∈ b.calls)
    (reason : b.prospect c = some o) :
    (c ∈ (b.act a).1.calls ∧ (b.act a).1.prospect c = some o ∧
      outcomes c.number [(a, (b.act a).2)] = []) ∨
    ((b.act a).1.Gone c.number ∧ outcomes c.number [(a, (b.act a).2)] = [o]) := by
  -- It is the turn of a task, for the bridge has not settled.
  have turn : a.isTurn = true := by
    rcases ho with turn | ⟨settled, _⟩
    · exact turn
    · have quiet := (calm.sound.settled_iff.mp settled).2 c hc
      rw [reason] at quiet
      cases quiet
  cases a with
  | listen =>
    have silent : b.unread = [] := by
      rcases calm.unread with silent | ⟨_, quiet⟩
      · exact silent
      · rw [quiet c hc] at reason
        cases reason
    left
    rw [act_listen, listen_of_nil silent]
    exact ⟨hc, reason, outcomes_act fun _ => Act.noConfusion⟩
  | poll n branch =>
    rcases b.inFlight_or n with ⟨d, hd, rfl⟩ | missing
    · rcases calm.poll_cases hd branch with stays | ⟨o', r, ends, prospect, same⟩
      · rw [act_poll_none stays]
        exact .inl ⟨hc, reason, rfl⟩
      · rw [act_poll_some ends]
        by_cases own : d.number = c.number
        · right
          rw [calm.sound.unique hc d hd own] at prospect ⊢
          rw [reason, Option.some_inj] at prospect
          subst prospect
          exact ⟨not_mem_depart r, by simp [outcomes]⟩
        · left
          have others := sameProspects_depart (c := d) same
          have mem : c ∈ (b.depart d r).calls := by
            simpa [depart] using ⟨hc, Ne.symm own⟩
          refine ⟨mem, ?_, by simp [outcomes, own]⟩
          rw [prospect_congr (others c mem).2 rfl rfl]
          exact reason
    · rw [act_poll_none (poll_of_not_mem missing branch)]
      exact .inl ⟨hc, reason, rfl⟩
  | _ => cases turn

/-! ## Calls that wait -/

/-- How a call stands about which this has been decided. -/
def Stands (b : Bridge) (c : Call) : Fate → Prop
  | .waiting => c ∈ b.calls ∧ b.prospect c = none
  | .ended o => c ∈ b.calls ∧ b.prospect c = some o
  | .givenUp => b.Gone c.number

/-- Giving a signal cancels the contexts that listen to it, and no other. -/
theorem isCancelled_give (context : Context) (signals : Signals) (n : Nat)
    (h : context.isCancelled signals = false) :
    context.isCancelled (signals.give n) = decide (context.signal = some n) := by
  unfold Context.isCancelled at h ⊢
  cases hs : context.signal with
  | none => rfl
  | some k =>
    have before : k ∉ signals.given := by simpa [hs, Signals.isGiven] using h
    simp only [Option.any_some, Signals.isGiven, Signals.give]
    split
    · next given =>
      have other : k ≠ n := by
        rintro rfl
        exact before (by simpa using given)
      simp [before, other]
    · simp [before]

/-- The start of another call decides nothing. -/
theorem Sound.stands_start (sound : b.Sound) (hc : c ∈ b.calls) (quiet : b.prospect c = none)
    (d : Dial) (fresh : String) : Stands (b.start d fresh).1 c .waiting := by
  have inside := (sound.held c hc).1
  rcases start_cases b d fresh with ⟨e, eq⟩ | ⟨hp, e, eq⟩ | ⟨hp, _, peers, published, _, eq⟩ <;>
    rw [eq]
  · exact ⟨hc, quiet⟩
  · have same : Bridge.prospect { b with registry := b.withdraw d fresh } c = b.prospect c :=
      prospect_congr (Registry.content_congr (slot_withdraw hp inside)) rfl rfl
    exact ⟨hc, same.trans quiet⟩
  · have same : Bridge.prospect { b with registry := b.enroll d fresh } c = b.prospect c :=
      prospect_congr (Registry.content_congr (slot_enroll inside)) rfl rfl
    exact ⟨List.mem_append_left _ hc, same.trans quiet⟩

/-- A reply that is heard decides about the call if it is one to it. -/
theorem Sound.stands_listen (sound : b.Sound) (hc : c ∈ b.calls) (quiet : b.prospect c = none) :
    Stands b.listen c (judge c b.now (.listen, (b.act .listen).2)) := by
  obtain ⟨hw, early, uncancelled⟩ := prospect_eq_none_iff.mp quiet
  cases queued : b.unread with
  | nil =>
    simp only [act, queued, listen_of_nil queued]
    exact ⟨hc, quiet⟩
  | cons m rest =>
    simp only [act, queued]
    have content := sound.content_listen hc queued hw
    obtain ⟨streams, eq, _⟩ := listen_of_cons queued
    have mem : c ∈ b.listen.calls := by
      rw [eq]
      exact hc
    show Stands b.listen c
      (if m.correlation = c.correlation ∧ m.channel = c.channel then .ended (.ok m) else .waiting)
    split
    · next mine =>
      rw [if_pos mine] at content
      exact ⟨mem, prospect_of_reply content⟩
    · next other =>
      rw [if_neg other] at content
      refine ⟨mem, prospect_eq_none_iff.mpr ⟨content, ?_⟩⟩
      rw [eq]
      exact ⟨early, uncancelled⟩

/-- No look decides about a call that waits, neither one of its own nor one of another call. -/
theorem Calm.stands_poll (calm : b.Calm) (hc : c ∈ b.calls) (quiet : b.prospect c = none) (n : Nat)
    (branch : Branch) :
    Stands (b.act (.poll n branch)).1 c .waiting ∧
      outcomes c.number [(.poll n branch, (b.act (.poll n branch)).2)] = [] := by
  have idle (stays : b.poll n branch = (b, none)) :
      Stands (b.act (.poll n branch)).1 c .waiting ∧
        outcomes c.number [(.poll n branch, (b.act (.poll n branch)).2)] = [] := by
    rw [act_poll_none stays]
    exact ⟨⟨hc, quiet⟩, rfl⟩
  rcases b.inFlight_or n with ⟨d, hd, rfl⟩ | missing
  · rcases calm.poll_cases hd branch with stays | ⟨o, r, ends, prospect, same⟩
    · exact idle stays
    · -- It is another call that ends.
      have other : c.number ≠ d.number := by
        intro own
        rw [calm.sound.unique hd c hc own, prospect] at quiet
        cases quiet
      have mem : c ∈ (b.depart d r).calls := by
        simpa [depart] using ⟨hc, other⟩
      rw [act_poll_some ends]
      refine ⟨⟨mem, ?_⟩, by simp [outcomes, other.symm]⟩
      exact (prospect_congr (sameProspects_depart same c mem).2 rfl rfl).trans quiet
  · exact idle (poll_of_not_mem missing branch)

/-- An act does to a call that waits what it decides about it, and does not tell of its end. -/
theorem Calm.judged (calm : b.Calm) (ho : b.InOrder a) (hc : c ∈ b.calls)
    (quiet : b.prospect c = none) :
    Stands (b.act a).1 c (judge c b.now (a, (b.act a).2)) ∧
      outcomes c.number [(a, (b.act a).2)] = [] := by
  obtain ⟨hw, early, uncancelled⟩ := prospect_eq_none_iff.mp quiet
  have hub (ha : a.isHub = true) : Stands (b.act a).1 c .waiting := by
    obtain ⟨hub, eq⟩ := act_hub (b := b) ha
    rw [eq]
    exact ⟨hc, quiet⟩
  cases a with
  | join | leave | read | publish | reply | dropHandle =>
    exact ⟨hub rfl, outcomes_act fun _ => Act.noConfusion⟩
  | start d fresh =>
    exact ⟨calm.sound.stands_start hc quiet d fresh, outcomes_act fun _ => Act.noConfusion⟩
  | listen =>
    refine ⟨?_, outcomes_act fun _ => Act.noConfusion⟩
    rw [act_listen]
    exact calm.sound.stands_listen hc quiet
  | poll n branch => exact calm.stands_poll hc quiet n branch
  | abandon n =>
    refine ⟨?_, outcomes_act fun _ => Act.noConfusion⟩
    obtain ⟨_, all⟩ := ho.settled calm.sound rfl
    obtain ⟨same, now, signals, _, others, gone⟩ := calm.abandon_cases all n
    show Stands (b.abandon n) c (if n = c.number then .givenUp else .waiting)
    split
    · next own => exact own ▸ gone
    · next other =>
      have mem := others c hc (Ne.symm other)
      exact ⟨mem, (prospect_congr (same c mem).2 now signals).trans quiet⟩
  | signal n =>
    refine ⟨?_, outcomes_act fun _ => Act.noConfusion⟩
    have given : c.context.isCancelled (b.signal n).signals = decide (c.context.signal = some n) :=
      isCancelled_give c.context b.signals n uncancelled
    show Stands (b.signal n) c
      (if c.context.signal = some n then .ended (cancelled c) else .waiting)
    split
    · next own => exact ⟨hc, prospect_of_cancelled hw early (by simpa [own] using given)⟩
    · next other =>
      exact ⟨hc, prospect_eq_none_iff.mpr ⟨hw, early, by simpa [other] using given⟩⟩
  | tick span =>
    refine ⟨?_, outcomes_act fun _ => Act.noConfusion⟩
    show Stands { b with now := b.now.after span } c
      (if c.deadline ≤ b.now.after span then .ended (timedOut c) else .waiting)
    split
    · next due => exact ⟨hc, prospect_of_due hw due⟩
    · next later => exact ⟨hc, prospect_eq_none_iff.mpr ⟨hw, later, uncancelled⟩⟩
  | sweep grace =>
    rcases ho with turn | ⟨_, unswept⟩
    · cases turn
    · exact absurd rfl (unswept grace)

end

/-! ## Runs -/

/-- What is decided first about a call from its start on; its deadline may have passed by then. -/
def verdict (c : Call) (now : Instant) (t : List (Act × Report)) : Fate :=
  if c.deadline ≤ now then .ended (timedOut c) else fate c now t

/-- How a call stands at the end of a run, with the outcomes it had in it. -/
def Resolves (b : Bridge) (c : Call) (os : List Outcome) : Fate → Prop
  | .waiting => os = [] ∧ c ∈ b.calls ∧ b.prospect c = none
  | .ended o => os = [] ∧ c ∈ b.calls ∧ b.prospect c = some o ∨ os = [o] ∧ b.Gone c.number
  | .givenUp => os = [] ∧ b.Gone c.number

section
variable {b : Bridge} {c : Call} {acts : List Act} {number : Nat}

theorem Sound.gone_run (h : b.Sound) (gone : b.Gone number) (old : number < b.nextCall)
    (acts : List Act) :
    (act.after b acts).Gone number ∧ outcomes number (act.transcript b acts) = [] := by
  induction acts generalizing b with
  | nil => exact ⟨gone, rfl⟩
  | cons a rest ih =>
    obtain ⟨gone', unheard⟩ := h.gone_act gone old a
    obtain ⟨gone'', silence⟩ := ih (sound_act h a) gone' (Nat.lt_of_lt_of_le old (h.nextCall_act a))
    refine ⟨gone'', ?_⟩
    rw [Machine.transcript, outcomes_cons, unheard, silence]
    rfl

/-- A call that has a reason to end ends that way in every run, unless the run ends before. -/
theorem Calm.ending_run (calm : b.Calm) (orderly : Orderly b acts) (hc : c ∈ b.calls) {o : Outcome}
    (reason : b.prospect c = some o) :
    Resolves (act.after b acts) c (outcomes c.number (act.transcript b acts)) (.ended o) := by
  induction acts generalizing b with
  | nil => exact .inl ⟨rfl, hc, reason⟩
  | cons a rest ih =>
    obtain ⟨first, later⟩ := orderly
    have next := calm.calm_act first
    rw [Machine.transcript, outcomes_cons, Machine.after]
    rcases calm.ending first hc reason with ⟨hc', reason', unheard⟩ | ⟨gone, heard⟩
    · rw [unheard]
      exact ih next later hc' reason'
    · have old := Nat.lt_of_lt_of_le (calm.sound.counted c hc) (calm.sound.nextCall_act a)
      obtain ⟨gone', silence⟩ := next.sound.gone_run gone old rest
      rw [heard, silence]
      exact .inr ⟨rfl, gone'⟩

/-- A call that waits fares as it is decided first. -/
theorem Calm.fate_run (calm : b.Calm) (orderly : Orderly b acts) (hc : c ∈ b.calls)
    (quiet : b.prospect c = none) :
    Resolves (act.after b acts) c (outcomes c.number (act.transcript b acts))
      (fate c b.now (act.transcript b acts)) := by
  induction acts generalizing b with
  | nil => exact ⟨rfl, hc, quiet⟩
  | cons a rest ih =>
    obtain ⟨first, later⟩ := orderly
    have next := calm.calm_act first
    obtain ⟨stands, unheard⟩ := calm.judged first hc quiet
    rw [Machine.transcript, outcomes_cons, Machine.after, unheard, fate]
    -- The induction goes on until an act decides something; then it is known how the rest goes.
    cases decided : judge c b.now (a, (b.act a).2) with
    | waiting =>
      rw [decided] at stands
      have rest := ih next later stands.1 stands.2
      rw [now_act] at rest
      exact rest
    | ended o =>
      rw [decided] at stands
      exact next.ending_run later stands.1 stands.2
    | givenUp =>
      rw [decided] at stands
      have old := Nat.lt_of_lt_of_le (calm.sound.counted c hc) (calm.sound.nextCall_act a)
      obtain ⟨gone, silence⟩ := next.sound.gone_run stands old rest
      exact ⟨silence, gone⟩

/-- A call that was started fares as it is decided first, from its start on. -/
theorem Calm.verdict_run (calm : b.Calm) (orderly : Orderly b acts) (hc : c ∈ b.calls)
    (hw : b.registry.content c.ticket = .waiting)
    (uncancelled : c.context.isCancelled b.signals = false) :
    Resolves (act.after b acts) c (outcomes c.number (act.transcript b acts))
      (verdict c b.now (act.transcript b acts)) := by
  unfold verdict
  split
  · next due => exact calm.ending_run orderly hc (prospect_of_due hw due)
  · next early =>
    exact calm.fate_run orderly hc (prospect_eq_none_iff.mpr ⟨hw, early, uncancelled⟩)

/-- Once everything has settled, a call about which something has been decided has ended. -/
theorem Resolves.of_settled {os : List Outcome} {f : Fate} (h : Resolves b c os f)
    (quiet : c ∈ b.calls → b.prospect c = none) :
    os = f.outcomes ∧ (f = .waiting → c ∈ b.calls) ∧ (f ≠ .waiting → b.Gone c.number) := by
  cases f with
  | waiting => exact ⟨h.1, fun _ => h.2.1, fun decided => absurd rfl decided⟩
  | ended o =>
    rcases h with ⟨_, hc, reason⟩ | ⟨one, gone⟩
    · rw [quiet hc] at reason
      cases reason
    · exact ⟨one, Fate.noConfusion, fun _ => gone⟩
  | givenUp => exact ⟨h.1, Fate.noConfusion, fun _ => h.2⟩

/-- A reply with a correlation id that no call in flight has does nothing but count as an orphan. -/
theorem Sound.orphan (h : b.Sound) {m : Message} {rest : List Message}
    (queued : b.unread = m :: rest) (free : ∀ c ∈ b.calls, c.correlation ≠ m.correlation) :
    ∃ streams, b.act .listen = ({ b with
      hub := { b.hub with streams }
      registry := { b.registry with counters :=
        { b.registry.counters with orphaned := b.registry.counters.orphaned + 1 } } },
      .heard m .unknown) := by
  have missing : b.registry.entry? m.correlation = none := by
    rw [Registry.entry?_eq_none_iff]
    intro e he
    obtain ⟨c, hc, _, same, _⟩ := h.owned e he
    exact same ▸ free c hc
  obtain ⟨streams, eq, _⟩ := listen_of_cons queued
  refine ⟨streams, ?_⟩
  simp only [act, queued, eq, Registry.resolve, missing]

end

/-! ## Every orderly run -/

/-- A call that has been started is in flight and waits. -/
theorem opened_of_started {b : Bridge} {d : Dial} {fresh : String} {number : Nat}
    (started : (b.act (.start d fresh)).2 = .started (.ok number)) :
    b.nextCall = number ∧ b.opened d fresh ∈ (b.act (.start d fresh)).1.calls ∧
      (b.act (.start d fresh)).1.registry.content (b.opened d fresh).ticket = .waiting ∧
      d.context.isCancelled (b.act (.start d fresh)).1.signals = false ∧
      (b.act (.start d fresh)).1.now = b.now := by
  have split : b.act (.start d fresh) = ((b.start d fresh).1, .started (b.start d fresh).2) := rfl
  rw [split] at started ⊢
  have result : (b.start d fresh).2 = .ok number := Report.started.inj started
  rcases start_cases b d fresh with ⟨e, eq⟩ | ⟨_, e, eq⟩ | ⟨hp, given, peers, published, _, eq⟩ <;>
    rw [eq] at result ⊢
  · cases result
  · cases result
  · exact ⟨Except.ok.inj result, List.mem_append_right _ (List.mem_singleton_self _),
      (content_opened hp).1, given, rfl⟩

/-- Once everything has settled a call that was started has ended as it was decided first, or it is
still in flight. -/
theorem Calm.started_run {s : Bridge} (calm : s.Calm) {d : Dial} {fresh : String} {number : Nat}
    (started : (s.act (.start d fresh)).2 = .started (.ok number))
    (first : s.InOrder (.start d fresh)) (acts : List Act)
    (later : Orderly (s.act (.start d fresh)).1 acts) :
    Resolves (act.after (s.act (.start d fresh)).1 acts) (s.opened d fresh)
      (outcomes number (act.transcript (s.act (.start d fresh)).1 acts))
      (verdict (s.opened d fresh) s.now (act.transcript (s.act (.start d fresh)).1 acts)) := by
  obtain ⟨same, hc, hw, uncancelled, now⟩ := opened_of_started started
  rw [← now]
  subst same
  exact (calm.calm_act first).verdict_run later hc hw uncancelled

/-- While a reply is unread, a call about which something has been decided is gone. A reply with its
correlation id that is heard then is an orphan, unless another call has that id. -/
theorem Calm.late_reply {b : Bridge} (calm : b.Calm) {c : Call} {os : List Outcome} {f : Fate}
    (fares : Resolves b c os f) (decided : f ≠ .waiting) {m : Message} {r : Resolution}
    (heard : (b.act .listen).2 = .heard m r)
    (alone : ∀ c' ∈ b.calls, c'.number ≠ c.number → c'.correlation ≠ m.correlation) :
    r = .unknown ∧ ∃ streams, (b.act .listen).1 = { b with
      hub := { b.hub with streams }
      registry := { b.registry with counters :=
        { b.registry.counters with orphaned := b.registry.counters.orphaned + 1 } } } := by
  cases queued : b.unread with
  | nil => simp [act, queued] at heard
  | cons x others =>
    have quiet : ∀ c' ∈ b.calls, b.prospect c' = none := by
      rcases calm.unread with silent | ⟨_, quiet⟩
      · rw [silent] at queued
        cases queued
      · exact quiet
    have gone := (fares.of_settled (quiet c)).2.2 decided
    have told := heard
    simp only [act, queued, Report.heard.injEq] at told
    obtain ⟨rfl, _⟩ := told
    obtain ⟨streams, eq⟩ := calm.sound.orphan queued fun c' hc' => alone c' hc' (gone c' hc')
    rw [eq] at heard ⊢
    exact ⟨(Report.heard.inj heard).2.symm, streams, rfl⟩

/-- What stands in the log of a part of a run stands in the log of the run. -/
theorem told_later {b : Bridge} {before after : List Act} {a : Act} {i : Nat} {x : Act} {r : Report}
    (h : Told (act.transcript ((act.after b before).act a).1 after) i x r) :
    Told (act.transcript b (before ++ a :: after)) (before.length + 1 + i) x r := by
  rw [Told, Machine.transcript_append, List.getElem?_append_right
    (by rw [Machine.length_transcript]; omega), Machine.length_transcript,
    show before.length + 1 + i - before.length = i + 1 by omega]
  exact h

/-- In every orderly run, a call that is started has the deadline of its context or the end of its
timeout, whichever is earlier. Once everything has settled it has ended once, as it was decided
first, or it is still in flight, if nothing was decided. What is heard on a channel was handed in
by a peer of the channel. After the decision, a reply with the correlation id of the call counts as
an orphan and does nothing else, unless another call has been started under the same id. -/
theorem call_ends_as_decided_first (capacity limit number : Nat) (before after : List Act)
    (d : Dial) (fresh : String)
    (orderly : Orderly (new (.new capacity limit) true) (before ++ .start d fresh :: after))
    (started : ((act.after (new (.new capacity limit) true) before).act (.start d fresh)).2 =
      .started (.ok number)) :
    let s := act.after (new (.new capacity limit) true) before
    let c : Call := ⟨number, d.correlation fresh, d.channel, s.registry.slots.length, s.now,
      d.context.effectiveDeadline s.now d.timeout, d.context, .waiting⟩
    let b := (s.act (.start d fresh)).1
    ((act.after b after).Settled →
      let f := verdict c s.now (act.transcript b after)
      outcomes number (act.transcript b after) = f.outcomes ∧
        (f = .waiting → c ∈ (act.after b after).calls) ∧
        (f ≠ .waiting → (act.after b after).Gone number)) ∧
    (∀ i m r, Told (act.transcript b after) i .listen (.heard m r) →
      ∃ j, Handed (act.transcript (new (.new capacity limit) true)
        (before ++ .start d fresh :: after)) j m) ∧
    ∀ done rest m r, after = done ++ .listen :: rest →
      let b' := act.after b done
      verdict c s.now (act.transcript b done) ≠ .waiting →
      (b'.act .listen).2 = .heard m r → m.correlation = d.correlation fresh →
      (∀ c' ∈ b'.calls, c'.number ≠ number → c'.correlation ≠ d.correlation fresh) →
      r = .unknown ∧ ∃ streams, (b'.act .listen).1 = { b' with
        hub := { b'.hub with streams }
        registry := { b'.registry with counters :=
          { b'.registry.counters with orphaned := b'.registry.counters.orphaned + 1 } } } := by
  intro s c b
  obtain ⟨first, inOrder, later⟩ := orderly_append.mp orderly
  have calm : s.Calm := (calm_new capacity limit).calm_after first
  have calm' : b.Calm := calm.calm_act inOrder
  obtain ⟨same, _⟩ := opened_of_started started
  have opened : s.opened d fresh = c := by
    simp only [c, s, ← same]
    rfl
  have fares := calm.started_run started inOrder
  rw [opened] at fares
  refine ⟨?_, ?_, ?_⟩
  · intro settled
    have quiet := (calm'.calm_after later).sound.settled_iff.mp settled
    exact (fares after later).of_settled (quiet.2 c)
  · intro i m r told
    obtain ⟨_, _, _, receipts⟩ :=
      (traced capacity limit (before ++ .start d fresh :: after)).mail
    obtain ⟨j, _, handed⟩ := receipts.heard _ m r (told_later told)
    exact ⟨j, handed⟩
  · intro done rest m r split b' decided heard same alone
    rw [split, orderly_append] at later
    exact (calm'.calm_after later.1).late_reply (fares done later.1) decided heard
      fun c' hc' hn => same ▸ alone c' hc' hn

/-- A call that is answered in time: the run is orderly, and the reply is its outcome. -/
theorem call_ends_as_decided_first_answered :
    let m : Message := ⟨"payment", "inv-1", "", "c-1", .empty, .null, .epoch⟩
    let d : Dial := ⟨.background, "inv-1", m, .ofSeconds 10⟩
    let start := new (.new 1 m.size) true
    let after := [.reply 1 m, .listen, .poll 0 .reply]
    let b := ((act.after start [.join "inv-1"]).act (.start d "")).1
    Orderly start ([.join "inv-1"] ++ .start d "" :: after) ∧
      ((act.after start [.join "inv-1"]).act (.start d "")).2 = .started (.ok 0) ∧
      (act.after b after).Settled ∧
      outcomes 0 (act.transcript b after) = [.ok m] := by
  intro m d start after b
  have room (x : Message) : enqueue (Nat.nextPowerOfTwo 1) [] x = [x] :=
    enqueue_nil (Hub.capacity_pos 1 0) x
  have members : (Dict.lookup "inv-1"
      (Dict.put "inv-1" ((Dict.lookup "inv-1" []).getD 0 + 1) [])).getD 0 = 1 := by decide
  have deadline : Context.background.effectiveDeadline .start (.ofSeconds 10) = ⟨10000000000⟩ := rfl
  have opened : b = { start with
      hub := { (start.hub.join "inv-1").1 with peers := [⟨1, "inv-1", [m]⟩], published := 1 }
      registry := ⟨[⟨"c-1", 0, "inv-1", "payment", ⟨10000000000⟩⟩], [⟨true, .waiting⟩],
        ⟨1, 0, 0, 0, 0⟩⟩
      calls := [⟨0, "c-1", "inv-1", 0, .start, ⟨10000000000⟩, .background, .waiting⟩]
      nextCall := 1 } := by
    simp [b, start, Machine.after, act, new, Hub.new, Hub.subscribe, Hub.join, Bridge.start, d, m,
      ← deadline, Context.background, Context.isCancelled, Registry.empty, Registry.register,
      Registry.isPending, Registry.entry?, Hub.publish, Hub.checkSize, Directory.members,
      Directory.enter, Hub.reach, Hub.deliver, room, members]
  have ran : act.transcript b after =
      [(.reply 1 m, .replied (.ok ())), (.listen, .heard m .delivered),
        (.poll 0 .reply, .ended 0 (.ok m))] ∧
      (act.after b after).unread = [] ∧ (act.after b after).calls = [] := by
    rw [opened]
    simp [after, start, m, Machine.transcript, Machine.after, act, new, Hub.new, Hub.subscribe,
      Hub.join, Hub.peer?, Hub.checkSize, Hub.reply, Message.stamped, room, unread, Hub.stream?,
      listen, Hub.receiveReply, poll, look, collect, Registry.take, Registry.content,
      Registry.slot?, Registry.resolve, Registry.fill, Registry.entry?, Registry.isAbandoned,
      Registry.without]
  have started : ((act.after start [.join "inv-1"]).act (.start d "")).2 = .started (.ok 0) := by
    simp [start, Machine.after, act, new, Hub.new, Hub.subscribe, Hub.join, Bridge.start, d, m,
      Context.background, Context.isCancelled, Registry.empty, Registry.register,
      Registry.isPending, Registry.entry?, Hub.publish, Hub.checkSize, Directory.members,
      Directory.enter, Hub.reach, Hub.deliver, room, members]
  have sound : start.Sound := sound_new _ _
  have sound' : b.Sound := sound_act (sound_act sound (.join "inv-1")) (.start d "")
  have idle : start.Settled :=
    sound.settled_iff.mpr ⟨unread_new 1 m.size, by simp [start, new]⟩
  have joined : (act.after start [.join "inv-1"]).Settled :=
    (sound_act sound (.join "inv-1")).settled_iff.mpr
      ⟨unread_new 1 m.size, by simp [start, new, act]⟩
  have waits : b.Settled := by
    refine sound'.settled_iff.mpr ?_
    rw [opened]
    refine ⟨unread_new 1 m.size, ?_⟩
    intro c hc
    rw [List.mem_singleton] at hc
    subst hc
    exact prospect_eq_none_iff.mpr ⟨rfl, by decide, rfl⟩
  have ended : (act.after b after).Settled :=
    (sound_after sound' after).settled_iff.mpr ⟨ran.2.1, by rw [ran.2.2]; simp⟩
  have orderly : Orderly start ([.join "inv-1"] ++ .start d "" :: after) :=
    ⟨.inr ⟨idle, by simp⟩, .inr ⟨joined, by simp⟩, .inr ⟨waits, by simp⟩, .inl rfl, .inl rfl,
      trivial⟩
  refine ⟨orderly, started, ended, ?_⟩
  have fares := (call_ends_as_decided_first 1 m.size 0 [.join "inv-1"] after d "" orderly started).1
  have early : ¬ (Context.background.effectiveDeadline Instant.start (.ofSeconds 10) ≤ .start) := by
    decide
  rw [(fares ended).1]
  show (verdict ⟨0, "c-1", "inv-1", 0, .start,
    Context.background.effectiveDeadline .start (.ofSeconds 10), .background, .waiting⟩
    .start (act.transcript b after)).outcomes = [.ok m]
  rw [ran.1, verdict, if_neg early]
  rfl
end Bridge

end PaymentRelay
