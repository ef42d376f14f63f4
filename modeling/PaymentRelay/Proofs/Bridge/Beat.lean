import PaymentRelay.Proofs.Bridge.Calm

/-
  Bridges with sweepers.

  To what happens at a bridge come the sweepers (`Beat`): one begins its work, or all that are due
  sweep. A run is in step when everything but the turns of tasks and the rounds of the sweepers
  happens while nothing is left to do (`InStep`). It is open when, between two such steps, the
  sweepers make their rounds: before the calls look, after, or in between.

  The registry is touched by its operations alone (`Sound.registry_act`), and each entry has the
  deadline of its call (`Dated`).
-/

namespace PaymentRelay

namespace Machine

variable {σ ι ο : Type} {m : Machine σ ι ο} {P : σ → ι → Prop} {s : σ}

/-- Every input of a run is allowed in the state that it comes in. -/
def Allows (m : Machine σ ι ο) (P : σ → ι → Prop) : σ → List ι → Prop
  | _, [] => True
  | s, i :: rest => P s i ∧ Allows m P (m s i).1 rest

theorem allows_append {xs ys : List ι} :
    m.Allows P s (xs ++ ys) ↔ m.Allows P s xs ∧ m.Allows P (m.after s xs) ys := by
  induction xs generalizing s with
  | nil => simp [Allows, after]
  | cons i rest ih =>
    simp only [List.cons_append, Allows, after, ih]
    exact and_assoc.symm

/-- What holds of the empty transcript and is kept by inputs that are allowed holds of the run. -/
theorem Allows.history {Q : List (ι × ο) → σ → Prop} {xs : List ι} (run : m.Allows P s xs)
    (start : Q [] s)
    (step : ∀ t s i, Q t s → P s i → Q (t ++ [(i, (m s i).2)]) (m s i).1) :
    Q (m.transcript s xs) (m.after s xs) := by
  have extend : ∀ (xs : List ι) (t : List (ι × ο)) (s : σ), m.Allows P s xs → Q t s →
      Q (t ++ m.transcript s xs) (m.after s xs) := by
    intro xs
    induction xs with
    | nil => intro t s _ h; simpa [transcript, after] using h
    | cons i rest ih =>
      intro t s run h
      have next := ih _ _ run.2 (step t s i h run.1)
      rwa [List.append_assoc] at next
  exact extend xs [] s run start

theorem Allows.after_keeps {Q : σ → Prop} {xs : List ι} (run : m.Allows P s xs) (start : Q s)
    (step : ∀ s i, Q s → P s i → Q (m s i).1) : Q (m.after s xs) :=
  run.history (Q := fun _ s => Q s) start fun _ s i => step s i

end Machine

/-- What is not due is not overdue either, whatever the grace. -/
theorem Instant.lt_after_of_not_le {t d : Instant} (h : ¬ d ≤ t) (s : Span) : t < d.after s := by
  have later : ¬ d.nanos ≤ t.nanos := h
  show t.nanos < d.nanos + s.nanos
  omega

namespace Bridge

/-- Something that happens at a bridge with sweepers. -/
inductive Beat where
  | act (a : Act)
  /-- A sweeper begins its work. -/
  | hire (interval : Span)
  /-- Every sweeper that is due sweeps. -/
  | round

/-- A bridge with sweepers as a machine. -/
def beat : Machine Bridge Beat Report := fun b x =>
  match x with
  | .act a => b.act a
  | .hire interval => ({ b with sweepers := b.sweepers ++ [Sweeper.new b.now interval] }, .silent)
  | .round => (b.sweepDue, .silent)

/-- Nothing is left to do: no turn of a task does anything, and no sweeper is due. -/
structure AtRest (b : Bridge) : Prop where
  settled : b.Settled
  undue : ∀ s ∈ b.sweepers, s.isDue b.now = false

/-- What happens while something is left to do is the turn of a task, or a round of the sweepers.
Nobody else sweeps. -/
def InStep (b : Bridge) : Beat → Prop
  | .act a => a.isTurn = true ∨ b.AtRest ∧ ∀ grace, a ≠ .sweep grace
  | .hire _ => b.AtRest
  | .round => True

/-- Entries have the deadlines of their calls. -/
def Dated (b : Bridge) : Prop :=
  ∀ e ∈ b.registry.entries, ∀ c ∈ b.calls, c.ticket = e.ticket → e.deadline = c.deadline

theorem InStep.inOrder {b : Bridge} {a : Act} (h : b.InStep (.act a)) : b.InOrder a :=
  h.imp_right fun ⟨rest, unswept⟩ => ⟨rest.settled, unswept⟩

end Bridge

/-- The operation registers a call. -/
def Registry.Op.isRegister : Op → Bool
  | .register .. => true
  | _ => false

namespace Registry

/-- Operations that register no call add no entry. -/
theorem sublist_after {r : Registry} {ops : List Op} (h : ops.any Op.isRegister = false) :
    (perform.after r ops).entries.Sublist r.entries := by
  induction ops generalizing r with
  | nil => exact .refl _
  | cons o rest ih =>
    rw [List.any_cons, Bool.or_eq_false_iff] at h
    refine (ih h.2).trans ?_
    rcases perform_shrinks r o with ⟨_, _, _, _, rfl, _⟩ | ⟨sub, _⟩
    · cases h.1
    · exact sub

end Registry

namespace Bridge

section
variable {b b' : Bridge} {c : Call} {a : Act}

/-! ## Acts -/

/-- An act touches the registry by operations alone, and registers a call only to start it. -/
theorem Sound.registry_act (h : b.Sound) (a : Act) :
    ∃ ops, (b.act a).1.registry = Registry.perform.after b.registry ops ∧
      (ops.any Registry.Op.isRegister = false ∨ ∃ d fresh, a = .start d fresh) := by
  by_cases ha : a.isHub = true
  · obtain ⟨hub, eq⟩ := act_hub (b := b) ha
    exact ⟨[], by rw [eq]; rfl, .inl rfl⟩
  cases a with
  | start d fresh =>
    simp only [act]
    rcases start_cases b d fresh with ⟨e, eq⟩ | ⟨hp, e, eq⟩ | ⟨hp, _, peers, published, _, eq⟩ <;>
      rw [eq]
    · exact ⟨[], rfl, .inl rfl⟩
    · exact ⟨[.register (d.correlation fresh) d.channel d.message.route
        (d.context.effectiveDeadline b.now d.timeout), .cancel (d.correlation fresh),
        .drop b.registry.slots.length], rfl, .inr ⟨d, fresh, rfl⟩⟩
    · exact ⟨[.register (d.correlation fresh) d.channel d.message.route
        (d.context.effectiveDeadline b.now d.timeout)], rfl, .inr ⟨d, fresh, rfl⟩⟩
  | abandon number =>
    simp only [act]
    rcases b.inFlight_or number with ⟨c, hc, rfl⟩ | missing
    · rw [abandon_of_mem hc (h.unique hc)]
      cases c.stage with
      | waiting =>
        exact ⟨[.cancel c.correlation, .drop c.ticket], rfl, .inl rfl⟩
      | resolved => exact ⟨[.drop c.ticket], rfl, .inl rfl⟩
    · rw [abandon_of_not_mem missing]
      exact ⟨[], rfl, .inl rfl⟩
  | signal n => exact ⟨[], rfl, .inl rfl⟩
  | tick span => exact ⟨[], rfl, .inl rfl⟩
  | sweep grace => exact ⟨[.sweep b.now grace], rfl, .inl rfl⟩
  | listen =>
    rw [act_listen]
    cases queued : b.unread with
    | nil =>
      rw [listen_of_nil queued]
      exact ⟨[], rfl, .inl rfl⟩
    | cons m rest =>
      obtain ⟨streams, eq, _⟩ := listen_of_cons queued
      rw [eq]
      exact ⟨[.resolve m], rfl, .inl rfl⟩
  | poll number branch =>
    rw [act_poll]
    rcases b.inFlight_or number with ⟨c, hc, rfl⟩ | missing
    · have look := poll_look hc (h.unique hc) branch
      generalize b.poll c.number branch = next at look
      cases look with
      | idle => exact ⟨[], rfl, .inl rfl⟩
      | answered => exact ⟨[.take c.ticket, .drop c.ticket], rfl, .inl rfl⟩
      | dropped => exact ⟨[.drop c.ticket], rfl, .inl rfl⟩
      | timedOut =>
        exact ⟨[.expire c.correlation, .drop c.ticket], rfl, .inl rfl⟩
      | cancelled =>
        exact ⟨[.cancel c.correlation, .drop c.ticket], rfl, .inl rfl⟩
      | overtaken => exact ⟨[], rfl, .inl rfl⟩
    · rw [poll_of_not_mem missing]
      exact ⟨[], rfl, .inl rfl⟩
  | join | leave | read | publish | reply | dropHandle => exact absurd rfl ha

/-- The calls in flight after an act were in flight before, or the act has started them. -/
theorem Sound.calls_act (h : b.Sound) (a : Act) : ∀ d ∈ (b.act a).1.calls,
    (∃ c ∈ b.calls, d = { c with stage := d.stage }) ∨
      ∃ dial fresh, a = .start dial fresh ∧ d = b.opened dial fresh := by
  intro d hd
  have move := h.move a
  generalize (b.act a).2 = r at move
  have before : ∀ {cs}, (b.act a).1.calls = cs → (∀ d ∈ cs, d ∈ b.calls) →
      ∃ c ∈ b.calls, d = { c with stage := d.stage } :=
    fun calls old => ⟨d, old d (calls ▸ hd), rfl⟩
  cases move with
  | quiet _ _ _ _ _ noMail =>
    obtain ⟨c, hc, same, _⟩ := noMail d hd
    exact .inl ⟨c, hc, same⟩
  | returned _ _ _ _ _ _ noMail =>
    obtain ⟨c, hc, same, _⟩ := noMail d hd
    exact .inl ⟨c, hc, same⟩
  | joined _ _ _ _ calls => exact .inl (before calls fun _ => id)
  | handed _ _ _ _ _ calls => exact .inl (before calls fun _ => id)
  | heard _ _ _ _ calls => exact .inl (before calls fun _ => id)
  | @opened dial fresh _ _ _ _ calls =>
    rw [calls] at hd
    rcases List.mem_append.mp hd with hd | hd
    · exact .inl ⟨d, hd, rfl⟩
    · exact .inr ⟨dial, fresh, rfl, List.mem_singleton.mp hd⟩

theorem Sound.dated_opened (h : b.Sound) (dated : b.Dated) (d : Dial) (fresh : String) :
    Dated { b with
      registry := b.enroll d fresh
      calls := b.calls ++ [b.opened d fresh]
      nextCall := b.nextCall + 1 } := by
  intro e he c hc ht
  -- Old calls have old tickets, and the new one the next.
  rcases Registry.mem_register he with he | ⟨rfl, _⟩ <;>
    rcases List.mem_append.mp hc with hc | hc
  · exact dated e he c hc ht
  · rw [List.mem_singleton.mp hc] at ht
    exact absurd ht.symm (Nat.ne_of_lt (h.registry.issued e he))
  · exact absurd ht (Nat.ne_of_lt (h.held c hc).1)
  · rw [List.mem_singleton.mp hc]
    rfl

theorem Sound.dated_start (h : b.Sound) (dated : b.Dated) (d : Dial) (fresh : String) :
    (b.start d fresh).1.Dated := by
  rcases start_cases b d fresh with ⟨e, eq⟩ | ⟨hp, e, eq⟩ | ⟨hp, _, peers, published, _, eq⟩ <;>
    rw [eq]
  · exact dated
  · intro e he
    rw [withdraw, enroll, (Registry.register_withdrawn hp).1] at he
    exact dated e he
  · exact h.dated_opened dated d fresh

/-- Every act keeps the deadlines of entries and calls together. -/
theorem Sound.dated_act (h : b.Sound) (dated : b.Dated) (a : Act) : (b.act a).1.Dated := by
  by_cases starts : ∃ d fresh, a = .start d fresh
  · obtain ⟨d, fresh, rfl⟩ := starts
    exact h.dated_start dated d fresh
  · intro e he c hc ht
    obtain ⟨ops, eq, plain | started⟩ := h.registry_act a
    · rw [eq] at he
      rcases h.calls_act a c hc with ⟨d, hd, same⟩ | ⟨d, fresh, started, _⟩
      · rw [same] at ht ⊢
        exact dated e ((Registry.sublist_after plain).subset he) d hd ht
      · exact absurd ⟨d, fresh, started⟩ starts
    · exact absurd started starts

/-! ## Sweepers -/

theorem sweepDue_of_undue (h : ∀ s ∈ b.sweepers, s.isDue b.now = false) : b.sweepDue = b := by
  have kept : (b.sweepers.map fun s => if s.isDue b.now then s.advance b.now else s) =
      b.sweepers := by
    refine (List.map_congr_left fun s hs => ?_).trans (List.map_id _)
    simp [h s hs]
  have idle : ∀ ss : List Sweeper, (∀ s ∈ ss, s.isDue b.now = false) →
      ss.foldl (fun b s => if s.isDue b.now then (b.sweep sweepGrace).1 else b) b = b := by
    intro ss
    induction ss with
    | nil => exact fun _ => rfl
    | cons s rest ih =>
      intro h
      rw [List.foldl_cons, if_neg (by simp [h s (List.mem_cons_self ..)])]
      exact ih fun s hs => h s (List.mem_cons_of_mem _ hs)
  rw [sweepDue, kept]
  exact idle b.sweepers h

/-- What holds once the sweepers that are due have moved on, and is kept by a sweep, holds after a
round. -/
theorem sweepDue_keeps {P : Bridge → Prop}
    (start : P { b with
      sweepers := b.sweepers.map fun s => if s.isDue b.now then s.advance b.now else s })
    (step : ∀ b, P b → P (b.sweep sweepGrace).1) : P b.sweepDue := by
  have sweeps : ∀ (ss : List Sweeper) (b : Bridge), P b →
      P (ss.foldl (fun b s => if s.isDue b.now then (b.sweep sweepGrace).1 else b) b) := by
    intro ss
    induction ss with
    | nil => exact fun _ h => h
    | cons s rest ih =>
      intro b h
      rw [List.foldl_cons]
      refine ih _ ?_
      split
      · exact step b h
      · exact h
  exact sweeps b.sweepers _ start

/-- A sweeper that is due is not due any more once it has moved on. -/
theorem isDue_advance {s : Sweeper} {now : Instant} (due : s.isDue now = true) :
    (s.advance now).isDue now = false := by
  simp only [Sweeper.isDue, Bool.and_eq_true, decide_eq_true_eq] at due
  have positive : (0 : Int) < s.interval.nanos := Int.natCast_pos.mpr due.1
  have beyond := Int.lt_ediv_add_one_mul_self (now.nanos - s.next.nanos) positive
  have later : ¬ (s.advance now).next ≤ now := by
    refine Int.not_le.mpr ?_
    show now.nanos < s.next.nanos + _ * _
    omega
  simp [Sweeper.isDue, later]

/-- After a round no sweeper is due. -/
theorem undue_sweepDue (b : Bridge) :
    ∀ s ∈ b.sweepDue.sweepers, s.isDue b.sweepDue.now = false := by
  refine sweepDue_keeps (P := fun b => ∀ s ∈ b.sweepers, s.isDue b.now = false) ?_ fun _ h => h
  intro s hs
  obtain ⟨s', _, rfl⟩ := List.mem_map.mp hs
  cases due : s'.isDue b.now with
  | true => simpa only [if_true] using isDue_advance due
  | false => simp [due]

/-! ## Rest -/

/-- Where nothing is left to do, no call has a reason to end, and nothing is unread. -/
theorem Sound.atRest_iff (h : b.Sound) : b.AtRest ↔
    (b.unread = [] ∧ ∀ c ∈ b.calls, b.prospect c = none) ∧
      ∀ s ∈ b.sweepers, s.isDue b.now = false := by
  rw [← h.settled_iff]
  exact ⟨fun rest => ⟨rest.settled, rest.undue⟩, fun rest => ⟨rest.1, rest.2⟩⟩

theorem atRest_new (capacity limit : Nat) (listening : Bool) :
    (new (.new capacity limit) listening).AtRest := by
  rw [(sound_new _ _).atRest_iff]
  cases listening with
  | true => exact ⟨⟨unread_new capacity limit, by simp [new]⟩, by simp [new]⟩
  | false => exact ⟨⟨rfl, by simp [new]⟩, by simp [new]⟩

theorem calm_idle (capacity limit : Nat) (listening : Bool) :
    (new (.new capacity limit) listening).Calm := by
  cases listening with
  | true => exact calm_new capacity limit
  | false => exact .of_waiting (sound_new _ _) (by simp [new]) (.inl (by simp [new])) rfl

theorem dated_new (capacity limit : Nat) (listening : Bool) :
    (new (.new capacity limit) listening).Dated := by
  cases listening <;> simp [Dated, new]

/-- Where everything has settled, giving up a call leaves nothing to do. -/
theorem Settled.settled_abandon (settled : b.Settled) (h : b.Sound) (number : Nat) :
    (b.act (.abandon number)).1.Settled := by
  obtain ⟨silent, quiet⟩ := h.settled_iff.mp settled
  have calm : b.Calm := .of_waiting h (fun c hc => (prospect_eq_none_iff.mp (quiet c hc)).1)
    (.inl fun c hc => (prospect_eq_none_iff.mp (quiet c hc)).2.1) silent
  obtain ⟨same, now, signals, unread, _⟩ := calm.abandon_cases quiet number
  refine (sound_act h (.abandon number)).settled_iff.mpr ⟨unread.trans silent, fun c hc => ?_⟩
  obtain ⟨before, content⟩ := same c hc
  exact (prospect_congr content now signals).trans (quiet c before)

theorem AtRest.rest_join (rest : b.AtRest) (h : b.Sound) (channel : String) :
    (b.act (.join channel)).1.AtRest := by
  rw [h.atRest_iff] at rest
  rw [(sound_act h _).atRest_iff]
  exact rest

/-- A call on a channel that has just been joined is started, if it is neither cancelled nor too
large and its correlation id is free. -/
theorem start_join (d : Dial) (fresh : String) (given : d.context.isCancelled b.signals = false)
    (hp : b.registry.isPending (d.correlation fresh) = false)
    (fits : Message.size (if d.message.correlation = "" then { d.message with correlation := fresh }
      else d.message) ≤ b.hub.limit) :
    ((b.act (.join d.channel)).1.start d fresh).2 = .ok b.nextCall := by
  obtain ⟨hub, reached, sent⟩ := Hub.publish_join d.channel fits
  unfold start
  simp only [act, correlation_filled, route_filled, given, Registry.register_of_not_isPending hp,
    sent, Bool.false_eq_true, if_false]

/-- A call that is started and not due yet leaves nothing to do. -/
theorem AtRest.rest_start (rest : b.AtRest) (h : b.Sound) {d : Dial} {fresh : String} {n : Nat}
    (started : (b.start d fresh).2 = .ok n) (early : ¬ (b.opened d fresh).deadline ≤ b.now) :
    (b.start d fresh).1.AtRest ∧ (b.start d fresh).1.calls = b.calls ++ [b.opened d fresh] := by
  obtain ⟨⟨silent, quiet⟩, undue⟩ := h.atRest_iff.mp rest
  have sound := h.sound_start d fresh
  rcases start_cases b d fresh with ⟨e, eq⟩ | ⟨_, e, eq⟩ | ⟨hp, given, peers, published, _, eq⟩ <;>
    rw [eq] at started sound ⊢
  · cases started
  · cases started
  · refine ⟨sound.atRest_iff.mpr ⟨⟨(unread_congr rfl rfl).trans silent, fun c hc => ?_⟩, undue⟩,
      rfl⟩
    rcases List.mem_append.mp hc with hc | hc
    · rw [← quiet c hc]
      exact prospect_congr (Registry.content_congr (slot_enroll (h.held c hc).1)) rfl rfl
    · rw [List.mem_singleton.mp hc]
      exact prospect_eq_none_iff.mpr ⟨(content_opened hp).1, early, given⟩

/-- A channel is joined and a call is started on it: nothing is left to do before the start, nor
after it until the call is due. -/
theorem AtRest.rest_call (rest : b.AtRest) (h : b.Sound) (d : Dial) (fresh : String)
    (given : d.context.isCancelled b.signals = false)
    (hp : b.registry.isPending (d.correlation fresh) = false)
    (fits : Message.size (if d.message.correlation = "" then { d.message with correlation := fresh }
      else d.message) ≤ b.hub.limit)
    (early : ¬ (b.opened d fresh).deadline ≤ b.now) :
    let joined := (b.act (.join d.channel)).1
    let waiting := (joined.act (.start d fresh)).1
    joined.AtRest ∧ (joined.act (.start d fresh)).2 = .started (.ok b.nextCall) ∧
      waiting.AtRest ∧ waiting.calls = b.calls ++ [b.opened d fresh] := by
  intro joined waiting
  have joins := rest.rest_join h d.channel
  have started := start_join d fresh given hp fits
  obtain ⟨waits, calls⟩ := joins.rest_start (sound_act h (.join d.channel)) started early
  rw [← congrArg Prod.fst (act_start joined d fresh)] at waits calls
  exact ⟨joins, by rw [act_start, started], waits, calls⟩

end

end Bridge

end PaymentRelay
