import PaymentRelay.Call.Bridge
import PaymentRelay.Proofs.Hub.Lookup
import PaymentRelay.Proofs.Registry.Turn

/-
  The bridge as a machine.

  `act` runs whatever can happen at a bridge with its hub: what peers do, what callers do, the
  signals and the clock, the sweep, and the turns of the tasks. A task takes its turn when the
  listener reads one reply or when a call looks at one of the things it waits for. Nothing says
  when tasks take their turns: a run is any list of acts, so that a call may look long after it
  was woken, and at any of the things that are ready.

  What a task does in its turn is said once: what the listener does (`listen_of_nil`,
  `listen_of_cons`), what a call can find when it looks (`Look`, `poll_look`), and so is how a call
  starts (`start_cases`).
-/

namespace PaymentRelay

/-- The correlation id that a call is started with. -/
def Dial.correlation (d : Dial) (fresh : String) : String :=
  if d.message.correlation = "" then fresh else d.message.correlation

/-- The call was refused before it was registered. -/
def CallError.isRefusal : CallError → Bool
  | .cancelled _ | .duplicate _ => true
  | _ => false

namespace Bridge

/-- Something that happens at a bridge. -/
inductive Act where
  /-- A peer joins a channel. -/
  | join (channel : String)
  | leave (peer : Nat)
  /-- A peer reads one message. -/
  | read (peer : Nat)
  /-- A message is published that nobody waits for a reply to. -/
  | publish (channel : String) (m : Message)
  /-- A peer replies, with any message. -/
  | reply (peer : Nat) (m : Message)
  /-- A call is started; its message may need a fresh correlation id. -/
  | start (d : Dial) (fresh : String)
  /-- A call is given up by its caller. -/
  | abandon (number : Nat)
  | signal (n : Nat)
  /-- The handle of a signal is dropped: the signal can no longer be given, and nobody is told. -/
  | dropHandle (n : Nat)
  /-- The clock moves on. -/
  | tick (span : Span)
  | sweep (grace : Span)
  /-- The listener reads one reply. -/
  | listen
  /-- A call looks at one of the things it waits for. -/
  | poll (number : Nat) (branch : Branch)

/-- What can be seen of an act. -/
inductive Report where
  | silent
  | joined (peer : Nat)
  | replied (result : Except BusError Unit)
  | started (result : Except CallError Nat)
  /-- The listener has read a reply. -/
  | heard (m : Message) (r : Resolution)
  /-- A call has ended. -/
  | ended (number : Nat) (o : Outcome)

/-- The replies that the listener has not read. -/
def unread (b : Bridge) : List Message :=
  match b.listener.bind b.hub.stream? with
  | some s => s.unread
  | none => []

/-- The bridge as a machine. -/
def act : Machine Bridge Act Report := fun b a =>
  match a with
  | .join channel => let (hub, peer) := b.hub.join channel; ({ b with hub }, .joined peer)
  | .leave peer => ({ b with hub := b.hub.leave peer }, .silent)
  | .read peer =>
    match b.hub.peer? peer with
    | some p => ({ b with hub := (b.hub.receive p).1 }, .silent)
    | none => (b, .silent)
  | .publish channel m => ((b.send channel m).1, .silent)
  | .reply peer m =>
    match b.hub.peer? peer with
    | some p => let (hub, result) := b.hub.reply p m; ({ b with hub }, .replied result)
    | none => (b, .silent)
  | .start d fresh => let (b, result) := b.start d fresh; (b, .started result)
  | .abandon number => (b.abandon number, .silent)
  | .signal n => (b.signal n, .silent)
  | .dropHandle _ => (b, .silent)
  | .tick span => ({ b with now := b.now.after span }, .silent)
  | .sweep grace => ((b.sweep grace).1, .silent)
  | .listen =>
    match b.unread with
    | m :: _ => (b.listen, .heard m (b.registry.resolve m).2)
    | [] => (b.listen, .silent)
  | .poll number branch =>
    match b.poll number branch with
    | (b, some o) => (b, .ended number o)
    | (b, none) => (b, .silent)

/-! ## The listener -/

/-- What is unread depends on the streams and on which of them is read. -/
theorem unread_congr {b b' : Bridge} (listener : b'.listener = b.listener)
    (streams : b'.hub.streams = b.hub.streams) : b'.unread = b.unread := by
  have same : b'.hub.stream? = b.hub.stream? := by
    funext id
    rw [Hub.stream?, Hub.stream?, streams]
  rw [unread, unread, listener, same]

theorem unread_new (capacity limit : Nat) : (new (.new capacity limit) true).unread = [] := by
  simp [unread, new, Hub.subscribe, Hub.new, Hub.stream?]

/-- A reply that is taken in is the last one unread, if somebody listens. -/
theorem unread_reply (b : Bridge) (m : Message) :
    let fed := fun s : Stream => { s with unread := enqueue b.hub.capacity s.unread m }
    let b' : Bridge := { b with hub := { b.hub with streams := b.hub.streams.map fed } }
    b'.unread = b.unread ∨ b'.unread = enqueue b.hub.capacity b.unread m := by
  intro fed b'
  cases hl : b.listener with
  | none => exact .inl (by simp [b', unread, hl])
  | some id =>
    have found : b'.hub.stream? id = (b.hub.stream? id).map fed :=
      Hub.stream?_map (h := b.hub) (f := fed) (fun _ => rfl) id
    cases hs : b.hub.stream? id with
    | none => exact .inl (by simp [b', unread, hl, found, hs])
    | some s => exact .inr (by simp [fed, b', unread, hl, found, hs])

theorem act_listen (b : Bridge) : (b.act .listen).1 = b.listen := by
  simp only [act]
  split <;> rfl

section
variable {b : Bridge} {m : Message} {rest : List Message}

theorem listen_of_nil (h : b.unread = []) : b.listen = b := by
  unfold unread at h
  unfold listen
  split
  · rfl
  · next s hs =>
    rw [hs] at h
    simp only at h
    have drained : ∀ m, (b.hub.receiveReply s).2 ≠ .message m := by
      intro m
      simp only [Hub.receiveReply, h]
      split <;> simp
    split
    · next hub m hm => exact absurd (congrArg Prod.snd hm) (drained m)
    · rfl

/-- Reading takes one reply from the stream of the listener, and the registry resolves it. -/
theorem listen_of_cons (h : b.unread = m :: rest) :
    ∃ streams, b.listen = { b with
        hub := { b.hub with streams }
        registry := (b.registry.resolve m).1 } ∧
      (b.listen).unread = rest := by
  unfold unread at h
  cases hs : b.listener.bind b.hub.stream? with
  | none => simp [hs] at h
  | some s =>
    simp only [hs] at h
    obtain ⟨id, hid, found⟩ := Option.bind_eq_some_iff.mp hs
    have read : b.listen = { b with
        hub := { b.hub with streams := b.hub.streams.map fun t =>
          if t.id = s.id then { t with unread := rest } else t }
        registry := (b.registry.resolve m).1 } := by
      simp [listen, hs, Hub.receiveReply, h]
    refine ⟨_, read, ?_⟩
    have same : s.id = id := by simpa using List.find?_some found
    rw [read, unread, hid, Option.bind_some, Hub.stream?_map (by intro t; split <;> rfl), found]
    simp

end

/-! ## A call that looks -/

/-- A call is gone, and the holder of its ticket with it. -/
def depart (b : Bridge) (c : Call) (r : Registry) : Bridge :=
  { b with registry := r.drop c.ticket, calls := b.calls.filter fun d => d.number ≠ c.number }

/-- A call finds that its entry has been removed, and looks at its reply alone. -/
def yieldTo (b : Bridge) (c : Call) : Bridge :=
  { b with calls := b.calls.map fun d =>
      if d.number = c.number then { d with stage := .resolved } else d }

/-- What can become of a call that looks. -/
inductive Look (b : Bridge) (c : Call) : Branch → Bridge × Option Outcome → Prop
  /-- Nothing is ready. -/
  | idle {branch : Branch}
      (empty : branch = .reply ∨ c.stage = .resolved → b.registry.content c.ticket = .waiting)
      (early : branch = .deadline → c.stage = .waiting → ¬ c.deadline ≤ b.now)
      (quiet : branch = .cancellation → c.stage = .waiting →
        c.context.isCancelled b.signals = false) : Look b c branch (b, none)
  /-- Its reply is there. -/
  | answered {branch : Branch} {m : Message} (full : b.registry.content c.ticket = .reply m) :
      Look b c branch (b.depart c (b.registry.take c.ticket).1, some (.ok m))
  /-- There will be no reply. -/
  | dropped {branch : Branch} (closed : b.registry.content c.ticket = .closed) :
      Look b c branch (b.depart c b.registry, some (.error (b.dropped c)))
  /-- Its deadline has come, and it removes an entry. -/
  | timedOut (stage : c.stage = .waiting) (due : c.deadline ≤ b.now)
      (found : b.registry.isPending c.correlation = true) :
      Look b c .deadline (b.depart c (b.registry.expire c.correlation).1,
        some (.error (.timeout c.correlation (c.deadline.since c.started))))
  /-- Its context is cancelled, and it removes an entry. -/
  | cancelled (stage : c.stage = .waiting) (given : c.context.isCancelled b.signals = true)
      (found : b.registry.isPending c.correlation = true) :
      Look b c .cancellation (b.depart c (b.registry.cancel c.correlation).1,
        some (.error (.cancelled c.correlation)))
  /-- It is due or cancelled, but finds no entry to remove. -/
  | overtaken {branch : Branch} (stage : c.stage = .waiting)
      (ready : branch = .deadline ∧ c.deadline ≤ b.now ∨
        branch = .cancellation ∧ c.context.isCancelled b.signals = true)
      (missing : b.registry.isPending c.correlation = false) :
      Look b c branch (b.yieldTo c, none)

section
variable {b : Bridge} {c : Call} {number : Nat} {branch : Branch}

theorem find?_call (hc : c ∈ b.calls) (unique : ∀ d ∈ b.calls, d.number = c.number → d = c) :
    b.calls.find? (fun d => d.number = c.number) = some c := by
  cases hf : b.calls.find? fun d => d.number = c.number with
  | none => exact absurd (List.find?_eq_none.mp hf c hc) (by simp)
  | some d =>
    rw [unique d (List.mem_of_find?_eq_some hf) (by simpa using List.find?_some hf)]

theorem remove_answer (r : Registry) (correlation : String) (count : Counters → Counters) :
    (r.remove correlation count).2 = r.isPending correlation := by
  cases h : r.entry? correlation <;> simp [Registry.remove, Registry.isPending, h]

theorem poll_of_look_some (hc : c ∈ b.calls) (unique : ∀ d ∈ b.calls, d.number = c.number → d = c)
    {r : Registry} {o : Outcome} {s : Stage} (h : b.look c branch = (r, some o, s)) :
    b.poll c.number branch = (b.depart c r, some o) := by
  simp only [poll, find?_call hc unique, h, depart]

theorem poll_of_look_none (hc : c ∈ b.calls) (unique : ∀ d ∈ b.calls, d.number = c.number → d = c)
    {s : Stage} (h : b.look c branch = (b.registry, none, s)) :
    b.poll c.number branch = ({ b with calls := b.calls.map fun d =>
      if d.number = c.number then { d with stage := s } else d }, none) := by
  simp only [poll, find?_call hc unique, h]

theorem poll_of_look_same (hc : c ∈ b.calls) (unique : ∀ d ∈ b.calls, d.number = c.number → d = c)
    (h : b.look c branch = (b.registry, none, c.stage)) : b.poll c.number branch = (b, none) := by
  have same : (b.calls.map fun d =>
      if d.number = c.number then { d with stage := c.stage } else d) = b.calls := by
    refine (List.map_congr_left ?_).trans (List.map_id b.calls)
    intro d hd
    split
    · next h => rw [unique d hd h]; rfl
    · rfl
  rw [poll_of_look_none hc unique h, same]

/-- A call that looks at its reply finds what is in its slot, whichever its stage. -/
theorem look_at_reply (hc : c ∈ b.calls) (unique : ∀ d ∈ b.calls, d.number = c.number → d = c)
    (h : c.stage = .resolved ∨ branch = .reply) : Look b c branch (b.poll c.number branch) := by
  have look : b.look c branch = ((b.collect c).1, (b.collect c).2, c.stage) := by
    unfold look
    rcases h with h | rfl
    · rw [h]
    · cases c.stage <;> rfl
  cases hx : b.registry.content c.ticket with
  | reply m =>
    have took : b.collect c = ((b.registry.take c.ticket).1, some (.ok m)) := by
      simp only [collect, Registry.take_of_reply hx]
    rw [took] at look
    rw [poll_of_look_some hc unique look]
    exact .answered hx
  | closed =>
    have left : b.registry.take c.ticket = (b.registry, .closed) := by
      rw [Registry.take_of_not_reply (by simp [hx]), hx]
    have took : b.collect c = (b.registry, some (.error (b.dropped c))) := by
      simp only [collect, left]
    rw [took] at look
    rw [poll_of_look_some hc unique look]
    exact .dropped hx
  | waiting =>
    have left : b.registry.take c.ticket = (b.registry, .waiting) := by
      rw [Registry.take_of_not_reply (by simp [hx]), hx]
    have took : b.collect c = (b.registry, none) := by
      simp only [collect, left]
    rw [took] at look
    rw [poll_of_look_same hc unique look]
    refine .idle (fun _ => hx) ?_ ?_
    · rintro rfl hw
      simp [hw] at h
    · rintro rfl hw
      simp [hw] at h

/-- A call whose deadline has come expires its entry, unless somebody else has removed it. -/
theorem look_at_deadline (hc : c ∈ b.calls) (unique : ∀ d ∈ b.calls, d.number = c.number → d = c)
    (hs : c.stage = .waiting) : Look b c .deadline (b.poll c.number .deadline) := by
  have answer : (b.registry.expire c.correlation).2 = b.registry.isPending c.correlation :=
    remove_answer ..
  rcases hx : b.registry.expire c.correlation with ⟨r, found⟩
  rw [hx] at answer
  by_cases due : c.deadline ≤ b.now
  · cases found with
    | true =>
      rw [poll_of_look_some hc unique (by simp only [look, hs, due, if_true, hx]; rfl)]
      have timedOut := Look.timedOut hs due answer.symm
      rwa [hx] at timedOut
    | false =>
      rw [poll_of_look_none (s := .resolved) hc unique (by simp only [look, hs, due, if_true, hx])]
      exact .overtaken hs (.inl ⟨rfl, due⟩) answer.symm
  · rw [poll_of_look_same hc unique (by simp only [look, hs, due, if_false])]
    exact .idle (by simp [hs]) (fun _ _ => due) (by simp)

/-- A call whose context is cancelled removes its entry, unless somebody else has removed it. -/
theorem look_at_context (hc : c ∈ b.calls) (unique : ∀ d ∈ b.calls, d.number = c.number → d = c)
    (hs : c.stage = .waiting) : Look b c .cancellation (b.poll c.number .cancellation) := by
  have answer : (b.registry.cancel c.correlation).2 = b.registry.isPending c.correlation :=
    remove_answer ..
  rcases hx : b.registry.cancel c.correlation with ⟨r, found⟩
  rw [hx] at answer
  cases given : c.context.isCancelled b.signals with
  | true =>
    cases found with
    | true =>
      rw [poll_of_look_some hc unique (by simp only [look, hs, given, if_true, hx]; rfl)]
      have cancelled := Look.cancelled hs given answer.symm
      rwa [hx] at cancelled
    | false =>
      rw [poll_of_look_none (s := .resolved) hc unique
        (by simp only [look, hs, given, if_true, hx])]
      exact .overtaken hs (.inr ⟨rfl, given⟩) answer.symm
  | false =>
    rw [poll_of_look_same hc unique
      (by simp only [look, hs, given, Bool.false_eq_true, if_false])]
    exact .idle (by simp [hs]) (by simp) (fun _ _ => given)

/-- A call in flight that looks finds one of six things. -/
theorem poll_look (hc : c ∈ b.calls) (unique : ∀ d ∈ b.calls, d.number = c.number → d = c)
    (branch : Branch) : Look b c branch (b.poll c.number branch) := by
  cases hs : c.stage with
  | resolved => exact look_at_reply hc unique (.inl hs)
  | waiting =>
    cases branch with
    | reply => exact look_at_reply hc unique (.inr rfl)
    | deadline => exact look_at_deadline hc unique hs
    | cancellation => exact look_at_context hc unique hs

theorem act_poll_some {b' : Bridge} {o : Outcome} (h : b.poll number branch = (b', some o)) :
    b.act (.poll number branch) = (b', .ended number o) := by
  simp only [act, h]

theorem act_poll_none {b' : Bridge} (h : b.poll number branch = (b', none)) :
    b.act (.poll number branch) = (b', .silent) := by
  simp only [act, h]

theorem act_poll (b : Bridge) (number : Nat) (branch : Branch) :
    (b.act (.poll number branch)).1 = (b.poll number branch).1 := by
  rcases hx : b.poll number branch with ⟨next, _ | o⟩
  · rw [act_poll_none hx]
  · rw [act_poll_some hx]

theorem report_poll (b : Bridge) (number : Nat) (branch : Branch) :
    (b.act (.poll number branch)).2 =
      match (b.poll number branch).2 with
      | some o => .ended number o
      | none => .silent := by
  rcases hx : b.poll number branch with ⟨next, _ | o⟩
  · rw [act_poll_none hx]
  · rw [act_poll_some hx]

/-- A number is that of a call in flight, or of none. -/
theorem inFlight_or (b : Bridge) (number : Nat) :
    (∃ c ∈ b.calls, c.number = number) ∨ ∀ c ∈ b.calls, c.number ≠ number := by
  by_cases inFlight : ∃ c ∈ b.calls, c.number = number
  · exact .inl inFlight
  · exact .inr fun c hc hn => inFlight ⟨c, hc, hn⟩

theorem poll_of_not_mem {n : Nat} (h : ∀ c ∈ b.calls, c.number ≠ n) (branch : Branch) :
    b.poll n branch = (b, none) := by
  have missing : b.calls.find? (fun c => c.number = n) = none := by simpa using h
  simp only [poll, missing]

/-- A call that is given up removes an entry, unless somebody else has removed its own. -/
theorem abandon_of_mem (hc : c ∈ b.calls) (unique : ∀ d ∈ b.calls, d.number = c.number → d = c) :
    b.abandon c.number = match c.stage with
      | .waiting => b.depart c (b.registry.cancel c.correlation).1
      | .resolved => b.depart c b.registry := by
  simp only [abandon, find?_call hc unique]
  cases c.stage <;> rfl

theorem abandon_of_not_mem {n : Nat} (h : ∀ c ∈ b.calls, c.number ≠ n) : b.abandon n = b := by
  have missing : b.calls.find? (fun c => c.number = n) = none := by simpa using h
  simp only [abandon, missing]

end

/-! ## A call that starts -/

theorem act_start (b : Bridge) (d : Dial) (fresh : String) :
    b.act (.start d fresh) = ((b.start d fresh).1, .started (b.start d fresh).2) := rfl

/-- The registration of a call that is started. -/
def enroll (b : Bridge) (d : Dial) (fresh : String) : Registry :=
  (b.registry.register (d.correlation fresh) d.channel d.message.route
    (d.context.effectiveDeadline b.now d.timeout)).1

/-- The registry after a registration that is withdrawn, for its message was not published. -/
def withdraw (b : Bridge) (d : Dial) (fresh : String) : Registry :=
  ((b.enroll d fresh).cancel (d.correlation fresh)).1.drop b.registry.slots.length

/-- The message that is sent has the correlation id of the call. -/
theorem correlation_filled (d : Dial) (fresh : String) :
    (if d.message.correlation = "" then { d.message with correlation := fresh }
      else d.message).correlation = d.correlation fresh := by
  unfold Dial.correlation
  split <;> rfl

theorem route_filled (d : Dial) (fresh : String) :
    (if d.message.correlation = "" then { d.message with correlation := fresh }
      else d.message).route = d.message.route := by
  split <;> rfl

/-- The call that is started. -/
def opened (b : Bridge) (d : Dial) (fresh : String) : Call :=
  ⟨b.nextCall, d.correlation fresh, d.channel, b.registry.slots.length, b.now,
    d.context.effectiveDeadline b.now d.timeout, d.context, .waiting⟩

/-- A call that is cancelled before it starts, or whose correlation id is taken, is refused and
nothing changes. -/
theorem start_refused {b : Bridge} {d : Dial} {fresh : String}
    (refused : d.context.isCancelled b.signals = true ∨
      b.registry.isPending (d.correlation fresh) = true) :
    ∃ e, e.isRefusal = true ∧ b.start d fresh = (b, .error e) := by
  unfold start
  simp only [correlation_filled, route_filled]
  cases given : d.context.isCancelled b.signals with
  | true => exact ⟨_, rfl, rfl⟩
  | false =>
    rw [Registry.register_of_isPending (refused.resolve_left (by simp [given]))]
    exact ⟨_, rfl, rfl⟩

/-- Otherwise its message cannot be published and its registration is withdrawn, or it starts. -/
theorem start_admitted {b : Bridge} {d : Dial} {fresh : String}
    (given : d.context.isCancelled b.signals = false)
    (hp : b.registry.isPending (d.correlation fresh) = false) :
    (∃ e, e.isRefusal = false ∧ b.start d fresh =
      ({ b with registry := b.withdraw d fresh }, .error e)) ∨
    ∃ peers published, ({ b.hub with peers, published } : Hub).badges = b.hub.badges ∧
      b.start d fresh = ({ b with
        hub := { b.hub with peers, published }
        registry := b.enroll d fresh
        calls := b.calls ++ [b.opened d fresh]
        nextCall := b.nextCall + 1 }, .ok b.nextCall) := by
  have enrolled : b.registry.register (d.correlation fresh) d.channel d.message.route
      (d.context.effectiveDeadline b.now d.timeout) =
      (b.enroll d fresh, some b.registry.slots.length) := by
    rw [enroll, Registry.register_of_not_isPending hp]
  unfold start
  simp only [correlation_filled, route_filled, given, enrolled, Bool.false_eq_true, if_false]
  -- From here on, nothing depends on what else is in the message.
  generalize (if d.message.correlation = "" then { d.message with correlation := fresh }
      else d.message) = m
  rcases hb : b.hub.publish d.channel m with ⟨hub, e | reached⟩
  · exact .inl ⟨_, by cases e <;> rfl, rfl⟩
  · obtain ⟨peers, published, eq, badges⟩ := b.hub.publish_eq d.channel m
    rw [hb] at eq
    subst eq
    exact .inr ⟨peers, published, badges, rfl⟩

/-- A call is refused and nothing changes, or its message cannot be published and its registration
is withdrawn, or it is started. -/
theorem start_cases (b : Bridge) (d : Dial) (fresh : String) :
    (∃ e, b.start d fresh = (b, .error e)) ∨
    (b.registry.isPending (d.correlation fresh) = false ∧ ∃ e, b.start d fresh =
      ({ b with registry := b.withdraw d fresh }, .error e)) ∨
    (b.registry.isPending (d.correlation fresh) = false ∧
      d.context.isCancelled b.signals = false ∧ ∃ peers published,
        ({ b.hub with peers, published } : Hub).badges = b.hub.badges ∧
        b.start d fresh = ({ b with
          hub := { b.hub with peers, published }
          registry := b.enroll d fresh
          calls := b.calls ++ [b.opened d fresh]
          nextCall := b.nextCall + 1 }, .ok b.nextCall)) := by
  by_cases refused : d.context.isCancelled b.signals = true ∨
      b.registry.isPending (d.correlation fresh) = true
  · obtain ⟨e, _, eq⟩ := start_refused refused
    exact .inl ⟨e, eq⟩
  · obtain ⟨given, hp⟩ : d.context.isCancelled b.signals = false ∧
        b.registry.isPending (d.correlation fresh) = false := by simpa using refused
    rcases start_admitted given hp with ⟨e, _, eq⟩ | started
    · exact .inr (.inl ⟨hp, e, eq⟩)
    · exact .inr (.inr ⟨hp, given, started⟩)

end Bridge

end PaymentRelay
