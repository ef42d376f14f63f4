import PaymentRelay.Bus.Hub
import PaymentRelay.Call.Context
import PaymentRelay.Call.Error
import PaymentRelay.Call.Registry

/-
  The bridge: calls over the bus that wait for one reply.

  A call registers its correlation id before its message is published, and then waits for its
  reply, its deadline or the signal of its context. The steps of the bridge are atomic: starting a
  call, one reply read by the listener, one look of a call at what it waits for, giving a call up,
  a signal, the clock. A run that settles after each step (`settle`) reads all replies and then
  lets every call look.

  The bridge counts on a clock that tells every moment (`Instant.after`). A call with a span whose
  end the clock cannot tell panics before it registers or publishes anything, so it is no step of
  the bridge; and no deadline is taken to lie so late that the clock cannot tell the end of its
  grace, where a sweep would panic (`Bridge.sweep?`).
-/

namespace PaymentRelay

/-- What a call still looks at. -/
inductive Stage where
  /-- Its reply, its deadline and its context. -/
  | waiting
  /-- Its reply alone: somebody else has removed its entry. -/
  | resolved
  deriving DecidableEq, Repr

/-- A call in flight. -/
structure Call where
  number : Nat
  correlation : String
  channel : String
  ticket : Nat
  started : Instant
  deadline : Instant
  context : Context
  stage : Stage
  deriving DecidableEq, Repr

/-- How a call ends. -/
abbrev Outcome := Except CallError Message

/-- The hub, the registry and the calls in flight, with the clock. -/
structure Bridge where
  hub : Hub
  registry : Registry
  signals : Signals
  /-- The stream of replies that the listener reads, if there is a listener. -/
  listener : Option Nat
  calls : List Call
  nextCall : Nat
  now : Instant
  sweepers : List Sweeper

/-- What a call is told to do. -/
structure Dial where
  context : Context
  channel : String
  message : Message
  timeout : Span

namespace Bridge

/-- A bridge over a hub, with a listener or without. -/
def new (hub : Hub) (listening : Bool) : Bridge :=
  let (hub, listener) :=
    if listening then
      let (hub, id) := hub.subscribe
      (hub, some id)
    else (hub, none)
  ⟨hub, .empty, .none, listener, [], 0, .start, []⟩

/-- Publishes a message without waiting for a reply. -/
def send (b : Bridge) (channel : String) (m : Message) : Bridge × Except CallError Unit :=
  match b.hub.publish channel m with
  | (hub, .ok _) => ({ b with hub }, .ok ())
  | (_, .error e) => (b, .error (.ofBus e))

/-- Starts a call: its number, or why it cannot start. A message without a correlation id is given
a fresh one. -/
def start (b : Bridge) (d : Dial) (fresh : String) : Bridge × Except CallError Nat :=
  let m := if d.message.correlation = "" then { d.message with correlation := fresh } else d.message
  if d.context.isCancelled b.signals then (b, .error (.cancelled m.correlation))
  else
    let deadline := d.context.effectiveDeadline b.now d.timeout
    match b.registry.register m.correlation d.channel m.route deadline with
    | (_, none) => (b, .error (.duplicate m.correlation))
    | (registry, some ticket) =>
      match b.hub.publish d.channel m with
      | (_, .error e) =>
        let (registry, _) := registry.cancel m.correlation
        ({ b with registry := registry.drop ticket }, .error (.ofBus e))
      | (hub, .ok _) =>
        let call : Call :=
          ⟨b.nextCall, m.correlation, d.channel, ticket, b.now, deadline, d.context, .waiting⟩
        ({ b with hub, registry, calls := b.calls ++ [call], nextCall := b.nextCall + 1 },
          .ok b.nextCall)

/-- The listener reads one reply. -/
def listen (b : Bridge) : Bridge :=
  match b.listener.bind b.hub.stream? with
  | none => b
  | some s =>
    match b.hub.receiveReply s with
    | (hub, .message m) => { b with hub, registry := (b.registry.resolve m).1 }
    | _ => b

/-- The error of a call that finds nothing any more. Past its deadline that is the sweep, which the
caller takes for its own timeout. -/
def dropped (b : Bridge) (c : Call) : CallError :=
  if c.deadline ≤ b.now then .timeout c.correlation (c.deadline.since c.started) else .replyDropped

/-- What a call can do when it looks. -/
inductive Branch where
  | reply
  | deadline
  | cancellation
  deriving DecidableEq, Repr

/-- A call that has lost its entry finds its reply, or nothing any more, or waits on. -/
def collect (b : Bridge) (c : Call) : Registry × Option Outcome :=
  match b.registry.take c.ticket with
  | (registry, .reply m) => (registry, some (.ok m))
  | (registry, .closed) => (registry, some (.error (b.dropped c)))
  | (registry, .waiting) => (registry, none)

/-- A call looks at one of the things it waits for: what becomes of the registry, how the call
ends, and what it looks at from now on. A branch that is not ready changes nothing. -/
def look (b : Bridge) (c : Call) (branch : Branch) : Registry × Option Outcome × Stage :=
  match c.stage, branch with
  | .resolved, _ | .waiting, .reply =>
    let (registry, outcome) := b.collect c
    (registry, outcome, c.stage)
  | .waiting, .deadline =>
    if c.deadline ≤ b.now then
      match b.registry.expire c.correlation with
      | (registry, true) =>
        (registry, some (.error (.timeout c.correlation (c.deadline.since c.started))), .waiting)
      | (_, false) => (b.registry, none, .resolved)
    else (b.registry, none, .waiting)
  | .waiting, .cancellation =>
    if c.context.isCancelled b.signals then
      match b.registry.cancel c.correlation with
      | (registry, true) => (registry, some (.error (.cancelled c.correlation)), .waiting)
      | (_, false) => (b.registry, none, .resolved)
    else (b.registry, none, .waiting)

/-- One look of the call with a number; a call that ends is gone, and so is the holder of its
ticket. -/
def poll (b : Bridge) (number : Nat) (branch : Branch) : Bridge × Option Outcome :=
  match b.calls.find? fun c => c.number = number with
  | none => (b, none)
  | some c =>
    match b.look c branch with
    | (registry, some outcome, _) =>
      ({ b with
          registry := registry.drop c.ticket
          calls := b.calls.filter fun d => d.number ≠ number }, some outcome)
    | (registry, none, stage) =>
      ({ b with
          registry
          calls := b.calls.map fun d => if d.number = number then { d with stage } else d }, none)

/-- A call is given up by its caller, and its entry removed. -/
def abandon (b : Bridge) (number : Nat) : Bridge :=
  match b.calls.find? fun c => c.number = number with
  | none => b
  | some c =>
    let (registry, _) := match c.stage with
      | .waiting => b.registry.cancel c.correlation
      | .resolved => (b.registry, false)
    { b with
      registry := registry.drop c.ticket
      calls := b.calls.filter fun d => d.number ≠ number }

/-- A signal is given. -/
def signal (b : Bridge) (n : Nat) : Bridge := { b with signals := b.signals.give n }

/-- The registry is swept. -/
def sweep (b : Bridge) (grace : Span) : Bridge × Nat :=
  let (registry, removed) := b.registry.sweep b.now grace
  ({ b with registry }, removed)

/-- The registry is swept, if the clock can tell what is stale. -/
def sweep? (b : Bridge) (grace : Span) : Option (Bridge × Nat) :=
  (b.registry.sweep? b.now grace).map fun (registry, removed) => ({ b with registry }, removed)

/-! Runs that settle. -/

/-- The listener reads everything there is. -/
def listenAll (b : Bridge) : Bridge :=
  match b.listener.bind b.hub.stream? with
  | none => b
  | some s => s.unread.foldl (fun b _ => b.listen) b

/-- Every sweeper that is due sweeps. -/
def sweepDue (b : Bridge) : Bridge :=
  b.sweepers.foldl (fun b s => if s.isDue b.now then (b.sweep sweepGrace).1 else b)
    { b with sweepers := b.sweepers.map fun s => if s.isDue b.now then s.advance b.now else s }

/-- A call looks at its reply, then at its deadline, then at its context, until it ends. -/
def pollFully (b : Bridge) (number : Nat) : Bridge × Option Outcome :=
  match b.poll number .reply with
  | (b, some o) => (b, some o)
  | (b, none) =>
    match b.poll number .deadline with
    | (b, some o) => (b, some o)
    | (b, none) =>
      match b.poll number .cancellation with
      | (b, some o) => (b, some o)
      | (b, none) => b.poll number .reply

/-- Lets the calls of a list look, in order: those that ended, and how. -/
def pollEach (b : Bridge) : List Nat → Bridge × List (Nat × Outcome)
  | [] => (b, [])
  | n :: rest =>
    let (b, outcome) := b.pollFully n
    let (b, outcomes) := pollEach b rest
    match outcome with
    | some o => (b, (n, o) :: outcomes)
    | none => (b, outcomes)

/-- Everything that can happen happens: replies are read, due sweepers sweep, calls look. -/
def settle (b : Bridge) : Bridge × List (Nat × Outcome) :=
  let b := b.listenAll.sweepDue
  b.pollEach (b.calls.map (·.number))

/-- The clock moves on, and everything settles. Calls whose deadline has come end before a sweeper
sees them. -/
def advance (b : Bridge) (span : Span) : Bridge × List (Nat × Outcome) :=
  let b := { b with now := b.now.after span }
  let (b, outcomes) := b.pollEach (b.calls.map (·.number))
  let (b, more) := b.settle
  (b, outcomes ++ more)

end Bridge

end PaymentRelay
