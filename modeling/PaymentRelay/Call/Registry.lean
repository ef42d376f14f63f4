import PaymentRelay.Bus.Message
import PaymentRelay.Time.Span

/-
  The registry of calls that wait for a reply.

  A call is registered under its correlation id and gets a ticket. Under the ticket it finds the
  reply, once. An entry is ended by whoever removes it: a reply from its channel, the caller, or
  the sweep. The counters tell how the entries ended.

  The sweep adds its grace to the deadlines. Where the clock cannot tell the sum for an entry whose
  holder is there, the sweep panics (`Registry.sweep?`). What it has taken by then depends on the
  order in which it came upon the entries; it is as if they had been expired or cancelled one by
  one. `Registry.sweep` is the sweep on a clock that tells every moment.
-/

namespace PaymentRelay

/-- A call that waits for a reply. -/
structure Entry where
  correlation : String
  ticket : Nat
  channel : String
  route : String
  deadline : Instant
  deriving DecidableEq, Repr

/-- What the holder of a ticket finds. -/
inductive Content where
  /-- Nothing yet. -/
  | waiting
  | reply (m : Message)
  /-- Nothing any more. -/
  | closed

/-- The place of a ticket: what is in it, and whether the holder is still there. -/
structure Slot where
  held : Bool
  content : Content

/-- How many calls were registered and how they ended. -/
structure Counters where
  registered : Nat
  completed : Nat
  timeouts : Nat
  cancelled : Nat
  /-- Replies that ended no call. -/
  orphaned : Nat
  deriving DecidableEq, Repr

/-- What became of a reply. -/
inductive Resolution where
  | delivered
  /-- The call was registered, but its holder had gone. -/
  | callerGone
  /-- No call has this correlation id. -/
  | unknown
  /-- A call has this correlation id, but went out on another channel. -/
  | wrongChannel
  deriving DecidableEq, Repr, Inhabited

/-- The registry. The place of ticket `n` is the `n`-th slot. -/
structure Registry where
  entries : List Entry
  slots : List Slot
  counters : Counters

namespace Registry

def empty : Registry := ⟨[], [], ⟨0, 0, 0, 0, 0⟩⟩

/-- The entry of a correlation id. -/
def entry? (r : Registry) (correlation : String) : Option Entry :=
  r.entries.find? fun e => e.correlation = correlation

/-- A call with this correlation id waits. -/
def isPending (r : Registry) (correlation : String) : Bool := (r.entry? correlation).isSome

def pendingCount (r : Registry) : Nat := r.entries.length

/-- The slot of a ticket. -/
def slot? (r : Registry) (ticket : Nat) : Option Slot := r.slots[ticket]?

/-- The holder of the ticket has gone. -/
def isAbandoned (r : Registry) (ticket : Nat) : Bool :=
  match r.slot? ticket with
  | some s => !s.held
  | none => true

/-- The entries without the one of a correlation id. -/
def without (r : Registry) (correlation : String) : List Entry :=
  r.entries.filter fun e => e.correlation ≠ correlation

/-- Puts something into the slot of a ticket, if nothing is in it. -/
def fill (slots : List Slot) (ticket : Nat) (c : Content) : List Slot :=
  slots.modify ticket fun s =>
    match s.content with
    | .waiting => { s with content := c }
    | _ => s

/-- Registers a call: its ticket, or nothing if the correlation id is taken. -/
def register (r : Registry) (correlation channel route : String) (deadline : Instant) :
    Registry × Option Nat :=
  if r.isPending correlation then (r, none)
  else
    let ticket := r.slots.length
    ({ entries := r.entries ++ [⟨correlation, ticket, channel, route, deadline⟩]
       slots := r.slots ++ [⟨true, .waiting⟩]
       counters := { r.counters with registered := r.counters.registered + 1 } }, some ticket)

/-- A reply. Only one that arrives on the channel of the call ends it. -/
def resolve (r : Registry) (m : Message) : Registry × Resolution :=
  let orphan := { r with counters := { r.counters with orphaned := r.counters.orphaned + 1 } }
  match r.entry? m.correlation with
  | none => (orphan, .unknown)
  | some e =>
    if e.channel ≠ m.channel then (orphan, .wrongChannel)
    else if r.isAbandoned e.ticket then
      ({ r with
          entries := r.without m.correlation
          counters := { r.counters with cancelled := r.counters.cancelled + 1 } }, .callerGone)
    else
      ({ entries := r.without m.correlation
         slots := fill r.slots e.ticket (.reply m)
         counters := { r.counters with completed := r.counters.completed + 1 } }, .delivered)

/-- Removes an entry: whether there was one. Its ticket finds nothing any more. -/
def remove (r : Registry) (correlation : String) (count : Counters → Counters) :
    Registry × Bool :=
  match r.entry? correlation with
  | none => (r, false)
  | some e =>
    ({ entries := r.without correlation
       slots := fill r.slots e.ticket .closed
       counters := count r.counters }, true)

/-- Removes a call that has waited too long. -/
def expire (r : Registry) (correlation : String) : Registry × Bool :=
  r.remove correlation fun c => { c with timeouts := c.timeouts + 1 }

/-- Removes a call that was given up. -/
def cancel (r : Registry) (correlation : String) : Registry × Bool :=
  r.remove correlation fun c => { c with cancelled := c.cancelled + 1 }

/-- The deadline of an entry passed `grace` ago or earlier. -/
def isOverdue (e : Entry) (now : Instant) (grace : Span) : Bool :=
  e.deadline.after grace ≤ now

/-- The sweep takes an entry whose holder has gone or that is overdue. -/
def isStale (r : Registry) (now : Instant) (grace : Span) (e : Entry) : Bool :=
  r.isAbandoned e.ticket || isOverdue e now grace

/-- Removes the stale entries: how many there were. -/
def sweep (r : Registry) (now : Instant) (grace : Span) : Registry × Nat :=
  let stale := r.entries.filter (r.isStale now grace)
  let abandoned := (stale.filter fun e => r.isAbandoned e.ticket).length
  let overdue := (stale.filter fun e => !r.isAbandoned e.ticket).length
  ({ entries := r.entries.filter fun e => !r.isStale now grace e
     slots := stale.foldl (fun slots e => fill slots e.ticket .closed) r.slots
     counters := { r.counters with
       cancelled := r.counters.cancelled + abandoned
       timeouts := r.counters.timeouts + overdue } }, stale.length)

/-- The clock can tell whether an entry is stale: its grace only matters if its holder is there. -/
def tells (r : Registry) (grace : Span) (e : Entry) : Bool :=
  r.isAbandoned e.ticket || (e.deadline.after? grace).isSome

/-- Removes the stale entries, if the clock can tell which they are. -/
def sweep? (r : Registry) (now : Instant) (grace : Span) : Option (Registry × Nat) :=
  if r.entries.all (r.tells grace) then some (r.sweep now grace) else none

/-- The holder of a ticket goes. -/
def drop (r : Registry) (ticket : Nat) : Registry :=
  { r with slots := r.slots.modify ticket fun s => { s with held := false } }

/-- What the holder of a ticket finds. -/
def content (r : Registry) (ticket : Nat) : Content :=
  match r.slot? ticket with
  | some s => s.content
  | none => .closed

/-- Takes what is in the slot of a ticket; a reply can be taken once. -/
def take (r : Registry) (ticket : Nat) : Registry × Content :=
  match r.content ticket with
  | .reply m =>
    ({ r with slots := r.slots.modify ticket fun s => { s with content := .closed } }, .reply m)
  | c => (r, c)

end Registry

/-- How long past its deadline an entry is left alone by the sweep. -/
def sweepGrace : Span := .ofSeconds 5

/-- A sweeper: it sweeps at every multiple of an interval from its start. Without an interval it
never does. -/
structure Sweeper where
  next : Instant
  interval : Span
  deriving DecidableEq, Repr

namespace Sweeper

/-- A sweeper that begins now. -/
def new (now : Instant) (interval : Span) : Sweeper := ⟨now, interval⟩

/-- The sweeper is due. -/
def isDue (s : Sweeper) (now : Instant) : Bool := 0 < s.interval.nanos && s.next ≤ now

/-- The sweeper after a sweep: the next one is the first that still lies ahead. -/
def advance (s : Sweeper) (now : Instant) : Sweeper :=
  let periods := (now.nanos - s.next.nanos) / s.interval.nanos + 1
  { s with next := ⟨s.next.nanos + periods * s.interval.nanos⟩ }

end Sweeper

end PaymentRelay
