import PaymentRelay.Time.Span

/-
  Contexts of calls: a deadline and a signal to give up.

  A context is derived from another one. Deadlines only shrink. A signal is shared by all contexts
  that were derived since it was made; making a new one leaves the earlier one behind. Signals are
  numbered, and their state is kept apart, so that a context is plain data.

  Where the clock cannot tell the end of a span there is no context with that limit, and no deadline
  for a call with that span: who asks for one panics (`Context.withTimeout?`,
  `Context.effectiveDeadline?`).

  Whoever waits until a context is cancelled looks at its signal, and once more whenever the signal
  is given or its handle is dropped. A handle that is dropped before its signal was given is no
  cancellation: whoever waits for it waits forever, and so does whoever waits for a context without
  a signal.
-/

namespace PaymentRelay

/-- The signals that have been made and those that have been given. -/
structure Signals where
  made : Nat
  given : List Nat
  deriving DecidableEq, Repr

namespace Signals

def none : Signals := ⟨0, []⟩

/-- One more signal, and its number. -/
def make (s : Signals) : Signals × Nat := ({ s with made := s.made + 1 }, s.made)

/-- The signal is given. It stays so, and giving it again changes nothing. -/
def give (s : Signals) (n : Nat) : Signals :=
  if s.given.contains n then s else { s with given := n :: s.given }

/-- The signal has been given. -/
def isGiven (s : Signals) (n : Nat) : Bool := s.given.contains n

end Signals

/-- When a call has to give up: at a moment, or at a signal. -/
structure Context where
  deadline : Option Instant
  signal : Option Nat
  deriving DecidableEq, Repr

namespace Context

/-- Never. -/
def background : Context := ⟨none, none⟩

/-- The earlier of the deadline of the context and another moment. -/
def limited (c : Context) (t : Instant) : Instant :=
  match c.deadline with
  | some d => d.earlier t
  | none => t

/-- At this moment at the latest. -/
def withDeadline (c : Context) (t : Instant) : Context :=
  { c with deadline := some (c.limited t) }

/-- At the end of a span that begins now at the latest. There is no such context if the clock cannot
tell that moment. -/
def withTimeout? (c : Context) (now : Instant) (span : Span) : Option Context :=
  (now.after? span).map c.withDeadline

/-- At a signal, which takes the place of an earlier one. -/
def withSignal (c : Context) (n : Nat) : Context := { c with signal := some n }

/-- The signal of the context has been given. -/
def isCancelled (c : Context) (s : Signals) : Bool := c.signal.any s.isGiven

/-- The earlier of the deadline of the context and the end of a span that begins now. There is none
if the clock cannot tell where the span ends, however early the deadline of the context is. -/
def effectiveDeadline? (c : Context) (now : Instant) (span : Span) : Option Instant :=
  (now.after? span).map c.limited

/-- The same on a clock that tells every moment. -/
def effectiveDeadline (c : Context) (now : Instant) (span : Span) : Instant :=
  c.limited (now.after span)

end Context

/-- What a waiter is about. -/
inductive Vigil where
  /-- It looks at its signal whenever something happens to it. -/
  | watching
  | woken
  /-- It waits forever, and does not look any more. -/
  | lost
  deriving DecidableEq, Repr

/-- Somebody who waits until a context is cancelled. -/
structure Waiter where
  context : Context
  vigil : Vigil
  deriving DecidableEq, Repr

namespace Waiter

/-- A waiter that has not looked yet. -/
def on (c : Context) : Waiter := ⟨c, .watching⟩

/-- The waiter looks. A signal that has been given counts, even if its handle is dropped since. -/
def look (w : Waiter) (signals : Signals) (dropped : List Nat) : Waiter :=
  match w.vigil, w.context.signal with
  | .watching, none => { w with vigil := .lost }
  | .watching, some n =>
    if signals.isGiven n then { w with vigil := .woken }
    else if dropped.contains n then { w with vigil := .lost }
    else w
  | _, _ => w

end Waiter

end PaymentRelay
