import PaymentRelay.Bus.Hub
import PaymentRelay.Time.Span
import PaymentRelay.Wallet.Frame

/-
  Sessions: the connections of wallets.

  A session is a peer of the hub on the channel that the wallet has asked for. What is published to
  the channel is written to the wallet, and the frames of the wallet are replies. A session ends
  when the wallet hangs up, when the connection is lost, or when nothing has moved in either
  direction for too long; then the peer leaves.
-/

namespace PaymentRelay

/-- What a wallet finds on its side of the connection. -/
inductive Outgoing where
  | message (m : Message)
  /-- The answer to a ping, with its content. -/
  | pong (content : List UInt8)
  /-- The relay has hung up. -/
  | close

/-- The connection of a wallet. -/
structure Session where
  number : Nat
  /-- The peer of the hub. -/
  peer : Nat
  channel : String
  isOpen : Bool
  /-- When something was last read or written. -/
  lastTraffic : Instant
  /-- What was written and the wallet has not read. -/
  unread : List Outgoing

namespace Session

/-- A session that begins now. -/
def new (number peer : Nat) (channel : String) (now : Instant) : Session :=
  ⟨number, peer, channel, true, now, []⟩

/-- The session with traffic now. -/
def touch (s : Session) (now : Instant) : Session := { s with lastTraffic := now }

/-- Writes something to the wallet. -/
def put (s : Session) (o : Outgoing) (now : Instant) : Session :=
  { s with unread := s.unread ++ [o], lastTraffic := now }

/-- Nothing has moved for too long. The timer takes a limit whose end the clock cannot tell for one
that is never reached. -/
def isIdle (s : Session) (limit : Span) (now : Instant) : Bool :=
  s.isOpen && decide (s.lastTraffic.after limit ≤ now)

/-- The session at its end, with what is written last. -/
def finish (s : Session) (last : List Outgoing) : Session :=
  { s with isOpen := false, unread := s.unread ++ last }

end Session

end PaymentRelay
