import PaymentRelay.Bus.Error
import PaymentRelay.Time.Span

/-
  What can go wrong with a call: a message published in the expectation of one reply.
-/

namespace PaymentRelay

/-- Why a call has no reply. -/
inductive CallError where
  /-- No peer has joined the channel. -/
  | channelNotFound (channel : String)
  /-- No reply came before the deadline, `waited` after the start. -/
  | timeout (correlation : String) (waited : Span)
  | cancelled (correlation : String)
  /-- Another call with this correlation id is in flight. -/
  | duplicate (correlation : String)
  /-- The call was ended without a reply. -/
  | replyDropped
  | transport (error : BusError)
  deriving DecidableEq, Repr, Inhabited

namespace CallError

/-- The message of an error. -/
def text : CallError → String
  | .channelNotFound channel => "channel '" ++ channel ++ "' not found"
  | .timeout correlation waited =>
    "no reply for correlation id " ++ correlation ++ " after " ++ waited.text
  | .cancelled correlation => "call " ++ correlation ++ " cancelled by caller"
  | .duplicate correlation => "correlation id " ++ correlation ++ " already pending"
  | .replyDropped => "reply channel closed"
  | .transport error => "transport error: " ++ error.text

def isChannelNotFound : CallError → Bool
  | .channelNotFound _ => true
  | _ => false

def isTimeout : CallError → Bool
  | .timeout _ _ => true
  | _ => false

/-- The error of a call whose message the bus refused. -/
def ofBus : BusError → CallError
  | .channelNotFound channel => .channelNotFound channel
  | e => .transport e

end CallError

end PaymentRelay
