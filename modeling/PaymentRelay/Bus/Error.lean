import PaymentRelay.Json.Fault

/-
  What can go wrong on the bus.
-/

namespace PaymentRelay

/-- Why a message was not published, not replied or not understood. -/
inductive BusError where
  /-- No peer has joined the channel. -/
  | channelNotFound (channel : String)
  /-- Nobody listens for replies. -/
  | closed
  /-- A body has no JSON form. -/
  | notEncodable (reason : String)
  /-- A body has not the expected shape. -/
  | notDecodable (fault : Fault)
  /-- The message is larger than the limit. -/
  | tooLarge (size max : Nat)
  deriving DecidableEq, Repr, Inhabited

/-- What a fault says, as part of a longer message. -/
def Fault.detail : Fault → String
  | .unreadable => ""
  | .shape _ cause => cause.message?.getD ""

namespace BusError

/-- The message of an error. -/
def text : BusError → String
  | .channelNotFound channel => "channel '" ++ channel ++ "' not found"
  | .closed => "channel bus closed"
  | .notEncodable reason => "failed to encode message body: " ++ reason
  | .notDecodable fault => "failed to decode message body: " ++ fault.detail
  | .tooLarge size max =>
    "message too large: " ++ toString size ++ " bytes (max: " ++ toString max ++ ")"

def isChannelNotFound : BusError → Bool
  | .channelNotFound _ => true
  | _ => false

end BusError

end PaymentRelay
