import PaymentRelay.Bus.Message

/-
  Frames: what a connected wallet writes, and what is written to it.

  A frame holds the text of one message. A frame of a wallet that is too large or that holds
  anything else is dropped. Its message belongs to the channel of the connection, whatever it
  claims.
-/

namespace PaymentRelay

namespace Frame

/-- The message that a frame holds. -/
def decode (now : Timestamp) (frame : List UInt8) : Except Fault Message :=
  (Message.record now).decoder.ofSymbols (Utf8.symbols frame)

/-- The reply that a frame of a connection to a channel is, unless it is dropped. -/
def read? (limit : Nat) (channel : String) (now : Timestamp) (frame : List UInt8) :
    Option Message :=
  if limit < frame.length then none
  else (decode now frame).toOption.map fun m => m.stamped channel

/-- The frame in which a message is written to a wallet. -/
def write (m : Message) : List UInt8 := Utf8.bytes m.encode.print

end Frame

end PaymentRelay
