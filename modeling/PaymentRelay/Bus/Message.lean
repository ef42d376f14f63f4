import PaymentRelay.Json.Record
import PaymentRelay.Json.Printer
import PaymentRelay.Time.Timestamp

/-
  Messages.

  Everything that crosses the bus, in either direction, is a message: it names what it is about
  (the route), the channel it belongs to, and the conversation it is part of (the correlation id),
  which a reply repeats.
-/

namespace PaymentRelay

namespace Decoder

/-- A timestamp written as a text. -/
def timestamp : Decoder Timestamp := fun _ doc =>
  match doc with
  | .text (some s) =>
    match Timestamp.read? s with
    | some t => .ok t
    | none => .error (.here .malformedText)
  | d => .error (d.wrongType "an RFC 3339 formatted date and time string")

end Decoder

/-- One message on the bus. -/
structure Message where
  route : String
  channel : String
  app : String
  correlation : String
  headers : Dict String
  body : Json
  timestamp : Timestamp

namespace Message

/-- The fields of a message on the wire. A message without a timestamp is taken to be made now. -/
def record (now : Timestamp) : Record Message where
  name := "Message"
  types := [String, String, String, String, Dict String, Json, Timestamp]
  fields :=
    .cons (.required "key" .text .text) <|
    .cons (.required "channelId" .text .text) <|
    .cons (.withDefault "appId" .text .text "") <|
    .cons (.withDefault "correlationId" .text .text "") <|
    .cons (.withDefault "headers" (.dict .text) (fun d => .ofDict (d.map .text)) .empty) <|
    .cons (.withDefault "body" .json id .null) <|
    .cons (.withDefault "timestamp" .timestamp (fun t => .text t.text) now) .nil
  build := fun (route, channel, app, correlation, headers, body, timestamp, ()) =>
    ⟨route, channel, app, correlation, headers, body, timestamp⟩
  parts := fun m =>
    (m.route, m.channel, m.app, m.correlation, m.headers, m.body, m.timestamp, ())

/-- A message with nothing in it but its route and channel. -/
def new (route channel : String) (now : Timestamp) : Message :=
  ⟨route, channel, "", "", .empty, .null, now⟩

/-- The message as a value, with its fields in declared order. -/
def encode (m : Message) : Json := (record m.timestamp).encode m

/-- The number of bytes of a message on the wire. -/
def size (m : Message) : Nat := m.encode.size

/-- An empty message to the same channel, in the same conversation. -/
def reply (m : Message) (route : String) (now : Timestamp) : Message :=
  { new route m.channel now with app := m.app, correlation := m.correlation }

/-- The message with a channel in place of its own. -/
def stamped (m : Message) (channel : String) : Message := { m with channel }

/-- The body as a value of a type. -/
def bind {α : Type} (m : Message) (d : Decoder α) : Except Fault α := d.ofJson m.body

end Message

end PaymentRelay
