import PaymentRelay.Json.Record
import PaymentRelay.Json.Printer

/-
  Envelopes: a payload as text, with a signature over it if there is one.

  Payment terms reach the payer as the payee sent them, so that a signature stays verifiable; they
  are any value, which may or may not be an envelope.
-/

namespace PaymentRelay

/-- A payload with an optional signature. -/
structure Envelope where
  payload : String
  signature : Option String
  publicKey : Option String
  encoding : String
  mimeType : String
  deriving DecidableEq

namespace Envelope

def defaultEncoding : String := "UTF-8"
def defaultMimeType : String := "application/json"

/-- The fields of an envelope on the wire. -/
def record : Record Envelope where
  name := "JsonEnvelope"
  types := [String, Option String, Option String, String, String]
  fields :=
    .cons (.required "payload" .text .text) <|
    .cons (.optional "signature" .text .text) <|
    .cons (.optional "publicKey" .text .text) <|
    .cons (.withDefault "encoding" .text .text defaultEncoding) <|
    .cons (.withDefault "mimeType" .text .text defaultMimeType) .nil
  build := fun (payload, signature, publicKey, encoding, mimeType, ()) =>
    ⟨payload, signature, publicKey, encoding, mimeType⟩
  parts := fun e => (e.payload, e.signature, e.publicKey, e.encoding, e.mimeType, ())

/-- An unsigned envelope around a text. -/
def unsigned (payload : String) : Envelope :=
  ⟨payload, none, none, defaultEncoding, defaultMimeType⟩

/-- An envelope with a signature and the key it was made with. -/
def signed (payload signature publicKey : String) : Envelope :=
  { unsigned payload with signature := some signature, publicKey := some publicKey }

/-- There is a signature and a key. -/
def isSigned (e : Envelope) : Bool := e.signature.isSome && e.publicKey.isSome

/-- The envelope as a value that is passed on: its members in the order of their keys. -/
def terms (e : Envelope) : Json := (record.encode e).canonical

/-- The envelope that a value is, if it is one. -/
def ofTerms? (terms : Json) : Option Envelope := (record.decoder.ofJson terms).toOption

end Envelope

end PaymentRelay
