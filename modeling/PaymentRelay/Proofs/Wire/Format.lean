import PaymentRelay.Bus.Message
import PaymentRelay.Failure.Client
import PaymentRelay.Payment.Envelope
import PaymentRelay.Payment.Slip
import PaymentRelay.Payment.Terms
import PaymentRelay.Settings.Basic

/-
  The formats of the wire.

  Everything that is read from a text or written as one has one of these formats. What holds of all
  of them is stated about a `Format`, so that a new one has to be proved for each statement.
-/

namespace PaymentRelay

/-- A type with a form on the wire. -/
inductive Format where
  | message
  | payment
  | acknowledgement
  | envelope
  /-- Payment terms as the payee has written them. -/
  | terms
  | termsArgs
  | paymentArgs
  | proofArgs
  | merchant
  | output
  | destination
  | feeQuote
  | paymentTerms
  | errorRecord
  | settings
  deriving DecidableEq, Repr

namespace Format

/-- What is written in a format. -/
def Content : Format → Type
  | message => Message
  | payment => Slip
  | acknowledgement => Slip
  | envelope => Envelope
  | terms => Json
  | termsArgs => TermsArgs
  | paymentArgs => PaymentArgs
  | proofArgs => ProofArgs
  | merchant => Merchant
  | output => Output
  | destination => Destination
  | feeQuote => FeeQuote
  | paymentTerms => Terms
  | errorRecord => ErrorRecord
  | settings => Settings

/-- How it is read; a message without a timestamp is taken to be made `now`. -/
def decoder (now : Timestamp) : (f : Format) → Decoder f.Content
  | message => (Message.record now).decoder
  | payment => Slip.payment
  | acknowledgement => Slip.acknowledgement
  | envelope => Envelope.record.decoder
  | terms => .json
  | termsArgs => TermsArgs.record.decoder
  | paymentArgs => PaymentArgs.record.decoder
  | proofArgs => ProofArgs.record.decoder
  | merchant => Merchant.record.decoder
  | output => Output.record.decoder
  | destination => Destination.record.decoder
  | feeQuote => FeeQuote.record.decoder
  | paymentTerms => Terms.record.decoder
  | errorRecord => ErrorRecord.record.decoder
  | settings => Settings.record.decoder

/-- How it is written. -/
def encode : (f : Format) → f.Content → Json
  | message => Message.encode
  | payment => Slip.encode
  | acknowledgement => Slip.encode
  | envelope => Envelope.record.encode
  | terms => id
  | termsArgs => TermsArgs.record.encode
  | paymentArgs => PaymentArgs.record.encode
  | proofArgs => ProofArgs.record.encode
  | merchant => Merchant.record.encode
  | output => Output.record.encode
  | destination => Destination.record.encode
  | feeQuote => FeeQuote.record.encode
  | paymentTerms => Terms.record.encode
  | errorRecord => ErrorRecord.record.encode
  | settings => Settings.record.encode

end Format

end PaymentRelay
