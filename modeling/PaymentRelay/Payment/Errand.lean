import PaymentRelay.Failure.Basic
import PaymentRelay.Payment.Slip
import PaymentRelay.Payment.Envelope
import PaymentRelay.Payment.Terms
import PaymentRelay.Time.Timestamp

/-
  Errands: what a payer has the relay do with a wallet.

  An errand is checked before a wallet hears of it, and a failure of the wallet is described by the
  errand it failed.
-/

namespace PaymentRelay

/-- What a payer wants. -/
inductive Errand where
  /-- To know the terms of a payment. -/
  | terms (args : TermsArgs)
  /-- To submit a payment. -/
  | payment (args : PaymentArgs) (payment : Slip)
  /-- To hand in the proof of a transaction. -/
  | proof (args : ProofArgs) (proof : Envelope)

/-- What a payer gets. -/
inductive Receipt where
  /-- The terms as the payee has written them. -/
  | terms (terms : Json)
  | acknowledgement (ack : Slip)
  /-- The proof was taken. -/
  | taken

/-- What is made afresh for an errand: a correlation id, the id of an error, and the time. -/
structure Stamp where
  correlation : String
  errorId : String
  now : Timestamp

namespace Errand

/-- What an errand names must not be empty. -/
def checks : Errand → List Check
  | .terms a => [.notEmpty "paymentID" a.paymentId]
  | .payment a _ => [.notEmpty "paymentID" a.paymentId]
  | .proof a _ => [.notEmpty "txid" a.txId, .notEmpty "paymentReference" a.reference]

/-- An errand that may go to a wallet, or else the violations. -/
def check (e : Errand) : Except Failure Unit :=
  (Violations.validate e.checks).mapError .validation

/-- What a failure of the wallet is described as. -/
def description : Errand → String
  | .terms a => "failed to get payment terms for paymentID " ++ a.paymentId
  | .payment a _ => "failed to create payment for paymentID " ++ a.paymentId
  | .proof a _ => "failed to create proof for txid " ++ a.txId

/-- What the payer learns of the result of the wallet. -/
def conclude (e : Errand) (result : Except Failure Receipt) : Except Failure Receipt :=
  Failure.describe e.description result

end Errand

end PaymentRelay
