import PaymentRelay.Call.Error
import PaymentRelay.Bus.Message
import PaymentRelay.Payment.Errand

/-
  Wallets that are connected over sockets.

  Such a wallet has joined the channel of an invoice. To ask for terms and to submit a payment is a
  question: a message that is answered by one reply, whose route says whether it is the answer or
  an error. A proof is a notice that nobody replies to, and whether anybody hears it does not
  matter.
-/

namespace PaymentRelay

/-- What is asked of a wallet. -/
inductive Question where
  | terms
  | payment
  deriving DecidableEq, Repr

/-- How an errand goes to the wallets of a channel. -/
inductive Dispatch where
  /-- One reply is waited for. -/
  | call (question : Question) (m : Message)
  /-- No reply is waited for. -/
  | notice (m : Message)

namespace Question

/-- The route of the question. -/
def route : Question → String
  | terms => "paymentterms.create"
  | payment => "payment"

/-- The route of its answer. -/
def answerRoute : Question → String
  | terms => "paymentterms.response"
  | payment => "payment.ack"

/-- The route of an error in place of the answer. -/
def errorRoute : Question → String
  | terms => "paymentterms.error"
  | payment => "payment.error"

/-- The answer that a body holds. -/
def answer : Question → Decoder Receipt
  | terms => Decoder.json.map .terms
  | payment => Slip.acknowledgement.map .acknowledgement

/-- What a failure of the call is described as. -/
def callDescription : Question → String
  | terms => "failed to broadcast message for payment terms (secure)"
  | payment => "failed to send payment message for payment"

/-- What an answer that cannot be read is described as. -/
def answerDescription : Question → String
  | terms => "failed to bind payment terms (secure) response"
  | payment => "failed to bind payment ack response from payee"

end Question

namespace Socket

/-- The application that all messages of the relay name. -/
def app : String := "dpp"

/-- The route of proofs. -/
def proofRoute : String := "proof.create"

/-- The header of a proof with the id of its transaction. -/
def txIdHeader : String := "x-tx-id"

/-- How long a reply is waited for unless told otherwise. -/
def defaultTimeout : Span := .ofSeconds 10

/-- A message of the relay to the wallets of a channel. -/
def compose (route channel correlation : String) (body : Json) (now : Timestamp) : Message :=
  { Message.new route channel now with app, correlation, body }

/-- How an errand goes to the wallets. The conversation of a proof is that of its transaction. -/
def dispatch (e : Errand) (s : Stamp) : Dispatch :=
  match e with
  | .terms a =>
    .call .terms (compose Question.terms.route a.paymentId s.correlation .null s.now)
  | .payment a p =>
    .call .payment
      (compose Question.payment.route a.paymentId s.correlation p.encode.canonical s.now)
  | .proof a p =>
    .notice { compose proofRoute a.reference a.txId p.terms s.now with
      headers := Dict.empty.insert txIdHeader a.txId }

/-- The body of a message as a value of a type. -/
def read {α : Type} (m : Message) (d : Decoder α) : Except Failure α :=
  (m.bind d).mapError fun fault => .ofBus (.notDecodable fault)

/-- The client error for an invoice that no wallet serves. -/
def invoiceNotFound (errorId : String) : ClientError :=
  ⟨errorId, .notFound, "404", "invoice not found"⟩

/-- Why a question has no answer. Without a channel nobody serves the invoice. -/
def callFailure (errorId description : String) (e : CallError) : Failure :=
  if e.isChannelNotFound then .client (invoiceNotFound errorId)
  else .context description (.call e)

/-- The error that a wallet replied. -/
def payeeFailure (errorId : String) (m : Message) : Failure :=
  match read m ErrorRecord.record.decoder with
  | .ok r => .client (.ofRecord errorId r)
  | .error f => .context "failed to bind error response from payee" f

/-- What the end of a call says about the question. -/
def conclude (errorId : String) (q : Question) (outcome : Except CallError Message) :
    Except Failure Receipt :=
  match outcome with
  | .error e => .error (callFailure errorId q.callDescription e)
  | .ok m =>
    if m.route = q.answerRoute then Failure.describe q.answerDescription (read m q.answer)
    else if m.route = q.errorRoute then .error (payeeFailure errorId m)
    else .error (.unexpectedRoute m.route)

/-- What sending a notice says about the errand: it only fails if the message cannot be sent at
all. -/
def concludeNotice (sent : Except CallError Unit) : Except Failure Receipt :=
  match sent with
  | .error (.transport (.tooLarge size max)) =>
    .error (.context "failed to broadcast proof" (.call (.transport (.tooLarge size max))))
  | .error (.transport (.notEncodable reason)) =>
    .error (.context "failed to broadcast proof" (.call (.transport (.notEncodable reason))))
  | _ => .ok .taken

end Socket

end PaymentRelay
