import PaymentRelay.Payment.Errand
import PaymentRelay.Settings.Basic
import PaymentRelay.Wallet.Inquiry

/-
  The wallet that is reached over HTTP.

  It has no payment terms of its own, so they are assembled from its owner, its destinations for
  the invoice and its fees, which are looked up in this order. Payments are handed on to it. It
  has no use for proofs.
-/

namespace PaymentRelay

/-- Where the wallet is, and where payers reach the relay. -/
structure Payd where
  baseUrl : String
  publicUrl : String
  deriving DecidableEq, Repr

namespace Payd

/-- The wallet of some settings. -/
def ofSettings (s : PaydSettings) (publicUrl : String) : Payd := ⟨s.baseUrl, publicUrl⟩

/-- The network of all payments. -/
def network : String := "mainnet"

/-- How long terms are valid, in seconds. -/
def validity : Int := 24 * 60 * 60

def ownerUrl (w : Payd) : String := w.baseUrl ++ "/api/v1/owner"

def destinationsUrl (w : Payd) (invoice : String) : String :=
  w.baseUrl ++ "/api/v1/destinations/" ++ invoice

def feesUrl (w : Payd) : String := w.baseUrl ++ "/api/v1/fees"

def paymentsUrl (w : Payd) (invoice : String) : String :=
  w.baseUrl ++ "/api/v1/payments?invoiceID=" ++ invoice

/-- Where the payer submits a payment to the relay. -/
def paymentUrl (w : Payd) (invoice : String) : String :=
  w.publicUrl ++ "/api/v1/payment/" ++ invoice

/-- Looks something up. -/
def lookup {α : Type} (url : String) (d : Decoder α) : Lookup α := .one ⟨.get, url, 200, none⟩ d

/-- The owner of the wallet. -/
def owner (w : Payd) : Lookup Merchant :=
  Lookup.describe "failed to read owner from payd" (lookup w.ownerUrl Merchant.record.decoder)

/-- The destinations of a list of outputs. -/
def destinations : Decoder (List Output) :=
  (Decoder.list Destination.record.decoder).map fun ds => ds.map Destination.toOutput

/-- The outputs that the payer of an invoice has to fund. -/
def outputs (w : Payd) (invoice : String) : Lookup (List Output) :=
  Lookup.describe ("failed to read destinations for invoice " ++ invoice)
    (lookup (w.destinationsUrl invoice) destinations)

/-- The fees that the wallet charges. -/
def fees (w : Payd) : Lookup FeeQuote :=
  Lookup.describe "failed to read fees from payd" (lookup w.feesUrl FeeQuote.record.decoder)

/-- The terms of an invoice that is looked at now. -/
def assemble (w : Payd) (invoice : String) (now : Timestamp) (owner : Merchant)
    (outputs : List Output) (fees : FeeQuote) : Terms where
  network := network
  created := .ofInt now.toSeconds
  expires := .ofInt (now.toSeconds + validity)
  url := w.paymentUrl invoice
  memo := "invoice " ++ invoice
  beneficiary := some owner
  outputs := outputs
  fees := fees

/-- Terms in an unsigned envelope, as they are passed on. -/
def envelop (t : Terms) : Json := (Envelope.unsigned (Terms.record.encode t).print).terms

/-- The terms of an invoice. -/
def terms (w : Payd) (invoice : String) (now : Timestamp) : Lookup Json :=
  w.owner |> Lookup.andThen fun owner =>
  w.outputs invoice |> Lookup.andThen fun outputs =>
  w.fees |> Lookup.andThen fun fees =>
  .done (.ok (envelop (w.assemble invoice now owner outputs fees)))

/-- Hands on a payment, which is acknowledged without a word. -/
def submit (w : Payd) (invoice : String) (payment : Slip) : Lookup Slip :=
  Lookup.describe "failed to submit payment to payd"
    (Lookup.one ⟨.post, w.paymentsUrl invoice, 204, some payment.encode.canonical⟩ .json)
  |> Lookup.andThen fun _ => .done (.ok .empty)

/-- What an errand asks of the wallet. -/
def lookupFor (w : Payd) (e : Errand) (now : Timestamp) : Lookup Receipt :=
  match e with
  | .terms a => (w.terms a.paymentId now).map fun r => r.map .terms
  | .payment a p => (w.submit a.paymentId p).map fun r => r.map .acknowledgement
  | .proof _ _ => .done (.ok .taken)

end Payd

end PaymentRelay
