import PaymentRelay.Json.Record

/-
  Payment terms: what the payer is asked to pay, to whom, until when and at which fees.
-/

namespace PaymentRelay

/-- The payment that terms are asked for. -/
structure TermsArgs where
  paymentId : String
  deriving DecidableEq

/-- The payment that a slip is submitted for. -/
structure PaymentArgs where
  paymentId : String
  deriving DecidableEq

/-- The transaction a proof is for, and the payment it belongs to. -/
structure ProofArgs where
  txId : String
  reference : String
  deriving DecidableEq

/-- The payee. -/
structure Merchant where
  name : String
  avatar : Option String
  email : Option String
  address : Option String
  extensions : Dict Json

/-- An output the payer has to fund. -/
structure Output where
  amount : UInt64
  script : String
  description : Option String
  deriving DecidableEq

/-- An output as a wallet lists it. -/
structure Destination where
  script : String
  satoshis : UInt64
  deriving DecidableEq

/-- A fee rate for one class of bytes. -/
structure Fee where
  satoshis : UInt64
  bytes : UInt64
  deriving DecidableEq

/-- The fee rates of both classes of bytes. -/
structure FeeQuote where
  data : Fee
  standard : Fee
  deriving DecidableEq

/-- The terms of one payment. The times are Unix seconds. -/
structure Terms where
  network : String
  created : Int64
  expires : Int64
  url : String
  memo : String
  beneficiary : Option Merchant
  outputs : List Output
  fees : FeeQuote

/-- A word as a value. -/
def Json.ofWord (n : UInt64) : Json := .number (.ofWord n)

/-- Seconds as a value. -/
def Json.ofSeconds (n : Int64) : Json := .ofInt n.toInt

def TermsArgs.record : Record TermsArgs where
  name := "PaymentTermsArgs"
  types := [String]
  fields := .cons (.required "paymentID" .text .text) .nil
  build := fun (id, ()) => ⟨id⟩
  parts := fun a => (a.paymentId, ())

def PaymentArgs.record : Record PaymentArgs where
  name := "PaymentCreateArgs"
  types := [String]
  fields := .cons (.required "paymentID" .text .text) .nil
  build := fun (id, ()) => ⟨id⟩
  parts := fun a => (a.paymentId, ())

def ProofArgs.record : Record ProofArgs where
  name := "ProofCreateArgs"
  types := [String, String]
  fields :=
    .cons (.required "txid" .text .text) <|
    .cons (.required "paymentReference" .text .text) .nil
  build := fun (id, reference, ()) => ⟨id, reference⟩
  parts := fun a => (a.txId, a.reference, ())

namespace Merchant

/-- The extensions are left out when there are none. -/
def extensionsField : Field (Dict Json) where
  name := "extensions"
  decoder := .dict .json
  encode := fun d => if d.isEmpty then none else some (.ofDict d)
  absent := some .empty

def record : Record Merchant where
  name := "MerchantData"
  types := [String, Option String, Option String, Option String, Dict Json]
  fields :=
    .cons (.withDefault "name" .text .text "") <|
    .cons (.optional "avatar" .text .text) <|
    .cons (.optional "email" .text .text) <|
    .cons (.optional "address" .text .text) <|
    .cons extensionsField .nil
  build := fun (name, avatar, email, address, extensions, ()) =>
    ⟨name, avatar, email, address, extensions⟩
  parts := fun m => (m.name, m.avatar, m.email, m.address, m.extensions, ())

end Merchant

def Output.record : Record Output where
  name := "Output"
  types := [UInt64, String, Option String]
  fields :=
    .cons (.required "amount" (.word "u64") .ofWord) <|
    .cons (.required "script" .text .text) <|
    .cons (.optional "description" .text .text) .nil
  build := fun (amount, script, description, ()) => ⟨amount, script, description⟩
  parts := fun o => (o.amount, o.script, o.description, ())

namespace Destination

/-- The amount, which wallets also spell with two letters exchanged. -/
def satoshisField : Field UInt64 :=
  { Field.required "satoshis" (.word "u64") Json.ofWord with aliases := ["satohsis"] }

def record : Record Destination where
  name := "Destination"
  types := [String, UInt64]
  fields := .cons (.required "script" .text .text) <| .cons satoshisField .nil
  build := fun (script, satoshis, ()) => ⟨script, satoshis⟩
  parts := fun d => (d.script, d.satoshis, ())

/-- The output that funds a destination. -/
def toOutput (d : Destination) : Output := ⟨d.satoshis, d.script, none⟩

end Destination

namespace Fee

def zero : Fee := ⟨0, 0⟩

def record : Record Fee where
  name := "Fee"
  types := [UInt64, UInt64]
  fields :=
    .cons (.withDefault "satoshis" (.word "u64") .ofWord 0) <|
    .cons (.withDefault "bytes" (.word "u64") .ofWord 0) .nil
  build := fun (satoshis, bytes, ()) => ⟨satoshis, bytes⟩
  parts := fun f => (f.satoshis, f.bytes, ())

end Fee

def FeeQuote.record : Record FeeQuote where
  name := "FeeQuote"
  types := [Fee, Fee]
  fields :=
    .cons (.withDefault "data" Fee.record.decoder Fee.record.encode .zero) <|
    .cons (.withDefault "standard" Fee.record.decoder Fee.record.encode .zero) .nil
  build := fun (data, standard, ()) => ⟨data, standard⟩
  parts := fun q => (q.data, q.standard, ())

/-- A list of outputs as a value. -/
def Output.encodeList (outputs : List Output) : Json := .array (outputs.map Output.record.encode)

def Terms.record : Record Terms where
  name := "PaymentTerms"
  types := [String, Int64, Int64, String, String, Option Merchant, List Output, FeeQuote]
  fields :=
    .cons (.required "network" .text .text) <|
    .cons (.required "creationTimestamp" .seconds .ofSeconds) <|
    .cons (.required "expirationTimestamp" .seconds .ofSeconds) <|
    .cons (.required "url" .text .text) <|
    .cons (.required "memo" .text .text) <|
    .cons (.optional "beneficiary" Merchant.record.decoder Merchant.record.encode) <|
    .cons (.required "outputs" (.list Output.record.decoder) Output.encodeList) <|
    .cons (.required "fees" FeeQuote.record.decoder FeeQuote.record.encode) .nil
  build := fun (network, created, expires, url, memo, beneficiary, outputs, fees, ()) =>
    ⟨network, created, expires, url, memo, beneficiary, outputs, fees⟩
  parts := fun t =>
    (t.network, t.created, t.expires, t.url, t.memo, t.beneficiary, t.outputs, t.fees, ())

end PaymentRelay
