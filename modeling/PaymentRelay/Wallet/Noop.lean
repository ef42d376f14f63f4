import PaymentRelay.Payment.Errand

/-
  No wallet at all: fixed answers, for trying out the relay.

  The terms are the same for every payment, and signed; their times are left open, as empty
  objects.
-/

namespace PaymentRelay.Noop

/-- The payee of all terms. -/
def beneficiary : Json := .object [
  ("name", .text "beneficiary 1"),
  ("avatar", .text "http://url.com"),
  ("extensions", .object [
    ("email", .text "beneficiary@m.com"),
    ("address", .text "1 the street, the town, B1 1AA"),
    ("additionalProp1", .object [])])]

/-- The output of all terms. -/
def output : Json := .object [
  ("amount", .ofNat 100000),
  ("script", .text "76a91455b61be43392125d127f1780fb038437cd67ef9c88ac"),
  ("description", .text "paymentReference 123456")]

/-- A fee rate of nothing. -/
def free : Json := .object [("satoshis", .ofNat 0), ("bytes", .ofNat 0)]

/-- What the terms say. -/
def payload : Json := .object [
  ("network", .text "mainnet"),
  ("creationTimestamp", .object []),
  ("expirationTimestamp", .object []),
  ("url", .text "https://localhost:3443/api/v1/payment/123456"),
  ("memo", .text "string"),
  ("beneficiary", beneficiary),
  ("outputs", .array [output]),
  ("fees", .object [("data", free), ("standard", free)]),
  ("ancestry", .object [("format", .text "binary"), ("minDepth", .ofNat 0)])]

/-- The signature over the terms. -/
def signature : String :=
  "3044022004cf2c5711f34f0de11fd316074c44ce0f63a525840aae0cf61d9dee04b317b102201a5604935444" ++
  "9ddce3d8b059403b2d866662b6d1f9d0064365d420406d8d992d"

/-- The key of the signature. -/
def publicKey : String := "03d546057437f3279f66d6ae91a03ffe1120ef3a79b8f186d9b6a8f1e0582ccf78"

/-- The terms of every payment. -/
def terms : Json := (Envelope.signed payload.print signature publicKey).terms

/-- The answer to an errand. -/
def answer : Errand → Receipt
  | .terms _ => .terms terms
  | .payment _ _ => .acknowledgement .empty
  | .proof _ _ => .taken

end PaymentRelay.Noop
