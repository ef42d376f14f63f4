import PaymentRelay.Http.Endpoint
import PaymentRelay.Http.Form
import PaymentRelay.Http.MediaType
import PaymentRelay.Http.Response
import PaymentRelay.Http.Upgrade

/-
  Verdicts: what the relay makes of a request before any wallet is involved.

  A request is answered at once, or it is an errand whose arguments have been read and checked, or
  it is a wallet that connects. A request that is answered at once never reaches a wallet.
-/

namespace PaymentRelay.Http

/-- What becomes of a request. -/
inductive Verdict where
  | respond (r : Response)
  | errand (e : Errand)
  /-- A wallet connects to a channel. -/
  | connect (channel : String)

/-- The largest size of a request body in bytes. -/
def bodyLimit : Nat := 2 * 1024 * 1024

namespace Request

/-- The body is said to be JSON. -/
def isJson (r : Request) : Bool :=
  ((r.header? "content-type").bind MediaType.read?).any MediaType.isJson

/-- What is said of a body that has not the expected shape, and where. -/
def shapeText (path : List Step) (cause : Cause) : String :=
  "Failed to deserialize the JSON body into the target type: " ++
    (if path.isEmpty then "" else Step.pathText path ++ ": ") ++ cause.message?.getD ""

/-- The value at the beginning of a JSON body, or what is said of the body. -/
def jsonBody {α : Type} (r : Request) (d : Decoder α) : Except String α :=
  if r.isJson = false then .error "Expected request with `Content-Type: application/json`"
  else if bodyLimit < r.body.length then
    .error "Failed to buffer the request body: length limit exceeded"
  else
    match d.ofLeading (Utf8.symbols r.body) with
    | .ok a => .ok a
    | .error .unreadable => .error "Failed to parse the request body as JSON"
    | .error (.shape path cause) => .error (shapeText path cause)

/-- The payment reference of a proof, empty if it is absent. -/
def reference (r : Request) : Except String String :=
  match Form.values (Form.read r.query) "i" with
  | [] => .ok ""
  | [reference] => .ok reference
  | _ => .error "Failed to deserialize query string: duplicate field `i`"

end Request

namespace Verdict

/-- An errand goes on if its check passes. -/
def ofErrand (e : Errand) : Verdict :=
  match e.check with
  | .ok () => .errand e
  | .error f => .respond (.ofFailure f)

/-- Goes on with what was read of the address of a request. -/
def withText {α : Type} (read : Except String α) (next : α → Verdict) : Verdict :=
  match read with
  | .ok a => next a
  | .error message => .respond (.text 400 message)

/-- Goes on with the body of a request. -/
def withBody {α : Type} (r : Request) (d : Decoder α) (next : α → Verdict) : Verdict :=
  match r.jsonBody d with
  | .ok a => next a
  | .error message => .respond (.badRequest message)

/-- A request for the terms of a payment. -/
def terms (id : String) : Verdict :=
  withText (Endpoint.segment "paymentID" id) fun id => ofErrand (.terms ⟨id⟩)

/-- A payment that is submitted. -/
def payment (r : Request) (id : String) : Verdict :=
  withText (Endpoint.segment "paymentID" id) fun id =>
  withBody r Slip.payment fun payment => ofErrand (.payment ⟨id⟩ payment)

/-- A proof that is handed in. -/
def proof (r : Request) (txId : String) : Verdict :=
  withText (Endpoint.segment "txid" txId) fun txId =>
  withText r.reference fun reference =>
  withBody r Envelope.record.decoder fun proof => ofErrand (.proof ⟨txId, reference⟩ proof)

/-- A wallet that wants to connect. -/
def wallet (r : Request) (channel : String) : Verdict :=
  match Upgrade.refusal? r with
  | some (status, message) => .respond (.text status message)
  | none => withText (Endpoint.segment "channelKey" channel) .connect

/-- What an endpoint makes of a request. -/
def atEndpoint (r : Request) (p : Endpoint) : Verdict :=
  match p with
  | .health => if r.isGet then .respond (.json 200 (.object [("status", .text "ok")])) else refuse
  | .payment id =>
    if r.isGet then terms id else if r.method = "POST" then payment r id else refuse
  | .proofs txId => if r.method = "POST" then proof r txId else refuse
  | .wallets channel => if r.isGet then wallet r channel else refuse
where
  /-- The endpoint does not take the method. -/
  refuse : Verdict := .respond (.methodNotAllowed p.methods)

/-- The verdict without the body of a response at once. -/
def headOnly : Verdict → Verdict
  | .respond r => .respond r.headOnly
  | v => v

/-- What becomes of a request, where wallets are served or not. Only an endpoint leaves the body
out for those who ask for the head. -/
def of (serving : Bool) (r : Request) : Verdict :=
  match Endpoint.ofPath? serving r.path with
  | none => .respond (.ofFailure (.routeNotFound r.path))
  | some p => if r.isHead then (atEndpoint r p).headOnly else atEndpoint r p

end Verdict

end PaymentRelay.Http
