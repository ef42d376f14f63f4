import PaymentRelay.Failure.Basic
import PaymentRelay.Json.Printer
import PaymentRelay.Payment.Errand

/-
  Responses to clients.
-/

namespace PaymentRelay.Http

/-- A response: its status, the headers that matter and its body. -/
structure Response where
  status : Nat
  contentType : Option String
  /-- The methods that would have been allowed. -/
  allow : Option String
  body : String
  deriving DecidableEq, Repr

namespace Response

def json (status : Nat) (j : Json) : Response := ⟨status, some "application/json", none, j.print⟩

def text (status : Nat) (s : String) : Response :=
  ⟨status, some "text/plain; charset=utf-8", none, s⟩

def empty (status : Nat) : Response := ⟨status, none, none, ""⟩

/-- The path is there, but not for this method. -/
def methodNotAllowed (methods : String) : Response := ⟨405, none, some methods, ""⟩

/-- The response without its body, for those who asked for the head alone. -/
def headOnly (r : Response) : Response := { r with body := "" }

def ofFailure (f : Failure) : Response := json f.answer.status f.answer.body

/-- What is wrong with a request, as its sender is told. -/
def badRequest (detail : String) : Response :=
  json ErrorKind.badRequest.status (.text detail)

def ofReceipt : Receipt → Response
  | .terms terms => json 200 terms
  | .acknowledgement ack => json 201 ack.encode
  | .taken => empty 201

def ofResult : Except Failure Receipt → Response
  | .ok receipt => ofReceipt receipt
  | .error f => ofFailure f

/-- The response to an errand with this result. -/
def toErrand (e : Errand) (head : Bool) (result : Except Failure Receipt) : Response :=
  let r := ofResult (e.conclude result)
  if head then r.headOnly else r

end Response

end PaymentRelay.Http
