import PaymentRelay.Failure.Client
import PaymentRelay.Validation
import PaymentRelay.Call.Error

/-
  Failures of a request, and what the client is told of them.

  A failure is wrapped in the contexts it passes through. The answer depends on its root alone:
  a client sees violations, and the details of client errors; of any other failure it learns
  nothing.
-/

namespace PaymentRelay

/-- Why a request failed. -/
inductive Failure where
  | validation (violations : Violations)
  | client (error : ClientError)
  /-- A record that is passed on as it is. -/
  | record (r : ErrorRecord)
  | routeNotFound (path : String)
  | call (error : CallError)
  /-- A wallet answered with something else than it was asked for. -/
  | unexpectedRoute (route : String)
  | decode (reason : String)
  /-- The HTTP wallet could not be reached or refused. -/
  | wallet (reason : String)
  | internal (reason : String)
  | context (description : String) (inner : Failure)

/-- A status and a JSON body. -/
structure Answer where
  status : Nat
  body : Json

namespace Failure

/-- The message of a failure: its contexts from the outermost in, then its root. -/
def text : Failure → String
  | .validation v => v.text
  | .client e => e.text
  | .record r => r.text
  | .routeNotFound path => "route not found: " ++ path
  | .call e => e.text
  | .unexpectedRoute route => "unexpected response key '" ++ route ++ "'"
  | .decode reason => reason
  | .wallet reason => "wallet request failed: " ++ reason
  | .internal reason => reason
  | .context description inner => description ++ ": " ++ inner.text

/-- The failure within all contexts. -/
def root : Failure → Failure
  | .context _ inner => inner.root
  | f => f

/-- The client error at the root. -/
def clientError? (f : Failure) : Option ClientError :=
  match f.root with
  | .client e => some e
  | _ => none

/-- The failure of a bus error; a body that cannot be read or written is no fault of the bus. -/
def ofBus : BusError → Failure
  | .notEncodable reason => .decode (BusError.notEncodable reason).text
  | .notDecodable fault => .decode (BusError.notDecodable fault).text
  | e => .call (.transport e)

/-- The failure of a value that has not the expected shape. -/
def ofFault (fault : Fault) : Failure := .decode fault.detail

/-- What a client is told of a failure it cannot do anything about. -/
def internalMessage : String := "Internal Server Error"

/-- The answer to a client error: its detail, never its id or code. -/
def clientAnswer (e : ClientError) : Answer := ⟨e.status, .text e.detail⟩

/-- The answer to the request that failed. -/
def answer (f : Failure) : Answer :=
  match f.root with
  | .validation v => ⟨400, .object [("errors", v.toJson)]⟩
  | .routeNotFound _ => ⟨404, .text "Not Found"⟩
  | .record r => ⟨400, .text r.message⟩
  | .client e => clientAnswer e
  | _ => ⟨500, .text internalMessage⟩

/-- A result with a description of what failed. -/
def describe {α : Type} (description : String) (r : Except Failure α) : Except Failure α :=
  r.mapError (.context description)

end Failure

end PaymentRelay
