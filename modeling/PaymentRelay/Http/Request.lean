import PaymentRelay.Http.Target
import PaymentRelay.Http.Token
import PaymentRelay.Text.Case

/-
  Requests of clients.

  The path and the query are kept as they stand in the request line, still encoded; headers have
  their names in any case.
-/

namespace PaymentRelay.Http

/-- A request. -/
structure Request where
  method : String
  /-- The path as it stands in the request line. -/
  path : String
  /-- What stands after the question mark, nothing if there is none. -/
  query : String
  headers : List (String × String)
  body : List UInt8
  /-- The connection may be handed over to another protocol. -/
  upgradable : Bool

namespace Request

/-- A character of the value of a header. -/
def isHeaderChar (c : Char) : Bool :=
  c = '\t' || ' ' ≤ c && c ≠ '\x7F'

/-- The request with these parts, if the method, the target and the headers are well-formed. -/
def make? (method target : String) (headers : List (String × String)) (body : List UInt8) :
    Option Request :=
  match Target.read? target with
  | some t =>
    if isToken method && headers.all fun h => isToken h.1 && h.2.toList.all isHeaderChar then
      some ⟨method, t.path, t.query, headers, body, false⟩
    else none
  | none => none

/-- The first value of a header, whose name is given in small letters. -/
def header? (r : Request) (name : String) : Option String :=
  (r.headers.find? fun h => lowerCase h.1 = name).map (·.2)

/-- The method only asks for the head of the answer to a GET. -/
def isHead (r : Request) : Bool := r.method = "HEAD"

/-- The method is GET, or asks for the head of its answer. -/
def isGet (r : Request) : Bool := r.method = "GET" || r.isHead

end Request

end PaymentRelay.Http
