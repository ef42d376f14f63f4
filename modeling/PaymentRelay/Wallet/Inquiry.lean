import PaymentRelay.Failure.Basic

/-
  Inquiries to a wallet over HTTP.

  An inquiry is a tree of exchanges: it is done, or it makes a request and goes on with what came
  of it. It does not say who carries out the requests, so the same inquiry runs against a wallet
  and against a table of answers (`Inquiry.run`).
-/

namespace PaymentRelay

/-- The methods that are used with a wallet. -/
inductive Method where
  | get
  | post
  deriving DecidableEq, Repr

def Method.text : Method → String
  | .get => "GET"
  | .post => "POST"

/-- A request to a wallet, with the status that it has to answer. -/
structure Exchange where
  method : Method
  url : String
  expected : Nat
  body : Option Json

/-- The method and the address of a request, as messages name it. -/
def Exchange.title (x : Exchange) : String := x.method.text ++ " " ++ x.url

/-- Requests, each of which may depend on what came of those before it, and what comes of all. -/
inductive Inquiry (α : Type) where
  | done (result : α)
  | ask (exchange : Exchange) (next : Except Failure Json → Inquiry α)

/-- An inquiry that may fail. -/
abbrev Lookup (α : Type) := Inquiry (Except Failure α)

namespace Inquiry

variable {α β : Type}

/-- The inquiry with a function applied to what comes of it. -/
def map (f : α → β) : Inquiry α → Inquiry β
  | .done a => .done (f a)
  | .ask x next => .ask x fun r => (next r).map f

/-- Runs an inquiry: the requests that were made, and what came of it. -/
def run (client : Exchange → Except Failure Json) : Inquiry α → List Exchange × α
  | .done a => ([], a)
  | .ask x next =>
    let (made, a) := run client (next (client x))
    (x :: made, a)

end Inquiry

namespace Lookup

variable {α β : Type}

/-- One request, whose answer is a value of a type. -/
def one (x : Exchange) (d : Decoder α) : Lookup α :=
  .ask x fun r => .done (r.bind fun j => (d.ofJson j).mapError .ofFault)

/-- The lookup with a description of what failed. -/
def describe (description : String) (l : Lookup α) : Lookup α :=
  l.map (Failure.describe description)

/-- The lookup, and then another one with its result. A failure ends both. -/
def andThen (next : α → Lookup β) : Lookup α → Lookup β
  | .done (.ok a) => next a
  | .done (.error e) => .done (.error e)
  | .ask x rest => .ask x fun r => andThen next (rest r)

end Lookup

end PaymentRelay
