import PaymentRelay.Http.Request
import PaymentRelay.Text.Percent

/-
  Endpoints: what the paths of the relay lead to.

  A path leads to an endpoint if it has exactly the segments of the endpoint, where one of them may
  be any text but an empty one. That segment is percent-encoded UTF-8.
-/

namespace PaymentRelay.Http

/-- What a path leads to, with its encoded segment. -/
inductive Endpoint where
  | health
  | payment (id : String)
  | proofs (txId : String)
  /-- Where wallets connect. -/
  | wallets (channel : String)
  deriving DecidableEq, Repr

namespace Endpoint

/-- The endpoint of a list of segments. Wallets connect only where they are served. -/
def ofSegments? (serving : Bool) : List String → Option Endpoint
  | ["", "health"] => some .health
  | ["", "api", "v1", "payment", id] => if id = "" then none else some (.payment id)
  | ["", "api", "v1", "proofs", txId] => if txId = "" then none else some (.proofs txId)
  | ["", "ws", channel] =>
    if channel = "" ∨ serving = false then none else some (.wallets channel)
  | _ => none

/-- The endpoint of a path. -/
def ofPath? (serving : Bool) (path : String) : Option Endpoint :=
  ofSegments? serving ((path.toList.splitOn '/').map String.ofList)

/-- The methods of an endpoint, as a refusal lists them. -/
def methods : Endpoint → String
  | .health | .wallets _ => "GET,HEAD"
  | .payment _ => "GET,HEAD,POST"
  | .proofs _ => "POST"

/-- The text of an encoded segment, or else what is said of the parameter with this name. -/
def segment (name encoded : String) : Except String String :=
  match Percent.text? (Utf8.bytes encoded) with
  | some s => .ok s
  | none => .error ("Invalid URL: Invalid UTF-8 in `" ++ name ++ "`")

end Endpoint

end PaymentRelay.Http
