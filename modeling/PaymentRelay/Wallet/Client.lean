import PaymentRelay.Http.Status
import PaymentRelay.Wallet.Inquiry

/-
  What the end of an HTTP exchange says about the request that was made.
-/

namespace PaymentRelay

/-- How an exchange with a wallet ends. -/
inductive Ending where
  /-- No connection was made. -/
  | unreachable
  /-- The connection was lost, or the request was no request. -/
  | broken (reason : String)
  /-- The wallet answered. The body is what arrived of it, and `lost` is why the rest did not. -/
  | response (status : Nat) (body : List UInt8) (lost : Option String)
  deriving DecidableEq, Repr

namespace Exchange

/-- The body of an answer as a text, nothing if it was lost. -/
def bodyText (body : List UInt8) (lost : Option String) : String :=
  match lost with
  | none => String.ofList (Utf8.lossy (Utf8.symbols body))
  | some _ => ""

/-- The value of a body; an empty one is null. -/
def value (x : Exchange) (body : List UInt8) : Except Failure Json :=
  if body.isEmpty then .ok .null
  else
    (Decoder.json.ofSymbols (Utf8.symbols body)).mapError fun _ =>
      .decode (x.title ++ ": invalid json")

/-- What the end of an exchange says. -/
def conclude (x : Exchange) : Ending → Except Failure Json
  | .unreachable => .error (.wallet ("cannot connect to " ++ x.url))
  | .broken reason => .error (.wallet (x.title ++ ": " ++ reason))
  | .response status body lost =>
    if status ≠ x.expected then
      .error (.wallet (x.title ++ " returned " ++ Http.statusText status ++ ", expected " ++
        toString x.expected ++ ": " ++ bodyText body lost))
    else
      match lost with
      | some reason => .error (.wallet (x.title ++ ": " ++ reason))
      | none => x.value body

end Exchange

end PaymentRelay
