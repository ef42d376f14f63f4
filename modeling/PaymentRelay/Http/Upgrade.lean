import PaymentRelay.Http.Request
import PaymentRelay.Text.Search

/-
  Upgrades: requests to turn a connection into a web socket.
-/

namespace PaymentRelay.Http.Upgrade

/-- A header has a value, in any case. -/
def has (r : Request) (name value : String) : Bool :=
  (r.header? name).any fun v => lowerCase v = value

/-- A header mentions a value, in any case. -/
def mentions (r : Request) (name value : String) : Bool :=
  (r.header? name).any fun v => occurs value.toList (lowerCase v).toList

/-- Why a request is no upgrade, with the status that says so. -/
def refusal? (r : Request) : Option (Nat × String) :=
  if r.method ≠ "GET" then some (405, "Request method must be `GET`")
  else if mentions r "connection" "upgrade" = false then
    some (400, "Connection header did not include 'upgrade'")
  else if has r "upgrade" "websocket" = false then
    some (400, "`Upgrade` header did not include 'websocket'")
  else if has r "sec-websocket-version" "13" = false then
    some (400, "`Sec-WebSocket-Version` header did not include '13'")
  else if r.header? "sec-websocket-key" = none then
    some (400, "`Sec-WebSocket-Key` header missing")
  else if r.upgradable = false then
    some (426, "WebSocket request couldn't be upgraded since no upgrade state was present")
  else none

end PaymentRelay.Http.Upgrade
