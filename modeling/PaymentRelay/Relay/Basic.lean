import PaymentRelay.Http.Verdict
import PaymentRelay.Relay.Switchboard
import PaymentRelay.Settings.Environment
import PaymentRelay.Wallet.Noop
import PaymentRelay.Wallet.Payd

/-
  The relay: HTTP requests of payers on one side, wallets on the other.

  There are three kinds of relays. One serves wallets over sockets, and its requests may have to
  wait. One hands requests to a wallet over HTTP, so that the response is what comes of an
  inquiry. One has no wallet.
-/

namespace PaymentRelay

/-- A relay with the wallets it serves. -/
inductive Relay where
  | sockets (s : Switchboard)
  | payd (w : Payd)
  | noop

/-- What becomes of a request. -/
inductive Reaction where
  /-- The response is what comes of an inquiry, or is known at once. -/
  | answer (i : Inquiry Http.Response)
  /-- The response comes later, under this number. -/
  | wait (number : Nat)
  /-- The client is a wallet and is connected now, as the session with this number. -/
  | connected (session : Nat)

namespace Relay

/-- Wallets may connect. -/
def isServing : Relay → Bool
  | sockets _ => true
  | _ => false

/-- The switchboard, if wallets may connect. -/
def switchboard? : Relay → Option Switchboard
  | sockets s => some s
  | _ => none

/-- The registry of calls; without a switchboard there are none. -/
def registry : Relay → Registry
  | sockets s => s.bridge.registry
  | _ => .empty

/-- A response that is known at once. -/
def now (r : Http.Response) : Reaction := .answer (.done r)

/-- Takes an errand that has been checked to a wallet. -/
def carryOut (r : Relay) (e : Errand) (stamp : Stamp) (head : Bool) : Relay × Reaction :=
  match r with
  | sockets s =>
    match s.carryOut e stamp head with
    | (s, .inl response) => (sockets s, now response)
    | (s, .inr number) => (sockets s, .wait number)
  | payd w => (r, .answer ((w.lookupFor e stamp.now).map (.toErrand e head)))
  | noop => (r, now (.toErrand e head (.ok (Noop.answer e))))

/-- Takes a request. -/
def request (r : Relay) (q : Http.Request) (stamp : Stamp) : Relay × Reaction :=
  match Http.Verdict.of r.isServing q with
  | .respond response => (r, now response)
  | .errand e => r.carryOut e stamp q.isHead
  | .connect channel =>
    match r with
    | sockets s => let (s, session) := s.connect channel; (sockets s, .connected session)
    | r => (r, now (.ofFailure (.routeNotFound q.path)))

/-- Does something at the switchboard, if there is one. -/
def atSwitchboard (r : Relay) (f : Switchboard → Switchboard) : Relay :=
  match r with
  | sockets s => sockets (f s)
  | r => r

/-- Everything that can happen happens: the responses that have become known. -/
def settle (r : Relay) : Relay × List (Nat × Http.Response) :=
  match r with
  | sockets s => let (s, responses) := s.settle; (sockets s, responses)
  | r => (r, [])

/-- The clock moves on, and everything settles. -/
def advance (r : Relay) (span : Span) : Relay × List (Nat × Http.Response) :=
  match r with
  | sockets s => let (s, responses) := s.advance span; (sockets s, responses)
  | r => (r, [])

/-! Relays from settings. -/

/-- How often calls that were left behind are swept. -/
def sweepInterval : Span := .ofSeconds 10

/-- The limits that settings give. -/
def limitsOf (s : SocketSettings) : Limits where
  reply := .ofSeconds s.callTimeout.toNat
  frame := s.maxMessageBytes.toNat
  idle := .ofSeconds s.channelTimeout.toNat

/-- A switchboard for some settings, which is swept. -/
def switchboardOf (s : SocketSettings) : Switchboard :=
  let board := Switchboard.new (.new Hub.defaultCapacity s.maxMessageBytes.toNat) (limitsOf s)
  { board with bridge := { board.bridge with sweepers := [.new .start sweepInterval] } }

/-- The relay that settings describe, unless they make no sense. -/
def ofSettings (s : Settings) : Except SettingsError Relay :=
  match s.check with
  | .error e => .error e
  | .ok () =>
    match s.wallet.backend with
    | .socket => .ok (sockets (switchboardOf s.socket))
    | .payd => .ok (if s.payd.noop then noop else payd (.ofSettings s.payd s.server.publicUrl))

/-- Why a relay does not start. -/
def startText (e : SettingsError) : String := "configuration error: " ++ e.text

end Relay

end PaymentRelay
