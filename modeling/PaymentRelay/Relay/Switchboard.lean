import PaymentRelay.Call.Bridge
import PaymentRelay.Http.Response
import PaymentRelay.Relay.Session
import PaymentRelay.Wallet.Socket

/-
  The switchboard: the relay for wallets that are connected over sockets.

  It holds the bridge, the requests that wait for a reply of a wallet, and the sessions. Its steps
  are: an errand of a client, a wallet that connects, a frame, a ping or the end of a session, and
  the clock. After a step everything that can happen happens (`settle`): what was published is
  written to the wallets, and calls that have ended answer their requests.
-/

namespace PaymentRelay

/-- The limits of connections and calls. -/
structure Limits where
  /-- How long a reply is waited for. -/
  reply : Span
  /-- The largest frame in bytes. -/
  frame : Nat
  /-- How long a session may be without traffic. -/
  idle : Span
  deriving DecidableEq, Repr

/-- A request that waits for the end of a call. -/
structure Job where
  /-- The number of the call, which is also that of the request. -/
  number : Nat
  errand : Errand
  question : Question
  errorId : String
  /-- The client asked for the head of the response alone. -/
  head : Bool

/-- The bridge, the requests that wait and the sessions. -/
structure Switchboard where
  bridge : Bridge
  limits : Limits
  jobs : List Job
  sessions : List Session
  nextSession : Nat

/-- The response at the end of the call. -/
def Job.respond (j : Job) (outcome : Outcome) : Http.Response :=
  .toErrand j.errand j.head (Socket.conclude j.errorId j.question outcome)

namespace Switchboard

/-- A switchboard over a hub, with a listener. -/
def new (hub : Hub) (limits : Limits) : Switchboard := ⟨.new hub true, limits, [], [], 0⟩

/-! Errands of clients. -/

/-- Sends a notice: the response. -/
def notify (s : Switchboard) (e : Errand) (m : Message) : Switchboard × Http.Response :=
  let (bridge, sent) := s.bridge.send m.channel m
  ({ s with bridge }, .toErrand e false (Socket.concludeNotice sent))

/-- Starts a call: the response if it cannot start, or the number of the request. -/
def call (s : Switchboard) (e : Errand) (q : Question) (m : Message) (stamp : Stamp)
    (head : Bool) : Switchboard × (Http.Response ⊕ Nat) :=
  match s.bridge.start ⟨.background, m.channel, m, s.limits.reply⟩ stamp.correlation with
  | (bridge, .ok number) =>
    ({ s with bridge, jobs := s.jobs ++ [⟨number, e, q, stamp.errorId, head⟩] }, .inr number)
  | (bridge, .error failure) =>
    ({ s with bridge },
      .inl (.toErrand e head (Socket.conclude stamp.errorId q (.error failure))))

/-- Takes an errand to the wallets. -/
def carryOut (s : Switchboard) (e : Errand) (stamp : Stamp) (head : Bool) :
    Switchboard × (Http.Response ⊕ Nat) :=
  match Socket.dispatch e stamp with
  | .notice m => let (s, r) := s.notify e m; (s, .inl r)
  | .call q m => s.call e q m stamp head

/-- The responses of the requests whose calls have ended; they wait no longer. -/
def respond (s : Switchboard) : List (Nat × Outcome) → Switchboard × List (Nat × Http.Response)
  | [] => (s, [])
  | (number, outcome) :: rest =>
    let found := s.jobs.find? fun j => j.number = number
    let (t, responses) :=
      respond { s with jobs := s.jobs.filter fun j => j.number ≠ number } rest
    match found with
    | some j => (t, (number, j.respond outcome) :: responses)
    | none => (t, responses)

/-! Sessions of wallets. -/

/-- The session with a number. -/
def session? (s : Switchboard) (number : Nat) : Option Session :=
  s.sessions.find? fun x => x.number = number

/-- The session with a number while it is open. -/
def open? (s : Switchboard) (number : Nat) : Option Session :=
  (s.session? number).filter fun x => x.isOpen

/-- Puts a session in place of the one with its number. -/
def update (s : Switchboard) (x : Session) : Switchboard :=
  { s with sessions := s.sessions.map fun y => if y.number = x.number then x else y }

/-- Puts a hub in place of the hub. -/
def withHub (s : Switchboard) (hub : Hub) : Switchboard :=
  { s with bridge := { s.bridge with hub } }

/-- A wallet connects: the number of its session. -/
def connect (s : Switchboard) (channel : String) : Switchboard × Nat :=
  let (hub, peer) := s.bridge.hub.join channel
  let session := Session.new s.nextSession peer channel s.bridge.now
  ({ s.withHub hub with
      sessions := s.sessions ++ [session], nextSession := s.nextSession + 1 }, s.nextSession)

/-- What was published to the channel of a session is written to the wallet. A write is taken to be
complete at once: a wallet that does not read, so that a write to it is held up, is no part of this.
While the write is held up the session is not timed either. -/
def write (s : Switchboard) (x : Session) : Switchboard :=
  match s.bridge.hub.peer? x.peer with
  | none => s
  | some p =>
    let (hub, x) := p.unread.foldl (fun (hub, x) m =>
      match hub.peer? x.peer with
      | some p => ((hub.receive p).1, x.put (.message m) s.bridge.now)
      | none => (hub, x)) (s.bridge.hub, x)
    (s.withHub hub).update x

/-- Writes to every wallet. -/
def writeAll (s : Switchboard) : Switchboard :=
  s.sessions.foldl (fun s x => if x.isOpen then s.write x else s) s

/-- A reply of the wallet of a session; a reply that the hub refuses is dropped. -/
def reply (s : Switchboard) (x : Session) (m : Message) : Switchboard :=
  match s.bridge.hub.peer? x.peer with
  | some p => s.withHub (s.bridge.hub.reply p m).1
  | none => s

/-- A frame of the wallet of a session. A good frame is a reply, and any frame is traffic. -/
def frame (s : Switchboard) (number : Nat) (bytes : List UInt8) (now : Timestamp) :
    Switchboard :=
  match s.open? number with
  | none => s
  | some x =>
    let s := s.update (x.touch s.bridge.now)
    match Frame.read? s.limits.frame x.channel now bytes with
    | some m => s.reply x m
    | none => s

/-- A ping of the wallet of a session, which is answered. -/
def ping (s : Switchboard) (number : Nat) (content : List UInt8) : Switchboard :=
  match s.open? number with
  | none => s
  | some x => s.update (x.put (.pong content) s.bridge.now)

/-- A session ends, and its peer leaves. -/
def finish (s : Switchboard) (x : Session) (last : List Outgoing) : Switchboard :=
  (s.withHub (s.bridge.hub.leave x.peer)).update (x.finish last)

/-- The wallet of a session hangs up. -/
def hangUp (s : Switchboard) (number : Nat) : Switchboard :=
  match s.open? number with
  | none => s
  | some x => s.finish x [.close]

/-- The connection of a session is lost. -/
def cut (s : Switchboard) (number : Nat) : Switchboard :=
  match s.open? number with
  | none => s
  | some x => s.finish x []

/-- Every session that has been idle for too long is ended. -/
def finishIdle (s : Switchboard) : Switchboard :=
  s.sessions.foldl (fun s x =>
    if x.isIdle s.limits.idle s.bridge.now then s.finish x [.close] else s) s

/-- What the wallet of a session reads next. -/
def read (s : Switchboard) (number : Nat) : Switchboard × Option Outgoing :=
  match s.session? number with
  | none => (s, none)
  | some x =>
    match x.unread with
    | [] => (s, none)
    | o :: rest => (s.update { x with unread := rest }, some o)

/-! Runs that settle. -/

/-- Everything that can happen happens: the responses that have become known. -/
def settle (s : Switchboard) : Switchboard × List (Nat × Http.Response) :=
  let s := s.writeAll
  let (bridge, outcomes) := s.bridge.settle
  respond { s with bridge } outcomes

/-- The clock moves on, and everything settles. -/
def advance (s : Switchboard) (span : Span) : Switchboard × List (Nat × Http.Response) :=
  let (bridge, outcomes) := s.bridge.advance span
  let s := { s with bridge }.finishIdle
  let (s, responses) := s.respond outcomes
  let (s, more) := s.settle
  (s, responses ++ more)

end Switchboard

end PaymentRelay
