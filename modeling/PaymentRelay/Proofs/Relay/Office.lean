import PaymentRelay.Proofs.Bridge.Outcomes
import PaymentRelay.Proofs.Relay.Seats
import PaymentRelay.Relay.Basic

/-
  The relay with everybody who deals with it.

  An office is a switchboard together with what its clients and peers know of it: which invoice a
  request that waits is about and whose it is, and who has joined which channel. Peers and sessions
  are named by their channel and by how many were there before, so that a name does not depend on
  other channels. After each step everything settles. What can be seen of a step is labelled with
  the invoice that it belongs to.

  The responses of an office are those of the relay (`Relay.request`), and the rest is what the
  switchboard and the hub do.
-/

namespace PaymentRelay

/-- The invoice that a request is about. -/
def Http.Request.invoice? (q : Http.Request) : Option String :=
  match Http.Endpoint.ofPath? true q.path with
  | some (.payment id) => (Http.Endpoint.segment "paymentID" id).toOption
  | some (.proofs _) => q.reference.toOption
  | some (.wallets channel) => (Http.Endpoint.segment "channelKey" channel).toOption
  | some .health | none => none

/-- The switchboard with what clients and peers know of it. -/
structure Office where
  board : Switchboard
  /-- The channels of the peers that have joined the hub themselves, with their ids. -/
  joined : List (String × Nat)
  /-- The invoice and the client of each request that waits, under its number. -/
  asked : Nat → Option String × Nat

namespace Office

/-- What a peer does that has joined the hub itself. -/
inductive PeerAct where
  | leave
  | reply (m : Message)
  | receive

/-- What a wallet does at its end of a session. -/
inductive LineAct where
  /-- A frame, and the time it comes in. -/
  | frame (bytes : List UInt8) (now : Timestamp)
  | ping (content : List UInt8)
  | hangUp
  /-- The connection is lost. -/
  | cut
  | read

/-- Something that happens at an office. -/
inductive Step where
  /-- A request of a client, with what is made afresh for it. -/
  | request (client : Nat) (q : Http.Request) (stamp : Stamp)
  /-- A peer joins a channel of the hub itself. -/
  | join (channel : String)
  /-- One of the peers that have joined a channel, counted from the first. -/
  | peer (channel : String) (n : Nat) (act : PeerAct)
  /-- The wallet of one of the sessions of a channel, counted from the first. -/
  | line (channel : String) (n : Nat) (act : LineAct)
  | advance (span : Span)

/-- What can be seen of a step. -/
inductive Event where
  | response (client : Nat) (r : Http.Response)
  /-- A client is a wallet and is connected now. -/
  | connected (client : Nat)
  /-- A peer that has joined the hub itself receives a message. -/
  | received (n : Nat) (m : Message)
  /-- The wallet of a session reads something. -/
  | read (n : Nat) (o : Outgoing)

/-- An event with the invoice that it belongs to. -/
abbrev Report := Option String × Event

/-- The step is about an invoice. The clock is about all of them. -/
def Step.Concerns (k : String) : Step → Prop
  | .request _ q _ => q.invoice? = some k
  | .join channel => channel = k
  | .peer channel _ _ => channel = k
  | .line channel _ _ => channel = k
  | .advance _ => True

instance (k : String) (a : Step) : Decidable (a.Concerns k) :=
  match a with
  | .request _ q _ => inferInstanceAs (Decidable (q.invoice? = some k))
  | .join channel | .peer channel _ _ | .line channel _ _ =>
    inferInstanceAs (Decidable (channel = k))
  | .advance _ => inferInstanceAs (Decidable True)

@[simp] theorem Step.concerns_join {c k : String} : (Step.join c).Concerns k ↔ c = k := .rfl

@[simp] theorem Step.concerns_peer {c k : String} {n : Nat} {act : PeerAct} :
    (Step.peer c n act).Concerns k ↔ c = k := .rfl

/-- What an invoice gets to see. -/
def told (k : String) (reports : List Report) : List Event :=
  reports.filterMap fun r => if r.1 = some k then some r.2 else none

/-- The office when a switchboard has settled: the responses go to those who have asked. -/
def settled (o : Office) (x : Switchboard × List (Nat × Http.Response)) : Office × List Report :=
  ({ o with board := x.1 },
    x.2.map fun r => ((o.asked r.1).1, .response (o.asked r.1).2 r.2))

/-- The office with another hub. -/
def withHub (o : Office) (h : Hub) : Office := { o with board := o.board.withHub h }

/-- A client makes a request. -/
def request (o : Office) (client : Nat) (q : Http.Request) (stamp : Stamp) :
    Office × List Report :=
  match Relay.request (.sockets o.board) q stamp with
  | (.sockets board, .answer (.done r)) =>
    ({ o with board }, [(q.invoice?, .response client r)])
  | (.sockets board, .wait number) =>
    ({ o with board, asked := Function.update o.asked number (q.invoice?, client) }, [])
  | (.sockets board, .connected _) => ({ o with board }, [(q.invoice?, .connected client)])
  | _ => (o, [])

/-- A peer that has joined the hub itself does something. -/
def peerAct (o : Office) (channel : String) (n id : Nat) : PeerAct → Office × List Report
  | .leave => (o.withHub (o.board.bridge.hub.leave id), [])
  | .reply m => (o.withHub (o.board.bridge.hub.act (.reply id m)).1, [])
  | .receive =>
    match o.board.bridge.hub.act (.read id) with
    | (hub, .received (.message m)) => (o.withHub hub, [(some channel, .received n m)])
    | (hub, _) => (o.withHub hub, [])

/-- The wallet of a session does something. -/
def lineAct (o : Office) (channel : String) (n number : Nat) : LineAct → Office × List Report
  | .frame bytes now => ({ o with board := o.board.frame number bytes now }, [])
  | .ping content => ({ o with board := o.board.ping number content }, [])
  | .hangUp => ({ o with board := o.board.hangUp number }, [])
  | .cut => ({ o with board := o.board.cut number }, [])
  | .read =>
    match o.board.read number with
    | (board, some out) => ({ o with board }, [(some channel, .read n out)])
    | (board, none) => ({ o with board }, [])

/-- A step before everything settles. -/
def act (o : Office) : Step → Office × List Report
  | .request client q stamp => o.request client q stamp
  | .join channel =>
    ({ o.withHub (o.board.bridge.hub.join channel).1 with
        joined := o.joined ++ [(channel, (o.board.bridge.hub.join channel).2)] }, [])
  | .peer channel n act =>
    match (peersOf o.joined channel)[n]? with
    | some id => o.peerAct channel n id act
    | none => (o, [])
  | .line channel n act =>
    match (linesOf o.board.sessions channel)[n]? with
    | some x => o.lineAct channel n x.number act
    | none => (o, [])
  | .advance _ => (o, [])

/-- The office as a machine: a step, and then everything settles. -/
def step : Machine Office Step (List Report) := fun o a =>
  match a with
  | .advance span => o.settled (o.board.advance span)
  | a =>
    let x := o.act a
    let y := x.1.settled x.1.board.settle
    (y.1, x.2 ++ y.2)

/-- An office that nobody has dealt with. -/
def new (capacity limit : Nat) (limits : Limits) (sweepers : List Sweeper) : Office where
  board :=
    let board := Switchboard.new (.new capacity limit) limits
    { board with bridge := { board.bridge with sweepers } }
  joined := []
  asked := fun _ => (none, 0)

end Office

end PaymentRelay
