import PaymentRelay.Bus.Message
import PaymentRelay.Bus.Error

/-
  The hub: channels, the peers that have joined them, and the streams of replies.

  Every peer and every stream has a queue of its own that holds the last messages, as many as the
  capacity; a receiver that falls further behind loses the oldest. A message is published to the
  peers of one channel, a reply goes to every stream. The hub also keeps a directory of the
  channels with the number of their members, and a channel is in it as long as it has any.

  A channel itself keeps one buffer for all who are on it, and a position in it for each. That it
  keeps the last messages, as many as the capacity, tells a receiver that it has fallen behind and
  puts it at the oldest that is left, is taken as given; a receiver that is told so looks again.
  The queues are what this comes to (`Hub.receivers_read_by_position`).
-/

namespace PaymentRelay

/-- A queue that holds at most `capacity` messages and gives up the oldest for a new one. -/
def enqueue (capacity : Nat) (queue : List Message) (m : Message) : List Message :=
  (queue ++ [m]).drop (queue.length + 1 - capacity)

/-- A member of a channel, with the messages it has not read. -/
structure Peer where
  id : Nat
  channel : String
  unread : List Message

/-- A receiver of replies, with those it has not read. -/
structure Stream where
  id : Nat
  unread : List Message

/-- The channels that have members, with their number. -/
structure Directory where
  counts : List (String × Nat)

namespace Directory

/-- The number of members of a channel. -/
def members (d : Directory) (channel : String) : Nat := (Dict.lookup channel d.counts).getD 0

/-- One more member. -/
def enter (d : Directory) (channel : String) : Directory :=
  ⟨Dict.put channel (d.members channel + 1) d.counts⟩

/-- One member less; a channel without members is dropped. -/
def leave (d : Directory) (channel : String) : Directory :=
  match d.members channel with
  | 0 | 1 => ⟨d.counts.filter fun e => e.1 ≠ channel⟩
  | n + 2 => ⟨Dict.put channel (n + 1) d.counts⟩

/-- The number of channels. -/
def count (d : Directory) : Nat := d.counts.length

end Directory

/-- The hub with everything that has joined it. -/
structure Hub where
  /-- How many unread messages are kept for each receiver. -/
  capacity : Nat
  /-- The largest size of a message in bytes. -/
  limit : Nat
  /-- The hub itself is still there; peers and streams may outlive it. -/
  isOpen : Bool
  directory : Directory
  peers : List Peer
  streams : List Stream
  /-- How many messages were published to anyone. -/
  published : Nat
  nextId : Nat

/-- What a receiver finds. -/
inductive Received where
  | message (m : Message)
  /-- Nothing yet. -/
  | empty
  /-- Nothing any more. -/
  | closed

namespace Hub

/-- The capacity and the limit a hub has unless told otherwise. -/
def defaultCapacity : Nat := 256
def defaultLimit : Nat := 10000

/-- A hub that nobody has joined. The capacity is rounded up to a power of two. -/
def new (capacity limit : Nat) : Hub :=
  ⟨capacity.nextPowerOfTwo, limit, true, ⟨[]⟩, [], [], 0, 0⟩

/-- The peer with an id. -/
def peer? (h : Hub) (id : Nat) : Option Peer := h.peers.find? fun p => p.id = id

/-- The stream with an id. -/
def stream? (h : Hub) (id : Nat) : Option Stream := h.streams.find? fun s => s.id = id

/-- A new peer on a channel, and its id. -/
def join (h : Hub) (channel : String) : Hub × Nat :=
  ({ h with
      directory := h.directory.enter channel
      peers := h.peers ++ [⟨h.nextId, channel, []⟩]
      nextId := h.nextId + 1 }, h.nextId)

/-- A peer leaves its channel, with all it has not read. -/
def leave (h : Hub) (id : Nat) : Hub :=
  match h.peer? id with
  | none => h
  | some p =>
    { h with
      directory := h.directory.leave p.channel
      peers := h.peers.filter fun q => q.id ≠ id }

/-- A new stream of replies, and its id. -/
def subscribe (h : Hub) : Hub × Nat :=
  ({ h with streams := h.streams ++ [⟨h.nextId, []⟩], nextId := h.nextId + 1 }, h.nextId)

/-- A stream of replies is given up. -/
def unsubscribe (h : Hub) (id : Nat) : Hub :=
  { h with streams := h.streams.filter fun s => s.id ≠ id }

/-- The size of a message is within the limit. -/
def checkSize (h : Hub) (m : Message) : Except BusError Unit :=
  if h.limit < m.size then .error (.tooLarge m.size h.limit) else .ok ()

/-- Gives a message to every peer of a channel. -/
def deliver (h : Hub) (channel : String) (m : Message) : List Peer :=
  h.peers.map fun p =>
    if p.channel = channel then { p with unread := enqueue h.capacity p.unread m } else p

/-- The number of peers that a message for a channel reaches. -/
def reach (h : Hub) (channel : String) : Nat :=
  (h.peers.filter fun p => p.channel = channel).length

/-- Publishes a message to a channel: the number of peers reached. -/
def publish (h : Hub) (channel : String) (m : Message) : Hub × Except BusError Nat :=
  match h.checkSize m with
  | .error e => (h, .error e)
  | .ok () =>
    if h.directory.members channel = 0 ∨ h.reach channel = 0 then
      (h, .error (.channelNotFound channel))
    else
      ({ h with peers := h.deliver channel m, published := h.published + 1 },
        .ok (h.reach channel))

/-- A reply of a peer, stamped with the channel of the peer, whatever it claims. -/
def reply (h : Hub) (p : Peer) (m : Message) : Hub × Except BusError Unit :=
  let m := m.stamped p.channel
  match h.checkSize m with
  | .error e => (h, .error e)
  | .ok () =>
    if h.streams.isEmpty then (h, .error .closed)
    else
      ({ h with
          streams := h.streams.map fun s => { s with unread := enqueue h.capacity s.unread m } },
        .ok ())

/-- What a peer finds. Its channel lives as long as the peer itself, so it never closes. -/
def receive (h : Hub) (p : Peer) : Hub × Received :=
  match p.unread with
  | [] => (h, .empty)
  | m :: rest =>
    ({ h with peers := h.peers.map fun q => if q.id = p.id then { q with unread := rest } else q },
      .message m)

/-- What a stream finds. It is closed when it is drained and nobody is left to reply. -/
def receiveReply (h : Hub) (s : Stream) : Hub × Received :=
  match s.unread with
  | [] => (h, if h.isOpen || !h.peers.isEmpty then .empty else .closed)
  | m :: rest =>
    ({ h with
        streams := h.streams.map fun t => if t.id = s.id then { t with unread := rest } else t },
      .message m)

/-- The hub itself goes. -/
def close (h : Hub) : Hub := { h with isOpen := false }

end Hub

end PaymentRelay
