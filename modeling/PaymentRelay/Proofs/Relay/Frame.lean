import PaymentRelay.Proofs.Hub.Members
import PaymentRelay.Relay.Switchboard

/-
  Which frames of a wallet reach the streams of replies.

  Two tests of size stand between a wallet and the streams. The first looks at the bytes of the
  frame as they came, the second is that of the hub and looks at the message as the relay writes
  it: with all its fields, a time of its own if the wallet gave none, and the channel of the
  connection in place of the one that was claimed. They look at different texts, and a short frame
  may be a long message (`short_frame_lost`). So under a common limit a frame that passes the first
  test reaches all streams or none, as the second one has it (`frame_reaches_streams`).
-/

namespace PaymentRelay

namespace Hub

/-- Where there is no stream, all of them have got a reply. -/
theorem spread_nobody {h : Hub} (nobody : h.streams = []) (m : Message) : h.spread m = h := by
  rw [spread, nobody, List.map_nil, ← nobody]

/-- A reply that is too large goes nowhere, and any other one to every stream, if there are any. -/
theorem reply_eq (h : Hub) (p : Peer) (m : Message) :
    (h.reply p m).1 =
      if h.limit < (m.stamped p.channel).size then h else h.spread (m.stamped p.channel) := by
  have answer := h.reply_answer p m
  obtain ⟨⟨e, failed⟩, same⟩ | ⟨ok, sent⟩ := h.reply_cases p m
  · rw [same]
    rw [failed] at answer
    split
    · rfl
    · next fits =>
      rw [if_neg fits] at answer
      split at answer
      · next nobody => rw [spread_nobody nobody]
      · cases answer
  · rw [sent]
    rw [ok] at answer
    split
    · next large =>
      rw [if_pos large] at answer
      cases answer
    · rfl

end Hub

namespace Frame

/-- What a frame is: the message it holds, on the channel of its connection, if it is small enough
and holds one. -/
theorem read?_eq_some_iff {limit : Nat} {channel : String} {now : Timestamp} {bytes : List UInt8}
    {m : Message} :
    read? limit channel now bytes = some m ↔
      bytes.length ≤ limit ∧ ∃ m', decode now bytes = .ok m' ∧ m'.stamped channel = m := by
  rw [read?]
  by_cases large : limit < bytes.length
  · simp [large, Nat.not_le.mpr large]
  · rw [if_neg large]
    cases decoded : decode now bytes with
    | error e => simp [Except.toOption]
    | ok m' => simp [Except.toOption, Nat.le_of_not_lt large]

end Frame

namespace Switchboard

@[simp] theorem withHub_hub (s : Switchboard) (h : Hub) : (s.withHub h).bridge.hub = h := rfl

theorem withHub_limits (s : Switchboard) (h : Hub) : (s.withHub h).limits = s.limits := rfl

@[simp] theorem update_bridge (s : Switchboard) (x : Session) :
    (s.update x).bridge = s.bridge := rfl

@[simp] theorem update_limits (s : Switchboard) (x : Session) :
    (s.update x).limits = s.limits := rfl

/-- A session is open, and its peer has joined its channel. -/
structure Connected (s : Switchboard) (number : Nat) (x : Session) (p : Peer) : Prop where
  isOpen : s.open? number = some x
  found : s.bridge.hub.peer? x.peer = some p
  channel : p.channel = x.channel

section
variable {s : Switchboard} {number : Nat} {x : Session} {p : Peer} {bytes : List UInt8}
  {now : Timestamp} {m : Message}

/-- What a frame does at the hub is what its reply does, if it is one. -/
theorem Connected.hub_frame (connected : s.Connected number x p) :
    (s.frame number bytes now).bridge.hub =
      match Frame.read? s.limits.frame x.channel now bytes with
      | some m => (s.bridge.hub.reply p m).1
      | none => s.bridge.hub := by
  simp only [frame, connected.isOpen, update_limits]
  cases Frame.read? s.limits.frame x.channel now bytes with
  | none => rfl
  | some m =>
    simp only [reply, update_bridge, connected.found, withHub_hub]

theorem read?_of_decode (small : bytes.length ≤ s.limits.frame)
    (decoded : Frame.decode now bytes = .ok m) :
    Frame.read? s.limits.frame x.channel now bytes = some (m.stamped x.channel) :=
  Frame.read?_eq_some_iff.mpr ⟨small, m, decoded, rfl⟩

/-- A frame that is not dropped goes to every stream if the message that it is fits, as the relay
writes it. -/
theorem Connected.hub_message (connected : s.Connected number x p)
    (small : bytes.length ≤ s.limits.frame) (decoded : Frame.decode now bytes = .ok m) :
    (s.frame number bytes now).bridge.hub =
      if s.bridge.hub.limit < (m.stamped x.channel).size then s.bridge.hub
      else s.bridge.hub.spread (m.stamped x.channel) := by
  have twice : (m.stamped x.channel).stamped p.channel = m.stamped x.channel := by
    rw [connected.channel]
    rfl
  rw [connected.hub_frame, read?_of_decode small decoded]
  simp only [Hub.reply_eq, twice]

/-- A frame that is dropped changes nothing at the hub. -/
theorem Connected.hub_dropped (connected : s.Connected number x p)
    (dropped : s.limits.frame < bytes.length ∨ ∃ e, Frame.decode now bytes = .error e) :
    (s.frame number bytes now).bridge.hub = s.bridge.hub := by
  have unread : Frame.read? s.limits.frame x.channel now bytes = none := by
    rw [Frame.read?]
    split
    · rfl
    · next small =>
      obtain large | ⟨e, malformed⟩ := dropped
      · exact absurd large small
      · rw [malformed]
        rfl
  rw [connected.hub_frame, unread]

end

/-- Where the connections and the hub have one limit, a frame within it that holds a message reaches
every stream if the message is within the limit as the relay writes it, and else none; nor does
any other frame. -/
theorem frame_reaches_streams (s : Switchboard) (number : Nat) (x : Session) (p : Peer)
    (bytes : List UInt8) (now : Timestamp) (connected : s.Connected number x p)
    (same : s.bridge.hub.limit = s.limits.frame) (capacity : 0 < s.bridge.hub.capacity) :
    let h := s.bridge.hub
    let h' := (s.frame number bytes now).bridge.hub
    (∀ m, bytes.length ≤ s.limits.frame → Frame.decode now bytes = .ok m →
      (m.stamped x.channel).size ≤ s.limits.frame →
        h' = h.spread (m.stamped x.channel) ∧
          ∀ stream ∈ h.streams, ∃ stream' ∈ h'.streams, stream'.id = stream.id ∧
            stream'.unread.getLast? = some (m.stamped x.channel)) ∧
    (∀ m, bytes.length ≤ s.limits.frame → Frame.decode now bytes = .ok m →
      s.limits.frame < (m.stamped x.channel).size → h' = h) ∧
    ((s.limits.frame < bytes.length ∨ ∃ e, Frame.decode now bytes = .error e) → h' = h) := by
  refine ⟨fun m small decoded fits => ?_, fun m small decoded large => ?_, connected.hub_dropped⟩
  · rw [connected.hub_message small decoded, same, if_neg (Nat.not_lt.mpr fits)]
    refine ⟨rfl, fun stream there => ⟨_, List.mem_map_of_mem there, rfl, ?_⟩⟩
    have kept : stream.unread.length + 1 - s.bridge.hub.capacity ≤ stream.unread.length := by omega
    rw [enqueue, List.drop_append_of_le_length kept, List.getLast?_concat]
  · rw [connected.hub_message small decoded, same, if_pos large]

/-- A relay with one limit for frames and messages, and a wallet that has connected. -/
def wired (limit : Nat) : Switchboard :=
  ((new (.new 4 limit) ⟨.ofSeconds 10, limit, .ofSeconds 7200⟩).connect "inv-1").1

theorem connected_wired (limit : Nat) :
    (wired limit).Connected 0 (.new 0 1 "inv-1" .start) ⟨1, "inv-1", []⟩ :=
  ⟨rfl, rfl, rfl⟩

/-- A frame of 41 bytes. -/
def shortFrame : List UInt8 :=
  Utf8.bytes "\x7b\"key\":\"payment.ack\",\"channelId\":\"inv-1\"\x7d"

theorem length_shortFrame : shortFrame.length = 41 := by decide +kernel

/-- The relay writes the message of the short frame in 131 bytes. -/
theorem decode_shortFrame :
    ∃ m, Frame.decode .epoch shortFrame = .ok m ∧ (m.stamped "inv-1").size = 131 := by
  have size : ((Frame.decode .epoch shortFrame).toOption.map fun m => (m.stamped "inv-1").size) =
      some 131 := by decide +kernel
  cases decoded : Frame.decode .epoch shortFrame with
  | error e =>
    rw [decoded] at size
    cases size
  | ok m =>
    rw [decoded] at size
    exact ⟨m, rfl, Option.some.inj size⟩

/-- Under the limit 200 the message of the short frame reaches the stream of the listener. -/
theorem frame_reaches_streams_listener :
    ∃ m, Frame.decode .epoch shortFrame = .ok m ∧
      ∃ stream ∈ ((wired 200).frame 0 shortFrame .epoch).bridge.hub.streams,
        stream.unread.getLast? = some (m.stamped "inv-1") := by
  obtain ⟨m, decoded, size⟩ := decode_shortFrame
  have small : shortFrame.length ≤ 200 := by rw [length_shortFrame]; decide
  have fits : (m.stamped "inv-1").size ≤ 200 := by rw [size]; decide
  obtain ⟨_, reached⟩ := (frame_reaches_streams (wired 200) 0 _ _ shortFrame .epoch
    (connected_wired 200) rfl (Hub.capacity_pos 4 200)).1 m small decoded fits
  obtain ⟨stream, there, _, last⟩ := reached ⟨0, []⟩ (List.mem_singleton_self _)
  exact ⟨m, decoded, stream, there, last⟩

/-- Under the limit 100 the short frame is within the limit and holds a message, and reaches
nobody. -/
theorem short_frame_lost :
    (wired 100).bridge.hub.limit = (wired 100).limits.frame ∧
      shortFrame.length ≤ (wired 100).limits.frame ∧
      (∃ m, Frame.decode .epoch shortFrame = .ok m) ∧
      ((wired 100).frame 0 shortFrame .epoch).bridge.hub.streams = [⟨0, []⟩] := by
  obtain ⟨m, decoded, size⟩ := decode_shortFrame
  have small : shortFrame.length ≤ 100 := by rw [length_shortFrame]; decide
  have large : 100 < (m.stamped "inv-1").size := by rw [size]; decide
  refine ⟨rfl, small, ⟨m, decoded⟩, ?_⟩
  have lost : ((wired 100).frame 0 shortFrame .epoch).bridge.hub = (wired 100).bridge.hub :=
    ((connected_wired 100).hub_message small decoded).trans (if_pos large)
  rw [lost]
  rfl

end Switchboard

end PaymentRelay
