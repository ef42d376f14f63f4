import PaymentRelay.Proofs.Machine
import PaymentRelay.Proofs.Relay.Connection

/-
  What the frames of a wallet put on the streams of replies.

  As long as a connection is open, frames of any bytes may come, pings, and messages for its
  channel. A reader of replies that looks at its stream after every step finds out what the
  connection has put there. Each step is answered by itself (`Connected.run`): a frame by the
  message that it holds, on the channel of the connection, and everything else by nothing. For a
  frame that is no reply only moves the session's clock (`Connected.undergo_dropped`), one that is a
  reply also adds to the streams and to nothing else (`Connected.undergo_put`), and the session
  stays open on its channel whatever comes (`Connected.undergo`).
-/

namespace PaymentRelay

/-- What may happen to a connection. -/
inductive Traffic where
  | text (content : String) (now : Timestamp)
  | binary (content : List UInt8) (now : Timestamp)
  | ping (content : List UInt8)
  | publish (channel : String) (m : Message)
  /-- What waits for the peer is written to the wallet. -/
  | write

namespace Traffic

/-- The bytes of a frame, and when it comes. -/
def frame? : Traffic → Option (List UInt8 × Timestamp)
  | text content now => some (Utf8.bytes content, now)
  | binary content now => some (content, now)
  | _ => none

/-- The message that a frame within the limit holds, on the channel of its connection. -/
def reply? (limit : Nat) (channel : String) (a : Traffic) : Option Message :=
  a.frame?.bind fun (bytes, now) =>
    if bytes.length ≤ limit then
      (Frame.decode now bytes).toOption.map fun m => m.stamped channel
    else none

/-- The message that a frame puts on the streams: it is also within the limit of the hub, as the
relay writes it. -/
def put? (limit hubLimit : Nat) (channel : String) (a : Traffic) : Option Message :=
  (a.reply? limit channel).filter fun m => m.size ≤ hubLimit

end Traffic

namespace Switchboard

/-- The switchboard after something has happened to the connection with a number. -/
def undergo (s : Switchboard) (number : Nat) : Traffic → Switchboard
  | .text content now => s.frame number (Utf8.bytes content) now
  | .binary content now => s.frame number content now
  | .ping content => s.ping number content
  | .publish channel m => s.withHub (s.bridge.hub.publish channel m).1
  | .write =>
    match s.open? number with
    | none => s
    | some x => s.write x

/-- A reader of replies looks at its stream. -/
def hear (s : Switchboard) (id : Nat) : Switchboard × Option Message :=
  match s.bridge.hub.stream? id with
  | none => (s, none)
  | some r =>
    match s.bridge.hub.receiveReply r with
    | (hub, .message m) => (s.withHub hub, some m)
    | _ => (s, none)

/-- Something happens to a connection, and then a reader looks at its stream. -/
def attended (number id : Nat) : Machine Switchboard Traffic (Option Message) := fun s a =>
  (s.undergo number a).hear id

variable {s : Switchboard} {number id : Nat} {x : Session} {p : Peer} {a : Traffic} {m : Message}

/-! ## One step -/

theorem undergo_of_frame {bytes : List UInt8} {now : Timestamp}
    (framed : a.frame? = some (bytes, now)) :
    s.undergo number a = s.frame number bytes now := by
  cases a <;> cases framed <;> rfl

/-- A frame is judged as the connection does it. -/
theorem put?_of_frame {bytes : List UInt8} {now : Timestamp} {limit hubLimit : Nat}
    {channel : String} (framed : a.frame? = some (bytes, now)) :
    a.put? limit hubLimit channel =
      (Frame.read? limit channel now bytes).filter fun m => m.size ≤ hubLimit := by
  rw [Traffic.put?, Traffic.reply?, framed, Frame.read?]
  by_cases large : limit < bytes.length
  · simp [large, Nat.not_le.mpr large]
  · simp [large, Nat.le_of_not_lt large]

/-- A frame that is no reply is traffic of its session, and nothing else. -/
theorem Connected.undergo_dropped (connected : s.Connected number x p)
    (framed : a.frame?.isSome = true)
    (nothing : a.put? s.limits.frame s.bridge.hub.limit x.channel = none) :
    s.undergo number a = s.update (x.touch s.bridge.now) := by
  obtain ⟨⟨bytes, now⟩, framed⟩ := Option.isSome_iff_exists.mp framed
  rw [put?_of_frame framed] at nothing
  rw [undergo_of_frame framed, connected.frame_eq, nothing]

/-- A frame that is a reply goes to every stream. -/
theorem Connected.undergo_put (connected : s.Connected number x p)
    (put : a.put? s.limits.frame s.bridge.hub.limit x.channel = some m) :
    s.undergo number a =
      (s.update (x.touch s.bridge.now)).withHub (s.bridge.hub.spread m) := by
  cases framed : a.frame? with
  | none =>
    rw [Traffic.put?, Traffic.reply?, framed] at put
    cases put
  | some f =>
    obtain ⟨bytes, now⟩ := f
    rw [put?_of_frame framed] at put
    rw [undergo_of_frame framed, connected.frame_eq, put]

/-- Anything else leaves the streams alone. -/
theorem Connected.undergo_other (connected : s.Connected number x p) (other : a.frame? = none) :
    s.bridge.hub.Requeued (s.undergo number a).bridge.hub ∧
      (s.undergo number a).limits = s.limits ∧
      ∃ x' p', (s.undergo number a).Connected number x' p' ∧ x'.channel = x.channel := by
  cases a with
  | text | binary => cases other
  | ping content =>
    rw [undergo, connected.ping_eq]
    exact ⟨.refl _, rfl, _, p, connected.update _ _, rfl⟩
  | publish channel m =>
    have requeued := s.bridge.hub.requeued_publish channel m
    obtain ⟨p', connected⟩ := connected.withHub requeued.badges
    rw [undergo, withHub_hub, withHub_limits]
    exact ⟨requeued, rfl, x, p', connected, rfl⟩
  | write =>
    simp only [undergo, connected.isOpen]
    obtain ⟨p', later⟩ := connected.write
    obtain ⟨hub, written, requeued⟩ := write_cases connected.found
    refine ⟨?_, ?_, _, p', later, rfl⟩
    · rw [written, update_bridge, withHub_hub]
      exact requeued
    · rw [written]
      rfl

/-- Whatever happens, the session stays open on its channel, and the streams get what is put
there. -/
theorem Connected.undergo (connected : s.Connected number x p) (a : Traffic) :
    (∃ x' p', (s.undergo number a).Connected number x' p' ∧ x'.channel = x.channel) ∧
      (s.undergo number a).limits = s.limits ∧
      match a.put? s.limits.frame s.bridge.hub.limit x.channel with
      | some m => (s.undergo number a).bridge.hub = s.bridge.hub.spread m
      | none => s.bridge.hub.Requeued (s.undergo number a).bridge.hub := by
  cases put : a.put? s.limits.frame s.bridge.hub.limit x.channel with
  | some m =>
    rw [connected.undergo_put put]
    have badges : (s.bridge.hub.spread m).badges = s.bridge.hub.badges := rfl
    obtain ⟨p', spread⟩ := (connected.update s.bridge.now x.unread).withHub badges
    exact ⟨⟨_, p', spread, rfl⟩, rfl, rfl⟩
  | none =>
    cases framed : a.frame? with
    | none =>
      obtain ⟨requeued, limits, later⟩ := connected.undergo_other framed
      exact ⟨later, limits, requeued⟩
    | some f =>
      rw [connected.undergo_dropped (by rw [framed]; rfl) put]
      exact ⟨⟨_, p, connected.update _ _, rfl⟩, rfl, .refl _⟩

/-! ## The reader -/

/-- A reader that has read everything finds nothing. -/
theorem hear_nothing {r : Stream} (there : s.bridge.hub.stream? id = some r)
    (drained : r.unread = []) : s.hear id = (s, none) := by
  simp only [hear, there, Hub.receiveReply, drained]
  cases s.bridge.hub.isOpen || !s.bridge.hub.peers.isEmpty <;> rfl

/-- A reader finds the only reply that waits for it. -/
theorem hear_single {r : Stream} (there : s.bridge.hub.stream? id = some r)
    (single : r.unread = [m]) : s.hear id = (s.withHub (s.bridge.hub.tapped id []), some m) := by
  have own : r.id = id := (Hub.mem_of_stream? there).2
  simp only [hear, there, Hub.receiveReply, single, own]
  rfl

/-! ## Runs -/

/-- A connection to a channel is open, under some limits for frames and messages, and a reader has
read all replies. -/
structure Attended (number id : Nat) (channel : String) (limit hubLimit : Nat) (s : Switchboard) :
    Prop where
  connected : ∃ x p, s.Connected number x p ∧ x.channel = channel
  drained : ∃ r, s.bridge.hub.stream? id = some r ∧ r.unread = []
  capacity : 0 < s.bridge.hub.capacity
  limit : s.limits.frame = limit
  hubLimit : s.bridge.hub.limit = hubLimit

section
variable {channel : String} {limit hubLimit : Nat}

/-- A step of an attended connection is answered by what it puts on the streams. -/
theorem Attended.step (attends : s.Attended number id channel limit hubLimit) (a : Traffic) :
    (attended number id s a).1.Attended number id channel limit hubLimit ∧
      (attended number id s a).2 = a.put? limit hubLimit channel := by
  obtain ⟨⟨x, p, connected, rfl⟩, ⟨r, there, drained⟩, capacity, rfl, rfl⟩ := attends
  obtain ⟨⟨x', p', later, channel⟩, limits, put⟩ := connected.undergo a
  rw [attended]
  split at put
  -- The stream was empty, so what was put there is all that the reader finds, and it has read
  -- everything again. If nothing was put there, the hub is the same for the reader.
  · next m replied =>
    have waits : (s.undergo number a).bridge.hub.stream? id =
        some { r with unread := enqueue s.bridge.hub.capacity r.unread m } := by
      rw [put, Hub.stream?_spread, there]
      rfl
    have single : enqueue s.bridge.hub.capacity r.unread m = [m] := by
      rw [drained, enqueue_nil capacity]
    have badges : ((s.bridge.hub.spread m).tapped id []).badges =
        (s.undergo number a).bridge.hub.badges := by
      rw [put]
      rfl
    obtain ⟨p'', heard⟩ := later.withHub badges
    have read : ((s.bridge.hub.spread m).tapped id []).stream? id =
        some { r with unread := [] } := by
      have own : r.id = id := (Hub.mem_of_stream? there).2
      rw [Hub.stream?_tapped, ← put, waits, Option.map_some, if_pos own]
    rw [hear_single waits single, put, replied]
    refine ⟨⟨⟨x', p'', heard, channel⟩, ⟨_, read, rfl⟩, capacity, ?_, rfl⟩, rfl⟩
    rw [withHub_limits, limits]
  · next refused =>
    obtain ⟨peers, published, requeued, -⟩ := put
    have same : (s.undergo number a).bridge.hub.stream? id = some r := by
      rw [requeued]
      exact there
    rw [hear_nothing same drained, refused]
    refine ⟨⟨⟨x', p', later, channel⟩, ⟨r, same, drained⟩, ?_, ?_, ?_⟩, rfl⟩
    · rw [requeued]
      exact capacity
    · rw [limits]
    · rw [requeued]

/-- In a run every step is answered by itself. -/
theorem Attended.run (attends : s.Attended number id channel limit hubLimit)
    (steps : List Traffic) :
    ((attended number id).after s steps).Attended number id channel limit hubLimit ∧
      (attended number id).transcript s steps =
        steps.map fun a => (a, a.put? limit hubLimit channel) := by
  induction steps generalizing s with
  | nil => exact ⟨attends, rfl⟩
  | cons a rest ih =>
    obtain ⟨later, answer⟩ := attends.step a
    obtain ⟨at_end, answers⟩ := ih later
    refine ⟨at_end, ?_⟩
    rw [Machine.transcript, answers, answer, List.map_cons]

/-- A frame that puts nothing on the streams leaves the bridge and the requests that wait as they
are. -/
theorem Attended.dropped (attends : s.Attended number id channel limit hubLimit)
    (framed : a.frame?.isSome = true) (nothing : a.put? limit hubLimit channel = none) :
    (attended number id s a).1.bridge = s.bridge ∧ (attended number id s a).1.jobs = s.jobs := by
  obtain ⟨⟨x, p, connected, rfl⟩, ⟨r, there, drained⟩, -, rfl, rfl⟩ := attends
  have heard : (s.update (x.touch s.bridge.now)).hear id = _ := hear_nothing there drained
  rw [attended, connected.undergo_dropped framed nothing, heard]
  exact ⟨rfl, rfl⟩

end

/-- What a connection puts on the streams of replies, as a reader finds it who looks after each
step: every frame is judged by itself. The messages are some of those that the frames within the
limit hold, in their order, with the channel of the connection; the connection stays open
throughout, and at every point a frame that puts nothing there leaves the bridge and the requests
that wait as they are. -/
theorem frames_on_streams {r : Stream} (connected : s.Connected number x p)
    (capacity : 0 < s.bridge.hub.capacity) (there : s.bridge.hub.stream? id = some r)
    (drained : r.unread = []) (steps : List Traffic) :
    let put := fun a : Traffic => a.put? s.limits.frame s.bridge.hub.limit x.channel
    let log := (attended number id).transcript s steps
    let t := (attended number id).after s steps
    log = steps.map (fun a => (a, put a)) ∧
      (log.filterMap fun e => e.2).Sublist
        (steps.filterMap fun a => a.reply? s.limits.frame x.channel) ∧
      (∃ x' p', t.Connected number x' p' ∧ x'.channel = x.channel) ∧
      ∀ a : Traffic, a.frame?.isSome = true → put a = none →
        (attended number id t a).1.bridge = t.bridge ∧
          (attended number id t a).1.jobs = t.jobs := by
  intro put log t
  have attends : s.Attended number id x.channel s.limits.frame s.bridge.hub.limit :=
    ⟨⟨x, p, connected, rfl⟩, ⟨r, there, drained⟩, capacity, rfl, rfl⟩
  obtain ⟨at_end, answers⟩ := attends.run steps
  refine ⟨answers, ?_, at_end.connected, fun a framed nothing => at_end.dropped framed nothing⟩
  have put_eq : (log.filterMap fun e => e.2) =
      (steps.filterMap fun a => a.reply? s.limits.frame x.channel).filter
        fun m => m.size ≤ s.bridge.hub.limit := by
    calc (log.filterMap fun e => e.2)
        = steps.filterMap put := by rw [show log = _ from answers, List.filterMap_map]; rfl
      _ = _ := by rw [List.filter_filterMap]; rfl
  rw [put_eq]
  exact List.filter_sublist

/-- What happens to the wallet of `wired`: a ping, a frame that is not even UTF-8, the short frame,
and a message that is written to it. -/
def mixedTraffic : List Traffic :=
  [.ping [], .binary [0xFF] .epoch, .binary shortFrame .epoch,
    .publish "inv-1" (.new "payment" "inv-1" .epoch), .write]

/-- The short frame alone puts something on the stream of the listener. -/
theorem frames_on_streams_mixed :
    ∃ m, Frame.decode .epoch shortFrame = .ok m ∧
      ((attended 0 0).transcript (wired 200) mixedTraffic).filterMap (fun e => e.2) =
        [m.stamped "inv-1"] := by
  obtain ⟨m, decoded, size⟩ := decode_shortFrame
  have small : shortFrame.length ≤ 200 := by rw [length_shortFrame]; decide
  have fits : (m.stamped "inv-1").size ≤ 200 := by rw [size]; decide
  have broken : (Frame.decode .epoch [0xFF]).toOption = none := by
    rw [← Option.isNone_iff_eq_none]
    decide +kernel
  have refused : (Traffic.binary [0xFF] .epoch).put? 200 200 "inv-1" = none := by
    rw [put?_of_frame rfl, Frame.read?, broken]
    rfl
  have taken : (Traffic.binary shortFrame .epoch).put? 200 200 "inv-1" =
      some (m.stamped "inv-1") := by
    have read : Frame.read? 200 "inv-1" .epoch shortFrame = some (m.stamped "inv-1") :=
      Frame.read?_eq_some_iff.mpr ⟨small, m, decoded, rfl⟩
    rw [put?_of_frame rfl, read, Option.filter_some, if_pos (decide_eq_true fits)]
  have there : (wired 200).bridge.hub.stream? 0 = some ⟨0, []⟩ := rfl
  obtain ⟨answers, -⟩ := frames_on_streams (connected_wired 200) (Hub.capacity_pos 4 200) there rfl
    mixedTraffic
  refine ⟨m, decoded, ?_⟩
  rw [answers, List.filterMap_map, mixedTraffic]
  show List.filterMap (fun a : Traffic => a.put? 200 200 "inv-1") _ = _
  rw [List.filterMap_cons_none rfl, List.filterMap_cons_none refused,
    List.filterMap_cons_some taken]
  rfl

end Switchboard

end PaymentRelay
