import PaymentRelay.Proofs.Relay.Frame

/-
  What a connection does to the switchboard.

  A wallet that is connected has an open session and a peer on its channel
  (`Switchboard.Connected`). A frame is at most a reply that is spread to the streams
  (`Connected.frame_eq`), a ping only concerns the session, and what is written to the wallet is
  what waits for its peer (`Switchboard.write_eq`). None of this ends the session or takes the peer
  from its channel.
-/

namespace PaymentRelay

/-! ## The hub -/

namespace Hub

variable {h h' h'' : Hub} {id : Nat} {p : Peer} {channel : String} {m : Message}

/-- A hub that differs in what waits for the peers and in the count of messages alone. -/
def Requeued (h h' : Hub) : Prop :=
  ∃ peers published, h' = { h with peers, published } ∧ h'.badges = h.badges

theorem Requeued.refl (h : Hub) : h.Requeued h := ⟨h.peers, h.published, rfl, rfl⟩

theorem requeued_publish (h : Hub) (channel : String) (m : Message) :
    h.Requeued (h.publish channel m).1 := by
  obtain ⟨peers, published, eq, badges⟩ := h.publish_eq channel m
  exact ⟨peers, published, eq, by rw [eq, badges]⟩

theorem Requeued.badges (requeued : h.Requeued h') : h'.badges = h.badges := by
  obtain ⟨_, _, -, badges⟩ := requeued
  exact badges

/-- A peer that is there stays on its channel. -/
theorem peer?_of_badges (badges : h'.badges = h.badges) (found : h.peer? id = some p) :
    ∃ p', h'.peer? id = some p' ∧ p'.channel = p.channel := by
  have badge (h : Hub) : h.badges.find? (fun b => b.1 = id) =
      (h.peer? id).map fun p => (p.id, p.channel) := by
    rw [Hub.badges, List.find?_map]
    rfl
  have same := badge h'
  rw [badges, badge h, found] at same
  obtain ⟨p', there, eq⟩ := Option.map_eq_some_iff.mp same.symm
  exact ⟨p', there, (Prod.mk.inj eq).2⟩

/-- A message that was published is within the limit and the last that a peer of its channel has
not read. -/
theorem publish_reached {n : Nat} (published : h.publish channel m = (h', .ok n))
    (found : h.peer? id = some p) (joined : p.channel = channel) (capacity : 0 < h.capacity) :
    m.size ≤ h.limit ∧ ∃ p', h'.peer? id = some p' ∧ p'.unread.getLast? = some m := by
  refine ⟨?_, ?_⟩
  · rw [publish, checkSize] at published
    split at published
    · cases published
    · next fits =>
      split at fits
      · cases fits
      · next small => exact Nat.le_of_not_lt small
  · obtain ⟨⟨e, failed⟩, -⟩ | ⟨-, delivered⟩ := publish_cases h channel m
    · rw [published] at failed
      cases failed
    · rw [published] at delivered
      change h' = h.delivered channel m at delivered
      refine ⟨{ p with unread := enqueue h.capacity p.unread m }, ?_, ?_⟩
      · rw [delivered, peer?_delivered, found, Option.map_some, if_pos joined]
      · rw [enqueue_eq capacity, List.getLast?_concat]

/-- The hub after some peers have read everything. -/
def drain (h : Hub) (ids : List Nat) : Hub :=
  { h with peers := h.peers.map fun p => if p.id ∈ ids then { p with unread := [] } else p }

theorem peer?_drain {ids : List Nat} : (h.drain ids).peer? id =
    (h.peer? id).map fun p => if id ∈ ids then { p with unread := [] } else p := by
  have mapped : (h.drain ids).peer? id =
      (h.peer? id).map fun p => if p.id ∈ ids then { p with unread := [] } else p :=
    peer?_map (h := h) (fun p => by split <;> rfl) id
  rw [mapped]
  refine Option.map_congr fun p hp => ?_
  rw [(mem_of_peer? hp).2]

theorem badges_drain {ids : List Nat} : (h.drain ids).badges = h.badges :=
  badges_map (h := h) fun p => by split <;> exact ⟨rfl, rfl⟩

theorem requeued_drain (h : Hub) (ids : List Nat) : h.Requeued (h.drain ids) :=
  ⟨_, h.published, rfl, badges_drain⟩

theorem drain_nil : h.drain [] = h := by simp [drain]

theorem drain_drain {ids ids' : List Nat} : (h.drain ids).drain ids' = h.drain (ids ++ ids') := by
  simp only [drain, List.map_map]
  congr 1
  refine List.map_congr_left fun p _ => ?_
  by_cases first : p.id ∈ ids <;> by_cases second : p.id ∈ ids' <;> simp [first, second]

/-- A peer that has read its only message has read everything. -/
theorem drawn_nil : h.drawn id [] = h.drain [id] := by simp [drawn, drain]

/-- What a peer has read before it has read everything makes no difference. -/
theorem drain_drawn (rest : List Message) : (h.drawn id rest).drain [id] = h.drain [id] := by
  simp only [drain, drawn, List.map_map]
  congr 1
  refine List.map_congr_left fun p _ => ?_
  by_cases own : p.id = id <;> simp [own]

end Hub

/-! ## Sessions -/

namespace Switchboard

variable {s : Switchboard} {number : Nat} {x : Session} {p : Peer}

theorem session?_update {y : Session} (there : s.session? y.number = some x) :
    (s.update y).session? y.number = some y := by
  have numbers : (fun z : Session => decide (z.number = y.number)) ∘
      (fun z => if z.number = y.number then y else z) = fun z => decide (z.number = y.number) := by
    funext z
    rw [Function.comp_apply]
    split <;> simp [*]
  have own : x.number = y.number := by simpa using List.find?_some there
  rw [session?] at there ⊢
  rw [update, List.find?_map, numbers, there, Option.map_some, if_pos own]

theorem Connected.session? (connected : s.Connected number x p) : s.session? number = some x :=
  (Option.filter_eq_some_iff.mp connected.isOpen).1

theorem Connected.number_eq (connected : s.Connected number x p) : x.number = number := by
  simpa using List.find?_some connected.session?

/-- Traffic leaves the session open. -/
theorem Connected.update (connected : s.Connected number x p) (t : Instant) (u : List Outgoing) :
    (s.update { x with lastTraffic := t, unread := u }).Connected number
      { x with lastTraffic := t, unread := u } p where
  isOpen := by
    have there : s.session? x.number = some x := by
      rw [connected.number_eq]
      exact connected.session?
    rw [open?, Option.filter_eq_some_iff, ← connected.number_eq]
    exact ⟨session?_update (y := { x with lastTraffic := t, unread := u }) there,
      (Option.filter_eq_some_iff.mp connected.isOpen).2⟩
  found := connected.found
  channel := connected.channel

theorem Connected.withHub (connected : s.Connected number x p) {h : Hub}
    (badges : h.badges = s.bridge.hub.badges) : ∃ p', (s.withHub h).Connected number x p' := by
  obtain ⟨p', found, same⟩ := Hub.peer?_of_badges badges connected.found
  exact ⟨p', connected.isOpen, found, same.trans connected.channel⟩

/-! ## Writing to the wallet -/

/-- The session after some messages were written to the wallet. -/
def sentTo (now : Instant) (ms : List Message) (x : Session) : Session :=
  { x with
    lastTraffic := if ms.isEmpty then x.lastTraffic else now
    unread := x.unread ++ ms.map .message }

theorem sentTo_nil (now : Instant) (x : Session) : sentTo now [] x = x := by
  rw [sentTo, List.map_nil, List.append_nil]
  rfl

theorem sentTo_singleton (now : Instant) (m : Message) (x : Session) :
    sentTo now [m] x = x.put (.message m) now := rfl

/-- Turns that each read one message of a peer and write it to the wallet: the peer is still there
for the next one. -/
theorem foldl_written {now : Instant} {turn : Hub × Session → Message → Hub × Session}
    (spec : ∀ hub x p m, hub.peer? x.peer = some p →
      turn (hub, x) m = ((hub.receive p).1, x.put (.message m) now))
    (ms : List Message) {hub : Hub} {x : Session} {p : Peer} (found : hub.peer? x.peer = some p)
    (unread : p.unread = ms) :
    ms.foldl turn (hub, x) =
      (if ms = [] then hub else hub.drain [x.peer], sentTo now ms x) := by
  induction ms generalizing hub x p with
  | nil =>
    rw [List.foldl_nil, if_pos rfl, sentTo_nil]
  | cons m rest ih =>
    have read : (hub.receive p).1 = hub.drawn x.peer rest := by
      rw [← (Hub.mem_of_peer? found).2]
      simp only [Hub.receive, unread]
      rfl
    have there : (hub.drawn x.peer rest).peer? x.peer = some { p with unread := rest } := by
      rw [Hub.peer?_drawn, found, Option.map_some, if_pos (Hub.mem_of_peer? found).2]
    have session : sentTo now rest (x.put (.message m) now) = sentTo now (m :: rest) x := by
      rw [sentTo, sentTo, Session.put, List.map_cons, List.append_assoc, ite_self]
      rfl
    rw [List.foldl_cons, spec hub x p m found, read, ih (x := x.put (.message m) now) there rfl,
      session, if_neg (List.cons_ne_nil m rest)]
    split
    · next last => rw [last, Hub.drawn_nil]
    · exact congrArg (·, _) (Hub.drain_drawn rest)

/-- What waits for the peer is written to the wallet, in its order. -/
theorem write_eq (found : s.bridge.hub.peer? x.peer = some p) :
    s.write x = (s.withHub (if p.unread = [] then s.bridge.hub
      else s.bridge.hub.drain [x.peer])).update (sentTo s.bridge.now p.unread x) := by
  simp only [write, found]
  exact congrArg (fun read : Hub × Session => (s.withHub read.1).update read.2)
    (foldl_written (fun hub x p m there => by simp only [there]) p.unread found rfl)

theorem write_cases (found : s.bridge.hub.peer? x.peer = some p) :
    ∃ hub, s.write x = (s.withHub hub).update (sentTo s.bridge.now p.unread x) ∧
      s.bridge.hub.Requeued hub := by
  refine ⟨_, write_eq found, ?_⟩
  split
  · exact .refl _
  · exact s.bridge.hub.requeued_drain _

/-- The last message that waits for the peer is the last thing that is written to the wallet. -/
theorem write_last {m : Message} (there : s.session? number = some x)
    (found : s.bridge.hub.peer? x.peer = some p) (last : p.unread.getLast? = some m) :
    ∃ y, (s.write x).session? number = some y ∧ y.unread.getLast? = some (.message m) := by
  obtain ⟨hub, written, -⟩ := write_cases found
  -- What was written before stays in front of it, and so do the messages that waited longer.
  obtain ⟨earlier, messages⟩ := List.getLast?_eq_some_iff.mp last
  have own : x.number = number := by simpa using List.find?_some there
  refine ⟨sentTo s.bridge.now p.unread x, ?_, ?_⟩
  · rw [← own] at there ⊢
    rw [written]
    exact session?_update (s := s.withHub hub) there
  · rw [sentTo, messages, List.map_append, ← List.append_assoc]
    exact List.getLast?_concat

theorem Connected.write (connected : s.Connected number x p) :
    ∃ p', (s.write x).Connected number (sentTo s.bridge.now p.unread x) p' := by
  obtain ⟨hub, written, requeued⟩ := write_cases connected.found
  obtain ⟨p', connected⟩ := connected.withHub requeued.badges
  rw [written]
  exact ⟨p', connected.update _ _⟩

/-! ## Frames and pings -/

/-- A ping is answered, and nothing else happens. -/
theorem Connected.ping_eq (connected : s.Connected number x p) (content : List UInt8) :
    s.ping number content = s.update (x.put (.pong content) s.bridge.now) := by
  rw [ping, connected.isOpen]

/-- A frame is traffic, and a reply to every stream if it is small enough as it came and as the
relay writes it. -/
theorem Connected.frame_eq (connected : s.Connected number x p) (bytes : List UInt8)
    (now : Timestamp) :
    s.frame number bytes now =
      match (Frame.read? s.limits.frame x.channel now bytes).filter
        fun m => m.size ≤ s.bridge.hub.limit with
      | some m => (s.update (x.touch s.bridge.now)).withHub (s.bridge.hub.spread m)
      | none => s.update (x.touch s.bridge.now) := by
  simp only [frame, connected.isOpen, update_limits]
  cases read : Frame.read? s.limits.frame x.channel now bytes with
  | none => rfl
  | some m =>
    have own : m.stamped p.channel = m := by
      obtain ⟨-, m', -, rfl⟩ := Frame.read?_eq_some_iff.mp read
      rw [connected.channel]
      rfl
    simp only [reply, update_bridge, connected.found, Hub.reply_eq, own, Option.filter_some]
    by_cases small : m.size ≤ s.bridge.hub.limit
    · simp only [small, Nat.not_lt.mpr small, decide_true, if_true, if_false]
    · simp only [small, Nat.lt_of_not_le small, decide_false, if_true, Bool.false_eq_true, if_false]
      rfl

end Switchboard

end PaymentRelay
