import PaymentRelay.Bus.Hub

/-
  Peers and streams after each operation of the hub.

  One lemma for each operation says what it leaves alone, and what it does to the rest: publishing
  fills queues of peers, replying fills queues of streams, reading takes from one queue. A peer
  keeps its id and its channel for as long as it is there (`badges`).
-/

namespace PaymentRelay

/-- A message that comes stands last in the queue, and only earlier ones are given up. -/
theorem enqueue_eq {capacity : Nat} (room : 0 < capacity) (q : List Message) (m : Message) :
    enqueue capacity q m = q.drop (q.length + 1 - capacity) ++ [m] := by
  rw [enqueue, List.drop_append_of_le_length (by omega)]

/-- Where there is room, a message is put behind the others. -/
theorem enqueue_of_room {capacity : Nat} {q : List Message} {m : Message}
    (room : q.length < capacity) : enqueue capacity q m = q ++ [m] := by
  rw [enqueue_eq (by omega), Nat.sub_eq_zero_of_le room, List.drop_zero]

/-- The first message in a queue stays. -/
theorem enqueue_nil {capacity : Nat} (h : 0 < capacity) (m : Message) :
    enqueue capacity [] m = [m] := enqueue_of_room h

namespace Hub

/-- A hub keeps at least one message for each receiver. -/
theorem capacity_pos (capacity limit : Nat) : 0 < (Hub.new capacity limit).capacity :=
  Nat.pos_of_isPowerOfTwo (Nat.isPowerOfTwo_nextPowerOfTwo capacity)

section
variable {h : Hub} {channel : String} {m : Message} {p : Peer}

/-- The ids of the peers with the channels that they have joined. -/
def badges (h : Hub) : List (Nat × String) := h.peers.map fun p => (p.id, p.channel)

theorem peer?_mem {id : Nat} (hp : h.peer? id = some p) : (id, p.channel) ∈ h.badges := by
  have hid : p.id = id := by simpa using List.find?_some hp
  rw [← hid]
  exact List.mem_map_of_mem (List.mem_of_find?_eq_some hp)

/-- Changing what is in the streams changes what is found under their ids. -/
theorem stream?_map {f : Stream → Stream} (hf : ∀ s, (f s).id = s.id) (id : Nat) :
    ({ h with streams := h.streams.map f }).stream? id = (h.stream? id).map f := by
  have same : ((fun s : Stream => decide (s.id = id)) ∘ f) = fun s => decide (s.id = id) := by
    funext s
    rw [Function.comp_apply, hf]
  simp only [stream?, List.find?_map, same]

theorem badges_leave (id : Nat) {x : Nat × String} (hx : x ∈ (h.leave id).badges) :
    x ∈ h.badges := by
  unfold leave at hx
  split at hx
  · exact hx
  · simp only [badges, List.mem_map, List.mem_filter] at hx ⊢
    obtain ⟨q, ⟨hq, _⟩, rfl⟩ := hx
    exact ⟨q, hq, rfl⟩

theorem streams_leave (id : Nat) : (h.leave id).streams = h.streams := by
  unfold leave
  split <;> rfl

theorem capacity_leave (id : Nat) :
    (h.leave id).capacity = h.capacity ∧ (h.leave id).nextId = h.nextId := by
  unfold leave
  split <;> exact ⟨rfl, rfl⟩

/-- Publishing leaves everything alone but the queues of peers and the count. -/
theorem publish_eq (h : Hub) (channel : String) (m : Message) :
    ∃ peers published, (h.publish channel m).1 = { h with peers, published } ∧
      ({ h with peers, published } : Hub).badges = h.badges := by
  unfold publish
  split
  · exact ⟨h.peers, h.published, rfl, rfl⟩
  · split
    · exact ⟨h.peers, h.published, rfl, rfl⟩
    · refine ⟨_, _, rfl, ?_⟩
      simp only [badges, deliver, List.map_map]
      apply List.map_congr_left
      intro q _
      simp only [Function.comp_apply]
      split <;> rfl

/-- A message within the limit reaches the peer that has just joined its channel. -/
theorem publish_join (channel : String) (fits : m.size ≤ h.limit) :
    ∃ hub reached, (h.join channel).1.publish channel m = (hub, .ok reached) := by
  have size : (h.join channel).1.checkSize m = .ok () := if_neg (Nat.not_lt.mpr fits)
  have members : (h.join channel).1.directory.members channel ≠ 0 := by
    simp [join, Directory.members, Directory.enter, Dict.lookup_put]
  have reach : (h.join channel).1.reach channel ≠ 0 := by
    simp [join, Hub.reach]
  rw [publish, size]
  exact ⟨_, _, if_neg (not_or.mpr ⟨members, reach⟩)⟩

/-- A peer that reads takes from its own queue. -/
theorem receive_eq (h : Hub) (p : Peer) :
    ∃ peers, (h.receive p).1 = { h with peers } ∧ ({ h with peers } : Hub).badges = h.badges := by
  unfold receive
  split
  · exact ⟨h.peers, rfl, rfl⟩
  · refine ⟨_, rfl, ?_⟩
    simp only [badges, List.map_map]
    apply List.map_congr_left
    intro q _
    simp only [Function.comp_apply]
    split <;> rfl

/-- A reply is refused, and then nothing changes, or it goes to every stream. -/
theorem reply_cases (h : Hub) (p : Peer) (m : Message) :
    ((∃ e, (h.reply p m).2 = .error e) ∧ (h.reply p m).1 = h) ∨
    ((h.reply p m).2 = .ok () ∧ (h.reply p m).1 = { h with
      streams := h.streams.map fun s =>
        { s with unread := enqueue h.capacity s.unread (m.stamped p.channel) } }) := by
  cases hs : h.checkSize (m.stamped p.channel) with
  | error e => exact .inl ⟨⟨e, by simp only [reply, hs]⟩, by simp only [reply, hs]⟩
  | ok _ =>
    by_cases he : h.streams.isEmpty = true
    · exact .inl ⟨⟨.closed, by simp only [reply, hs, he, if_true]⟩,
        by simp only [reply, hs, he, if_true]⟩
    · exact .inr ⟨by simp only [reply, hs, he, if_false, Bool.false_eq_true],
        by simp only [reply, hs, he, if_false, Bool.false_eq_true]⟩

end

end Hub

end PaymentRelay
