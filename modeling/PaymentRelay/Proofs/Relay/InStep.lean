import PaymentRelay.Proofs.Relay.Beside
import PaymentRelay.Proofs.Relay.Seats

/-
  Sessions and members in step.

  The members of the hub are the peers of the open sessions, in the order in which they came
  (`Switchboard.InStep`), so that the directory counts the open sessions (`InStep.members`). Nothing
  that happens at a switchboard puts them out of step: a wallet that connects, traffic, the end of
  sessions (`Switchboard.dismiss`) and what is published. Hanging up, being lost and being idle are
  the end of those sessions for which a condition holds (`InStep.hangUp_eq`, `InStep.cut_eq`,
  `InStep.finishIdle_eq`).
-/

namespace PaymentRelay

/-- In a list in which each key stands once, an entry is the only one with its key. -/
theorem filter_of_key {α γ : Type} [DecidableEq γ] {key : α → γ} {l : List α} {x : α}
    (distinct : (l.map key).Nodup) (hx : x ∈ l) : l.filter (fun y => key y = key x) = [x] := by
  obtain ⟨front, back, rfl⟩ := List.append_of_mem hx
  rw [List.map_append, List.map_cons, List.nodup_middle, List.nodup_cons, List.mem_append]
    at distinct
  have others {l : List α} (away : key x ∉ l.map key) : l.filter (fun y => key y = key x) = [] := by
    refine List.filter_eq_nil_iff.mpr fun y hy same => away ?_
    exact (of_decide_eq_true same) ▸ List.mem_map_of_mem hy
  rw [List.filter_append, List.filter_cons_of_pos (by simp), others fun there =>
    distinct.1 (.inl there), others fun there => distinct.1 (.inr there)]
  rfl

/-! ## The hub -/

namespace Hub

variable {h h' : Hub} {id : Nat} {ids : List Nat} {p : Peer} {k : String} {m : Message}

/-- What waits for a peer; nothing where there is none. -/
def waiting (h : Hub) (id : Nat) : List Message := ((h.peer? id).map (·.unread)).getD []

theorem waiting_of_found (found : h.peer? id = some p) : h.waiting id = p.unread := by
  rw [waiting, found]
  rfl

theorem waiting_of_missing (missing : h.peer? id = none) : h.waiting id = [] := by
  rw [waiting, missing]
  rfl

theorem waiting_join (k : String) : (h.join k).1.waiting id = h.waiting id := by
  rw [waiting, waiting, peer?_join]
  cases h.peer? id with
  | some p => rfl
  | none =>
    rw [Option.none_or]
    split <;> rfl

theorem waiting_without : (h.without ids).waiting id = if id ∈ ids then [] else h.waiting id := by
  rw [waiting, peer?_without]
  split <;> rfl

theorem waiting_drain : (h.drain ids).waiting id = if id ∈ ids then [] else h.waiting id := by
  rw [waiting, waiting, peer?_drain, Option.map_map]
  cases h.peer? id with
  | none => exact (ite_self _).symm
  | some p =>
    by_cases read : id ∈ ids <;> simp [read]

theorem waiting_delivered (found : h.peer? id = some p) : (h.delivered k m).waiting id =
    if p.channel = k then enqueue h.capacity (h.waiting id) m else h.waiting id := by
  rw [waiting_of_found found, waiting, peer?_delivered, found]
  by_cases mine : p.channel = k <;> simp [mine]

theorem Restreamed.waiting (restreamed : h.Restreamed h') (id : Nat) :
    h'.waiting id = h.waiting id := by
  obtain ⟨_, rfl, -⟩ := restreamed
  rfl

/-- The same members, whatever waits for them and in the streams. -/
structure SameMembers (h h' : Hub) : Prop where
  badges : h'.badges = h.badges
  directory : h'.directory = h.directory
  streams : h'.streams.map (·.id) = h.streams.map (·.id)
  nextId : h'.nextId = h.nextId
  capacity : h'.capacity = h.capacity
  isOpen : h'.isOpen = h.isOpen

theorem SameMembers.refl (h : Hub) : h.SameMembers h := ⟨rfl, rfl, rfl, rfl, rfl, rfl⟩

theorem Restreamed.members (restreamed : h.Restreamed h') : h.SameMembers h' := by
  obtain ⟨_, rfl, ids⟩ := restreamed
  exact ⟨rfl, rfl, ids, rfl, rfl, rfl⟩

theorem Requeued.members (requeued : h.Requeued h') : h.SameMembers h' := by
  obtain ⟨_, _, rfl, badges⟩ := requeued
  exact ⟨badges, rfl, rfl, rfl, rfl, rfl⟩

theorem requeued_delivered (h : Hub) (k : String) (m : Message) : h.Requeued (h.delivered k m) :=
  ⟨_, _, rfl, badges_map fun p => by split <;> exact ⟨rfl, rfl⟩⟩

theorem badges_without : (h.without ids).badges = h.badges.filter fun b => b.1 ∉ ids := by
  induction ids generalizing h with
  | nil => simp [without]
  | cons id rest ih =>
    have step : h.without (id :: rest) = (h.leave id).without rest := rfl
    rw [step, ih, badges_leave_eq, List.filter_filter]
    refine List.filter_congr fun b _ => ?_
    simp [Bool.and_comm]

theorem map_id_peers (h : Hub) : h.peers.map (·.id) = h.badges.map (·.1) := by simp [badges]

theorem SameMembers.sound (same : h.SameMembers h') (sound : h.Sound) : h'.Sound where
  peers := by
    rw [map_id_peers, same.badges, same.nextId, ← map_id_peers]
    exact sound.peers
  streams := by
    rw [same.streams, same.nextId]
    exact sound.streams
  isOpen := same.isOpen.trans sound.isOpen
  capacity := same.capacity ▸ sound.capacity

end Hub

/-- Another state of a session, which is as open as before. -/
structure Session.Moves (x y : Session) : Prop where
  number : y.number = x.number
  peer : y.peer = x.peer
  channel : y.channel = x.channel
  isOpen : y.isOpen = x.isOpen

theorem Session.Moves.refl (x : Session) : x.Moves x := ⟨rfl, rfl, rfl, rfl⟩

/-! ## Members and open sessions -/

namespace Switchboard

variable {s s' : Switchboard} {x : Session} {k : String} {number : Nat}

/-- The members of the hub are the peers of the open sessions. -/
structure InStep (s : Switchboard) : Prop where
  sound : s.bridge.hub.Sound
  counted : s.bridge.hub.Counted
  numbers : Hub.Issued s.nextSession (s.sessions.map (·.number))
  peers : Hub.Issued s.bridge.hub.nextId (s.sessions.map (·.peer))
  seats : s.bridge.hub.badges = (s.sessions.filter (·.isOpen)).map fun x => (x.peer, x.channel)

/-- The directory counts the open sessions of a channel. -/
theorem InStep.members (inStep : s.InStep) (k : String) :
    s.bridge.hub.directory.members k =
      (s.sessions.filter fun x => x.isOpen ∧ x.channel = k).length := by
  rw [inStep.counted.members_eq, Hub.reach_eq, inStep.seats, List.countP_map, List.countP_filter,
    ← List.countP_eq_length_filter]
  refine List.countP_congr fun x _ => ?_
  simp [and_comm]

theorem InStep.peer?_of_isOpen (inStep : s.InStep) (hx : x ∈ s.sessions)
    (isOpen : x.isOpen = true) :
    ∃ p, s.bridge.hub.peer? x.peer = some p ∧ p.channel = x.channel := by
  have seat : (x.peer, x.channel) ∈ s.bridge.hub.badges := by
    rw [inStep.seats]
    exact List.mem_map_of_mem (List.mem_filter.mpr ⟨hx, isOpen⟩)
  obtain ⟨p, hp, badge⟩ := List.mem_map.mp seat
  obtain ⟨id, channel⟩ := Prod.mk.inj badge
  exact ⟨p, id ▸ inStep.sound.peer?_of_mem hp, channel⟩

theorem InStep.peer?_of_closed (inStep : s.InStep) (hx : x ∈ s.sessions)
    (closed : x.isOpen = false) : s.bridge.hub.peer? x.peer = none := by
  cases found : s.bridge.hub.peer? x.peer with
  | none => rfl
  | some p =>
    have seat := Hub.peer?_mem found
    rw [inStep.seats] at seat
    obtain ⟨y, hy, badge⟩ := List.mem_map.mp seat
    obtain ⟨there, isOpen⟩ := List.mem_filter.mp hy
    rw [List.inj_on_of_nodup_map inStep.peers.distinct there hx (Prod.mk.inj badge).1,
      closed] at isOpen
    cases isOpen

/-- The peer of a session is among those of some sessions if the session is. -/
theorem InStep.mem_peers (inStep : s.InStep) (p : Session → Bool) (hx : x ∈ s.sessions) :
    x.peer ∈ (s.sessions.filter p).map (·.peer) ↔ p x = true := by
  simp only [List.mem_map, List.mem_filter]
  constructor
  · rintro ⟨y, ⟨hy, there⟩, same⟩
    rwa [← List.inj_on_of_nodup_map inStep.peers.distinct hy hx same]
  · exact fun there => ⟨x, ⟨hx, there⟩, rfl⟩

/-- Sessions that move, and members that stay, are in step as before. -/
theorem InStep.moves (inStep : s.InStep) (same : s.bridge.hub.SameMembers s'.bridge.hub)
    {f : Session → Session} (sessions : s'.sessions = s.sessions.map f)
    (nextSession : s'.nextSession = s.nextSession) (moves : ∀ x : Session, x.Moves (f x)) :
    s'.InStep where
  sound := same.sound inStep.sound
  counted := inStep.counted.congr same.directory same.badges
  numbers := by
    have numbers : (·.number) ∘ f = Session.number := funext fun x => (moves x).number
    rw [sessions, nextSession, List.map_map, numbers]
    exact inStep.numbers
  peers := by
    have peers : (·.peer) ∘ f = Session.peer := funext fun x => (moves x).peer
    rw [sessions, same.nextId, List.map_map, peers]
    exact inStep.peers
  seats := by
    have isOpen : (·.isOpen) ∘ f = Session.isOpen := funext fun x => (moves x).isOpen
    have seat : (fun x => (x.peer, x.channel)) ∘ f = fun x : Session => (x.peer, x.channel) :=
      funext fun x => by rw [Function.comp_apply, (moves x).peer, (moves x).channel]
    rw [same.badges, inStep.seats, sessions, List.filter_map, isOpen, List.map_map, seat]

theorem InStep.connect (inStep : s.InStep) (k : String) : (s.connect k).1.InStep where
  sound := Hub.sound_act inStep.sound (.join k)
  counted := inStep.counted.join k
  numbers := by simpa [Switchboard.connect, Session.new] using inStep.numbers.one_more
  peers := by simpa [Switchboard.connect, Session.new, Hub.join] using inStep.peers.one_more
  seats := by simp [Switchboard.connect, withHub, Session.new, Hub.join, Hub.badges,
    ← inStep.seats]

/-- The switchboard after those of its open sessions have ended for which a condition holds. -/
def dismiss (s : Switchboard) (c : Session → Bool) (last : List Outgoing) : Switchboard :=
  { s.withHub (s.bridge.hub.without
      ((s.sessions.filter fun x => x.isOpen && c x).map (·.peer))) with
    sessions := s.sessions.map fun x => if x.isOpen && c x then x.finish last else x }

theorem InStep.dismiss (inStep : s.InStep) (c : Session → Bool) (last : List Outgoing) :
    (s.dismiss c last).InStep := by
  obtain ⟨sound, counted, nextId⟩ := inStep.sound.without inStep.counted
    ((s.sessions.filter fun x => x.isOpen && c x).map (·.peer))
  have kept {α : Type} (key : Session → α) (finished : ∀ x, key (x.finish last) = key x) :
      (s.dismiss c last).sessions.map key = s.sessions.map key := by
    rw [Switchboard.dismiss, List.map_map]
    refine List.map_congr_left fun x _ => ?_
    rw [Function.comp_apply]
    split
    · exact finished x
    · rfl
  have stay : (s.dismiss c last).sessions.filter (·.isOpen) =
      s.sessions.filter fun x => x.isOpen && !c x := by
    have open_iff (x : Session) : (if x.isOpen && c x then x.finish last else x).isOpen =
        (x.isOpen && !c x) := by
      cases isOpen : x.isOpen <;> cases c x <;> simp [Session.finish, isOpen]
    rw [Switchboard.dismiss, List.filter_map, Function.comp_def]
    simp only [open_iff]
    refine (List.map_congr_left fun x hx => ?_).trans (List.map_id _)
    have stays : (x.isOpen && !c x) = true := (List.mem_filter.mp hx).2
    rw [if_neg (by revert stays; cases x.isOpen <;> cases c x <;> simp)]
    rfl
  refine ⟨sound, counted, ?_, ?_, ?_⟩
  · rw [kept Session.number fun _ => rfl]
    exact inStep.numbers
  · rw [kept Session.peer fun _ => rfl]
    exact nextId ▸ inStep.peers
  · rw [stay]
    simp only [Switchboard.dismiss, withHub_hub]
    rw [Hub.badges_without, inStep.seats, List.filter_map, List.filter_filter]
    congr 1
    refine List.filter_congr fun x hx => ?_
    simp only [Function.comp_apply, inStep.mem_peers _ hx]
    cases x.isOpen <;> cases c x <;> rfl

/-! ## Sessions that are found -/

theorem InStep.session? (inStep : s.InStep) (hx : x ∈ s.sessions) :
    s.session? x.number = some x := find?_of_key inStep.numbers.distinct hx

/-- A session is found while it is open, and is the only one with its number. -/
theorem InStep.open?_eq_some (inStep : s.InStep) (found : s.open? number = some x) :
    x ∈ s.sessions ∧ ∀ y ∈ s.sessions, (y.isOpen = true ∧ y.number = number) ↔ y = x := by
  obtain ⟨there, isOpen⟩ := Option.filter_eq_some_iff.mp found
  have hx := List.mem_of_find?_eq_some there
  have own : x.number = number := by simpa using List.find?_some there
  refine ⟨hx, fun y hy => ⟨fun ⟨_, same⟩ => ?_, fun eq => eq ▸ ⟨isOpen, own⟩⟩⟩
  exact List.inj_on_of_nodup_map inStep.numbers.distinct hy hx (same.trans own.symm)

theorem InStep.open?_eq_none (inStep : s.InStep) (missing : s.open? number = none)
    (hx : x ∈ s.sessions) : ¬(x.isOpen = true ∧ x.number = number) := by
  rintro ⟨isOpen, rfl⟩
  rw [open?, inStep.session? hx, Option.filter_some, if_pos isOpen] at missing
  cases missing

/-- To put an open session in its place is to change it where it is. -/
theorem InStep.sessions_update (inStep : s.InStep) (found : s.open? number = some x)
    {f : Session → Session} (same : (f x).number = x.number) :
    (s.update (f x)).sessions =
      s.sessions.map fun y => if y.isOpen = true ∧ y.number = number then f y else y := by
  obtain ⟨hx, only⟩ := inStep.open?_eq_some found
  rw [update]
  refine List.map_congr_left fun y hy => ?_
  have own : y.number = (f x).number ↔ y = x := by
    rw [same]
    exact ⟨List.inj_on_of_nodup_map inStep.numbers.distinct hy hx, fun eq => eq ▸ rfl⟩
  by_cases eq : y = x
  · rw [if_pos (own.mpr eq), if_pos ((only y hy).mpr eq), eq]
  · rw [if_neg (mt own.mp eq), if_neg (mt (only y hy).mp eq)]

/-- Where a session is not open, nothing can be changed. -/
theorem InStep.sessions_same (inStep : s.InStep) (missing : s.open? number = none)
    (f : Session → Session) :
    (s.sessions.map fun x => if x.isOpen = true ∧ x.number = number then f x else x) =
      s.sessions :=
  (List.map_congr_left fun _ hx => if_neg (inStep.open?_eq_none missing hx)).trans (List.map_id _)

/-- Something is done to a session if it is open. -/
def atOpen (s : Switchboard) (number : Nat) (f : Session → Session) : Switchboard :=
  match s.open? number with
  | none => s
  | some x => s.update (f x)

theorem InStep.sessions_atOpen (inStep : s.InStep) {f : Session → Session}
    (moves : ∀ x : Session, x.Moves (f x)) :
    (s.atOpen number f).sessions =
      s.sessions.map fun x => if x.isOpen = true ∧ x.number = number then f x else x := by
  rw [atOpen]
  cases found : s.open? number with
  | none => exact (inStep.sessions_same found f).symm
  | some x => exact inStep.sessions_update found (moves x).number

theorem atOpen_rest (s : Switchboard) (number : Nat) (f : Session → Session) :
    (s.atOpen number f).bridge = s.bridge ∧ (s.atOpen number f).limits = s.limits ∧
      (s.atOpen number f).nextSession = s.nextSession := by
  unfold atOpen
  split <;> exact ⟨rfl, rfl, rfl⟩

theorem InStep.atOpen (inStep : s.InStep) (number : Nat) {f : Session → Session}
    (moves : ∀ x : Session, x.Moves (f x)) : (s.atOpen number f).InStep := by
  obtain ⟨bridge, -, nextSession⟩ := s.atOpen_rest number f
  refine inStep.moves (bridge ▸ .refl _) (inStep.sessions_atOpen moves) nextSession fun x => ?_
  split
  · exact moves x
  · exact .refl x

/-- A session that ends by itself is the only one that ends. -/
theorem InStep.finish_eq (inStep : s.InStep) (number : Nat) (last : List Outgoing) :
    (match s.open? number with
      | none => s
      | some x => s.finish x last) = s.dismiss (fun x => x.number = number) last := by
  simp only [Switchboard.dismiss, Bool.and_eq_true, decide_eq_true_eq]
  cases found : s.open? number with
  | none =>
    have nobody : (s.sessions.filter fun x => x.isOpen && decide (x.number = number)) = [] :=
      List.filter_eq_nil_iff.mpr fun x hx => by simpa using inStep.open?_eq_none found hx
    rw [nobody, inStep.sessions_same found (·.finish last)]
    rfl
  | some x =>
    obtain ⟨hx, only⟩ := inStep.open?_eq_some found
    obtain ⟨isOpen, own⟩ := (only x hx).mpr rfl
    have alone : (s.sessions.filter fun y => y.isOpen && decide (y.number = number)) = [x] := by
      rw [← List.filter_filter, ← own, filter_of_key inStep.numbers.distinct hx,
        List.filter_singleton, isOpen]
      rfl
    rw [alone, ← inStep.sessions_update found (f := (·.finish last)) rfl]
    rfl

theorem InStep.hangUp_eq (inStep : s.InStep) (number : Nat) :
    s.hangUp number = s.dismiss (fun x => x.number = number) [.close] := by
  rw [← inStep.finish_eq]
  rfl

theorem InStep.cut_eq (inStep : s.InStep) (number : Nat) :
    s.cut number = s.dismiss (fun x => x.number = number) [] := by
  rw [← inStep.finish_eq]
  rfl

theorem InStep.finishIdle_eq (inStep : s.InStep) : s.finishIdle =
    s.dismiss (fun x => decide (x.lastTraffic.after s.limits.idle ≤ s.bridge.now)) [.close] :=
  Switchboard.finishIdle_eq inStep.numbers.distinct

/-- Everything is written, and the members are as before. -/
theorem InStep.writeAll_eq (inStep : s.InStep) :
    s.writeAll =
      { s.withHub (s.bridge.hub.drain ((s.sessions.filter fun x =>
          x.isOpen ∧ s.bridge.hub.waiting x.peer ≠ []).map (·.peer))) with
        sessions := s.sessions.map
          (caughtUp (fun x => s.bridge.hub.waiting x.peer) s.bridge.now) } := by
  refine Switchboard.writeAll_eq _ inStep.numbers.distinct inStep.peers.distinct
    fun x hx isOpen => ?_
  obtain ⟨p, found, -⟩ := inStep.peer?_of_isOpen hx isOpen
  exact ⟨p, found, (Hub.waiting_of_found found).symm⟩

end Switchboard

end PaymentRelay
