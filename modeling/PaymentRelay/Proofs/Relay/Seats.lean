import PaymentRelay.Proofs.Relay.Board

/-
  Who has joined the hub, and what a channel has of it.

  A peer has joined the hub itself, or it is that of a session, and then the session is open
  (`Seated`). What a channel has of the hub are the queues of the peers that have joined it, in
  their order, and its sessions. Each operation of the hub keeps everybody in place, and says what
  it does to the queues and the sessions of every channel: those of other channels stay as they
  are.
-/

namespace PaymentRelay

/-- A list whose entry at one position is changed, found by its key. -/
theorem map_set_of_key {α β γ : Type} [DecidableEq γ] (key : α → γ) {l : List α} {n : Nat} {x : α}
    (distinct : (l.map key).Nodup) (hx : l[n]? = some x) (f : α → β) (v : β) :
    (l.map fun y => if key y = key x then v else f y) = (l.map f).set n v := by
  induction l generalizing n with
  | nil => cases hx
  | cons y rest ih =>
    obtain ⟨other, distinct⟩ := List.nodup_cons.mp distinct
    cases n with
    | zero =>
      obtain rfl : y = x := by simpa using hx
      have stay : (rest.map fun z => if key z = key y then v else f z) = rest.map f := by
        refine List.map_congr_left fun z hz => if_neg fun eq => other ?_
        exact List.mem_map.mpr ⟨z, hz, eq⟩
      simp [stay]
    | succ n =>
      have there : rest[n]? = some x := by simpa using hx
      have apart : key y ≠ key x := fun eq =>
        other (List.mem_map.mpr ⟨x, List.mem_of_getElem? there, eq.symm⟩)
      simp [apart, ih distinct there]

/-- In a list in which each key stands once, an entry is found under its key. -/
theorem find?_of_key {α γ : Type} [DecidableEq γ] {key : α → γ} {l : List α} {x : α}
    (distinct : (l.map key).Nodup) (hx : x ∈ l) : l.find? (fun y => key y = key x) = some x := by
  cases found : l.find? fun y => key y = key x with
  | none => exact absurd (List.find?_eq_none.mp found x hx) (by simp)
  | some y =>
    have same : key y = key x := by simpa using List.find?_some found
    rw [List.inj_on_of_nodup_map distinct (List.mem_of_find?_eq_some found) hx same]

/-- The session without what it is known by elsewhere. -/
def Session.bare (x : Session) : Session := { x with number := 0, peer := 0 }

/-- The ids of the peers that have joined a channel themselves. -/
def peersOf (joined : List (String × Nat)) (k : String) : List Nat :=
  (joined.filter fun j => j.1 = k).map (·.2)

/-- The sessions of a channel. -/
def linesOf (sessions : List Session) (k : String) : List Session :=
  sessions.filter fun x => x.channel = k

/-- What the peers of a channel have not read; nothing for those that have left. -/
def queues (h : Hub) (joined : List (String × Nat)) (k : String) : List (Option (List Message)) :=
  (peersOf joined k).map fun id => (h.peer? id).map (·.unread)

/-- The sessions of a channel as it sees them. -/
def lines (sessions : List Session) (k : String) : List Session :=
  (linesOf sessions k).map Session.bare

/-- Somebody is there who has not left. -/
def isServed (queues : List (Option (List Message))) (lines : List Session) : Bool :=
  queues.any (·.isSome) || lines.any (·.isOpen)

/-- Who has joined the hub: peers themselves, and the peers of sessions, which have read
everything. -/
structure Seated (h : Hub) (joined : List (String × Nat)) (sessions : List Session) : Prop where
  sound : h.Sound
  counted : h.Counted
  ids : Hub.Issued h.nextId (sessions.map (·.peer) ++ joined.map (·.2))
  /-- Everybody who is there is known. -/
  known : ∀ id p, h.peer? id = some p → (p.channel, id) ∈ joined ∨
    ∃ x ∈ sessions, x.isOpen = true ∧ x.peer = id ∧ x.channel = p.channel
  drained : ∀ x ∈ sessions, x.isOpen = true → h.peer? x.peer = some ⟨x.peer, x.channel, []⟩

section
variable {h : Hub} {joined : List (String × Nat)} {sessions : List Session} {c k : String}
  {id : Nat} {m : Message}

/-! ## Lookups -/

theorem Hub.Issued.perm {next : Nat} {ids ids' : List Nat} (issued : Hub.Issued next ids)
    (perm : ids.Perm ids') : Hub.Issued next ids' :=
  ⟨perm.nodup_iff.mp issued.distinct, fun i hi => issued.below i (perm.mem_iff.mpr hi)⟩

theorem mem_peersOf : id ∈ peersOf joined k ↔ (k, id) ∈ joined := by
  simp [peersOf]

theorem mem_linesOf {x : Session} : x ∈ linesOf sessions k ↔ x ∈ sessions ∧ x.channel = k := by
  simp [linesOf]

theorem Seated.apart (seated : Seated h joined sessions) (there : (k, id) ∈ joined) {x : Session}
    (hx : x ∈ sessions) : x.peer ≠ id := by
  intro eq
  refine (List.nodup_append.mp seated.ids.distinct).2.2 x.peer (List.mem_map_of_mem hx) id
    (List.mem_map_of_mem there) eq

theorem Seated.distinct_peersOf (seated : Seated h joined sessions) (k : String) :
    (peersOf joined k).Nodup :=
  (List.nodup_append.mp seated.ids.distinct).2.1.sublist (List.filter_sublist.map _)

theorem Seated.peer_lt (seated : Seated h joined sessions) (there : (k, id) ∈ joined) :
    id < h.nextId :=
  seated.ids.below id (List.mem_append_right _ (List.mem_map_of_mem there))

/-- A peer has joined one channel. -/
theorem Seated.joined_once (seated : Seated h joined sessions) (there : (k, id) ∈ joined)
    (there' : (c, id) ∈ joined) : k = c :=
  congrArg Prod.fst (List.inj_on_of_nodup_map (List.nodup_append.mp seated.ids.distinct).2.1
    there there' rfl)

/-- A peer is found on the channel that it has joined. -/
theorem Seated.channel (seated : Seated h joined sessions) (there : (k, id) ∈ joined) {p : Peer}
    (found : h.peer? id = some p) : p.channel = k := by
  rcases seated.known id p found with other | ⟨x, hx, _, same, _⟩
  · exact seated.joined_once other there
  · exact absurd same (seated.apart there hx)

/-- A channel is served as long as somebody has joined it and not left. -/
theorem Seated.reach_eq_zero (seated : Seated h joined sessions) (k : String) :
    h.reach k = 0 ↔ isServed (queues h joined k) (lines sessions k) = false := by
  have nobody : h.reach k = 0 ↔ ∀ id p, h.peer? id = some p → p.channel ≠ k := by
    rw [Hub.reach, List.length_eq_zero_iff, List.filter_eq_nil_iff]
    refine ⟨fun none id p found => by simpa using none p (Hub.mem_of_peer? found).1,
      fun none p hp => by simpa using none p.id p (seated.sound.peer?_of_mem hp)⟩
  rw [nobody, isServed, Bool.or_eq_false_iff, List.any_eq_false, List.any_eq_false]
  constructor
  · refine fun none => ⟨fun q hq some => ?_, fun x hx isOpen => ?_⟩
    · obtain ⟨id, hid, rfl⟩ := List.mem_map.mp hq
      obtain ⟨p, found⟩ := Option.isSome_iff_exists.mp (Option.isSome_map.symm.trans some)
      exact none id p found (seated.channel (mem_peersOf.mp hid) found)
    · obtain ⟨y, hy, rfl⟩ := List.mem_map.mp hx
      obtain ⟨there, mine⟩ := mem_linesOf.mp hy
      exact none _ _ (seated.drained y there isOpen) mine
  · rintro ⟨gone, closed⟩ id p found mine
    rcases seated.known id p found with there | ⟨x, hx, isOpen, _, same⟩
    · refine gone _ (List.mem_map_of_mem (mem_peersOf.mpr (mine ▸ there))) ?_
      rw [found]
      rfl
    · exact closed _ (List.mem_map_of_mem (mem_linesOf.mpr ⟨hx, same.trans mine⟩)) isOpen

/-! ## Joining -/

theorem Seated.join (seated : Seated h joined sessions) (c : String) :
    Seated (h.join c).1 (joined ++ [(c, h.nextId)]) sessions where
  sound := Hub.sound_act seated.sound (.join c)
  counted := seated.counted.join c
  ids := by
    rw [List.map_append, ← List.append_assoc]
    exact seated.ids.one_more
  known id p found := by
    rw [Hub.peer?_join] at found
    rcases Option.or_eq_some_iff.mp found with old | ⟨_, new⟩
    · exact (seated.known id p old).imp_left (List.mem_append_left _)
    · split at new
      · next same =>
        cases new
        exact .inl (List.mem_append_right _ (by simp [same]))
      · cases new
  drained x hx isOpen := by
    rw [Hub.peer?_join, seated.drained x hx isOpen]
    rfl

theorem Seated.connect (seated : Seated h joined sessions) (number : Nat) (c : String)
    (now : Instant) :
    Seated (h.join c).1 joined (sessions ++ [Session.new number h.nextId c now]) where
  sound := Hub.sound_act seated.sound (.join c)
  counted := seated.counted.join c
  ids := by
    refine seated.ids.one_more.perm ?_
    simpa [Session.new] using (List.perm_append_singleton h.nextId (joined.map (·.2))).append_left _
  known id p found := by
    rw [Hub.peer?_join] at found
    rcases Option.or_eq_some_iff.mp found with old | ⟨_, new⟩
    · refine (seated.known id p old).imp_right fun ⟨x, hx, there⟩ => ⟨x, ?_, there⟩
      exact List.mem_append_left _ hx
    · split at new
      · next same =>
        cases new
        exact .inr ⟨_, List.mem_append_right _ (List.mem_singleton_self _), rfl, same, rfl⟩
      · cases new
  drained x hx isOpen := by
    rw [Hub.peer?_join]
    rcases List.mem_append.mp hx with old | new
    · rw [seated.drained x old isOpen]
      rfl
    · rw [List.mem_singleton.mp new]
      have unused : h.peer? h.nextId = none := seated.sound.peer?_of_le (Nat.le_refl _)
      simp [Session.new, unused]

/-- A peer that joins has read everything there is for it, and those before it are as they were. -/
theorem Seated.queues_join (seated : Seated h joined sessions) (c k : String) :
    queues (h.join c).1 (joined ++ [(c, h.nextId)]) k =
      if c = k then queues h joined k ++ [some []] else queues h joined k := by
  have old : (peersOf joined k).map (fun id => ((h.join c).1.peer? id).map (·.unread)) =
      queues h joined k := by
    refine List.map_congr_left fun id hid => ?_
    have apart : h.nextId ≠ id := Nat.ne_of_gt (seated.peer_lt (mem_peersOf.mp hid))
    rw [Hub.peer?_join, if_neg apart, Option.or_none]
  have unused : h.peer? h.nextId = none := seated.sound.peer?_of_le (Nat.le_refl _)
  by_cases mine : c = k
  · have more : peersOf (joined ++ [(c, h.nextId)]) k = peersOf joined k ++ [h.nextId] := by
      simp [peersOf, mine]
    rw [queues, more, List.map_append, old, if_pos mine]
    simp [Hub.peer?_join, unused]
  · have same : peersOf (joined ++ [(c, h.nextId)]) k = peersOf joined k := by
      simp [peersOf, mine]
    rw [queues, same, old, if_neg mine]

theorem Seated.queues_connect (seated : Seated h joined sessions) (c k : String) :
    queues (h.join c).1 joined k = queues h joined k := by
  refine List.map_congr_left fun id hid => ?_
  have apart : h.nextId ≠ id := Nat.ne_of_gt (seated.peer_lt (mem_peersOf.mp hid))
  rw [Hub.peer?_join, if_neg apart, Option.or_none]

theorem lines_connect (number peer : Nat) (c k : String) (now : Instant) :
    lines (sessions ++ [Session.new number peer c now]) k =
      if c = k then lines sessions k ++ [Session.new 0 0 k now] else lines sessions k := by
  by_cases mine : c = k
  · simp [lines, linesOf, Session.new, Session.bare, mine]
  · simp [lines, linesOf, Session.new, mine]

/-! ## Leaving -/

theorem Hub.Sound.without (sound : h.Sound) (counted : h.Counted) (ids : List Nat) :
    (h.without ids).Sound ∧ (h.without ids).Counted ∧ (h.without ids).nextId = h.nextId := by
  induction ids generalizing h with
  | nil => exact ⟨sound, counted, rfl⟩
  | cons id rest ih =>
    obtain ⟨sound', counted', nextId⟩ :=
      ih (Hub.sound_act sound (.leave id)) (counted.leave sound id)
    exact ⟨sound', counted', nextId.trans (Hub.capacity_leave id).2⟩

/-- Everybody else stays in place when some leave, and the sessions of those are closed. -/
theorem Seated.without (seated : Seated h joined sessions) (gone : List Nat)
    {f : Session → Session} (same : ∀ x ∈ sessions, (f x).peer = x.peer ∧ (f x).channel = x.channel)
    (isOpen : ∀ x ∈ sessions, (f x).isOpen = true ↔ x.isOpen = true ∧ x.peer ∉ gone) :
    Seated (h.without gone) joined (sessions.map f) := by
  obtain ⟨sound, counted, nextId⟩ := seated.sound.without seated.counted gone
  refine ⟨sound, counted, ?_, fun id p found => ?_, fun y hy opened => ?_⟩
  · have peers : (sessions.map f).map (·.peer) = sessions.map (·.peer) := by
      rw [List.map_map]
      exact List.map_congr_left fun x hx => (same x hx).1
    rw [peers, nextId]
    exact seated.ids
  · rw [Hub.peer?_without] at found
    split at found
    · cases found
    · next stays =>
      refine (seated.known id p found).imp_right ?_
      rintro ⟨x, hx, wasOpen, rfl, channel⟩
      exact ⟨f x, List.mem_map_of_mem hx, (isOpen x hx).mpr ⟨wasOpen, stays⟩, (same x hx).1,
        (same x hx).2.trans channel⟩
  · obtain ⟨x, hx, rfl⟩ := List.mem_map.mp hy
    obtain ⟨wasOpen, stays⟩ := (isOpen x hx).mp opened
    rw [(same x hx).1, (same x hx).2, Hub.peer?_without, if_neg stays]
    exact seated.drained x hx wasOpen

/-- Where sessions end, the peers that have joined themselves keep what they have. -/
theorem Seated.queues_without (seated : Seated h joined sessions) {gone : List Nat}
    (theirs : ∀ id ∈ gone, ∃ x ∈ sessions, x.peer = id) (k : String) :
    queues (h.without gone) joined k = queues h joined k := by
  refine List.map_congr_left fun id hid => ?_
  have stays : id ∉ gone := by
    intro left
    obtain ⟨x, hx, same⟩ := theirs id left
    exact seated.apart (mem_peersOf.mp hid) hx same
  rw [Hub.peer?_without, if_neg stays]

/-- A peer that leaves has nothing any more, and the others have what they had. -/
theorem Seated.queues_leave (seated : Seated h joined sessions) {n : Nat}
    (hid : (peersOf joined c)[n]? = some id) (k : String) :
    queues (h.leave id) joined k =
      if c = k then (queues h joined k).set n none else queues h joined k := by
  have left (i : Nat) : ((h.leave id).peer? i).map (·.unread) =
      if i = id then none else (h.peer? i).map (·.unread) := by
    rw [Hub.peer?_leave]
    split <;> rfl
  by_cases mine : c = k
  · subst mine
    simp only [queues, left, if_true]
    exact map_set_of_key (fun i => i) (by simpa using seated.distinct_peersOf c) hid _ _
  · rw [if_neg mine]
    refine List.map_congr_left fun i hi => ?_
    have apart : i ≠ id := fun eq => mine (seated.joined_once
      (mem_peersOf.mp (List.mem_of_getElem? hid)) (eq ▸ mem_peersOf.mp hi))
    rw [left, if_neg apart]

/-! ## Reading -/

/-- A peer that has joined itself reads. -/
theorem Seated.drawn (seated : Seated h joined sessions) (there : (c, id) ∈ joined)
    (rest : List Message) : Seated (h.drawn id rest) joined sessions where
  sound := by
    refine ⟨?_, seated.sound.streams, seated.sound.isOpen, seated.sound.capacity⟩
    have ids : (h.drawn id rest).peers.map (·.id) = h.peers.map (·.id) := by
      simp only [Hub.drawn, List.map_map]
      refine List.map_congr_left fun p _ => ?_
      rw [Function.comp_apply]
      split <;> rfl
    rw [ids]
    exact seated.sound.peers
  counted := seated.counted.congr rfl (Hub.badges_map fun p => by split <;> exact ⟨rfl, rfl⟩)
  ids := seated.ids
  known i p found := by
    rw [Hub.peer?_drawn] at found
    obtain ⟨q, old, rfl⟩ := Option.map_eq_some_iff.mp found
    have channel : (if q.id = id then { q with unread := rest } else q).channel = q.channel := by
      split <;> rfl
    rw [channel]
    exact seated.known i q old
  drained x hx isOpen := by
    rw [Hub.peer?_drawn, seated.drained x hx isOpen]
    simp [seated.apart there hx]

/-- What a peer has read is gone from its queue alone. -/
theorem Seated.queues_drawn (seated : Seated h joined sessions) {n : Nat}
    (hid : (peersOf joined c)[n]? = some id) {p : Peer} (found : h.peer? id = some p)
    (rest : List Message) (k : String) :
    queues (h.drawn id rest) joined k =
      if c = k then (queues h joined k).set n (some rest) else queues h joined k := by
  have left (i : Nat) : ((h.drawn id rest).peer? i).map (·.unread) =
      if i = id then some rest else (h.peer? i).map (·.unread) := by
    rw [Hub.peer?_drawn, Option.map_map]
    by_cases same : i = id
    · rw [same, found]
      simp [(Hub.mem_of_peer? found).2]
    · rw [if_neg same]
      refine Option.map_congr fun q hq => ?_
      rw [Function.comp_apply, (Hub.mem_of_peer? hq).2, if_neg same]
  by_cases mine : c = k
  · subst mine
    simp only [queues, left, if_true]
    exact map_set_of_key (fun i => i) (by simpa using seated.distinct_peersOf c) hid _ _
  · rw [if_neg mine]
    refine List.map_congr_left fun i hi => ?_
    have apart : i ≠ id := fun eq => mine (seated.joined_once
      (mem_peersOf.mp (List.mem_of_getElem? hid)) (eq ▸ mem_peersOf.mp hi))
    rw [left, if_neg apart]

/-! ## Publishing -/

/-- The peers of the open sessions of a channel. -/
def recipients (sessions : List Session) (c : String) : List Nat :=
  (sessions.filter fun x => x.isOpen ∧ x.channel = c).map (·.peer)

/-- The hub after a message was published to a channel and written to its sessions. -/
def Hub.served (h : Hub) (sessions : List Session) (c : String) (m : Message) : Hub :=
  (h.delivered c m).drain (recipients sessions c)

theorem Seated.recipient_iff (seated : Seated h joined sessions) {x : Session} (hx : x ∈ sessions) :
    x.peer ∈ recipients sessions c ↔ x.isOpen = true ∧ x.channel = c := by
  simp only [recipients, List.mem_map, List.mem_filter, decide_eq_true_eq]
  constructor
  · rintro ⟨y, ⟨hy, there⟩, same⟩
    have distinct := (List.nodup_append.mp seated.ids.distinct).1
    rwa [← List.inj_on_of_nodup_map distinct hy hx same]
  · exact fun there => ⟨x, ⟨hx, there⟩, rfl⟩

theorem Seated.not_recipient (seated : Seated h joined sessions) (there : (k, id) ∈ joined) :
    id ∉ recipients sessions c := by
  simp only [recipients, List.mem_map, List.mem_filter]
  rintro ⟨x, ⟨hx, _⟩, same⟩
  exact seated.apart there hx same

/-- What a peer has not read after a message was published and written. -/
theorem peer?_served (id : Nat) : (h.served sessions c m).peer? id = (h.peer? id).map fun p =>
    { p with unread :=
        if id ∈ recipients sessions c then []
        else if p.channel = c then enqueue h.capacity p.unread m else p.unread } := by
  rw [Hub.served, Hub.peer?_drain, Hub.peer?_delivered, Option.map_map]
  refine Option.map_congr fun p _ => ?_
  rw [Function.comp_apply]
  by_cases read : id ∈ recipients sessions c <;> by_cases mine : p.channel = c <;>
    simp [read, mine]

theorem Seated.served (seated : Seated h joined sessions) (c : String) (m : Message)
    (now : Instant) :
    Seated (h.served sessions c m) joined
      (sessions.map (Switchboard.written c m now)) := by
  have badges : (h.served sessions c m).badges = h.badges :=
    Hub.badges_drain.trans (Hub.badges_map fun p => by split <;> exact ⟨rfl, rfl⟩)
  have same (x : Session) : (Switchboard.written c m now x).peer = x.peer ∧
      (Switchboard.written c m now x).channel = x.channel ∧
      (Switchboard.written c m now x).isOpen = x.isOpen := by
    unfold Switchboard.written
    split <;> exact ⟨rfl, rfl, rfl⟩
  refine ⟨?_, seated.counted.congr rfl badges, ?_, fun id p found => ?_, fun y hy isOpen => ?_⟩
  · refine ⟨?_, seated.sound.streams, seated.sound.isOpen, seated.sound.capacity⟩
    have ids (h : Hub) : h.peers.map (·.id) = h.badges.map (·.1) := by simp [Hub.badges]
    rw [ids, badges, ← ids]
    exact seated.sound.peers
  · have peers : (sessions.map (Switchboard.written c m now)).map (·.peer) =
        sessions.map (·.peer) := by
      rw [List.map_map]
      exact List.map_congr_left fun x _ => (same x).1
    rw [peers]
    exact seated.ids
  · rw [peer?_served] at found
    obtain ⟨q, old, rfl⟩ := Option.map_eq_some_iff.mp found
    refine (seated.known id q old).imp_right ?_
    rintro ⟨x, hx, wasOpen, peer, channel⟩
    obtain ⟨peer', channel', isOpen'⟩ := same x
    exact ⟨_, List.mem_map_of_mem hx, isOpen'.trans wasOpen, peer'.trans peer,
      channel'.trans channel⟩
  · obtain ⟨x, hx, rfl⟩ := List.mem_map.mp hy
    obtain ⟨peer, channel, opened⟩ := same x
    rw [opened] at isOpen
    rw [peer, channel, peer?_served, seated.drained x hx isOpen]
    simp only [Option.map_some, seated.recipient_iff hx, isOpen, true_and]
    by_cases mine : x.channel = c <;> simp [mine]

/-- A message ends the queue of every peer of its channel that has not left. -/
theorem Seated.queues_served (seated : Seated h joined sessions) (c : String) (m : Message)
    (k : String) :
    queues (h.served sessions c m) joined k =
      if c = k then (queues h joined k).map (Option.map fun q => enqueue h.capacity q m)
      else queues h joined k := by
  have left (i : Nat) (hi : (k, i) ∈ joined) :
      ((h.served sessions c m).peer? i).map (·.unread) = (h.peer? i).map fun p =>
        if c = k then enqueue h.capacity p.unread m else p.unread := by
    rw [peer?_served, Option.map_map]
    refine Option.map_congr fun p found => ?_
    simp only [Function.comp_apply, seated.not_recipient hi, if_false, seated.channel hi found,
      eq_comm]
  by_cases mine : c = k
  · rw [if_pos mine, queues, queues, List.map_map]
    refine List.map_congr_left fun i hi => ?_
    rw [left i (mem_peersOf.mp hi), Function.comp_apply, Option.map_map]
    simp only [mine, if_true]
    rfl
  · rw [if_neg mine]
    refine List.map_congr_left fun i hi => ?_
    rw [left i (mem_peersOf.mp hi)]
    simp only [mine, if_false]

theorem lines_written (c : String) (m : Message) (now : Instant) (k : String) :
    lines (sessions.map (Switchboard.written c m now)) k =
      if c = k then (lines sessions k).map fun x =>
        if x.isOpen then x.put (.message m) now else x
      else lines sessions k := by
  have channel (x) : (Switchboard.written c m now x).channel = x.channel := by
    unfold Switchboard.written
    split <;> rfl
  have filtered : linesOf (sessions.map (Switchboard.written c m now)) k =
      (linesOf sessions k).map (Switchboard.written c m now) := by
    rw [linesOf, List.filter_map, linesOf]
    simp only [Function.comp_def, channel]
  rw [lines, filtered, List.map_map]
  by_cases mine : c = k
  · rw [if_pos mine, lines, List.map_map]
    refine List.map_congr_left fun x hx => ?_
    have here := (mem_linesOf.mp hx).2
    by_cases isOpen : x.isOpen = true <;>
      simp [Switchboard.written, isOpen, here, mine, Session.bare, Session.put]
  · rw [if_neg mine]
    refine List.map_congr_left fun x hx => ?_
    have other : x.channel ≠ c := fun eq => mine (eq.symm.trans (mem_linesOf.mp hx).2)
    simp [Switchboard.written, other]

/-! ## Sessions -/

theorem lines_cleared (limit : Span) (now : Instant) (k : String) :
    lines (sessions.map (Switchboard.cleared limit now)) k =
      (lines sessions k).map (Switchboard.cleared limit now) := by
  have channel (x) : (Switchboard.cleared limit now x).channel = x.channel := by
    unfold Switchboard.cleared
    split <;> rfl
  have filtered : linesOf (sessions.map (Switchboard.cleared limit now)) k =
      (linesOf sessions k).map (Switchboard.cleared limit now) := by
    rw [linesOf, List.filter_map, linesOf]
    simp only [Function.comp_def, channel]
  rw [lines, filtered, lines, List.map_map, List.map_map]
  refine List.map_congr_left fun x _ => ?_
  have same : x.bare.isIdle limit now = x.isIdle limit now := rfl
  simp only [Function.comp_apply, Switchboard.cleared, same]
  split <;> rfl

/-- A session that is put in its place is put in its place among those of its channel, and the
others are as they were. -/
theorem lines_update {s : Switchboard} (numbers : (s.sessions.map (·.number)).Nodup) {n : Nat}
    {x y : Session} (hx : (linesOf s.sessions c)[n]? = some x) (number : y.number = x.number)
    (channel : y.channel = x.channel) (k : String) :
    lines (s.update y).sessions k =
      if c = k then (lines s.sessions k).set n y.bare else lines s.sessions k := by
  obtain ⟨there, here⟩ := mem_linesOf.mp (List.mem_of_getElem? hx)
  -- The session in this place is the only one that is exchanged.
  have own (z) (hz : z ∈ s.sessions) (same : z.number = y.number) : z = x :=
    List.inj_on_of_nodup_map numbers hz there (same.trans number)
  have filtered : linesOf (s.update y).sessions k =
      (linesOf s.sessions k).map fun z => if z.number = y.number then y else z := by
    rw [linesOf, Switchboard.update, List.filter_map, linesOf]
    congr 1
    refine List.filter_congr fun z hz => ?_
    rw [Function.comp_apply]
    split
    · next same => rw [own z hz same, channel]
    · rfl
  rw [lines, filtered, List.map_map]
  by_cases mine : c = k
  · subst mine
    have distinct : ((linesOf s.sessions c).map (·.number)).Nodup :=
      numbers.sublist (List.filter_sublist.map _)
    rw [if_pos rfl, lines, ← map_set_of_key _ distinct hx, ← number]
    refine List.map_congr_left fun z _ => ?_
    rw [Function.comp_apply]
    split <;> rfl
  · rw [if_neg mine]
    refine List.map_congr_left fun z hz => ?_
    have apart : z.number ≠ y.number := fun same => by
      have eq := own z (mem_linesOf.mp hz).1 same
      exact mine (here.symm.trans (eq ▸ (mem_linesOf.mp hz).2))
    rw [Function.comp_apply, if_neg apart]

end

end PaymentRelay
