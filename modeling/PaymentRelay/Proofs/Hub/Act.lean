import Mathlib.Data.List.Nodup
import PaymentRelay.Proofs.Hub.Lookup
import PaymentRelay.Proofs.Machine

/-
  The hub as a machine.

  `act` runs whatever peers, publishers and listeners can do at a hub, and what can come of it is
  said once (`Effect`, `Sound.effect`). A receiver is a peer on its channel, or a stream of replies.
  What an act means to one receiver follows from the effect: a message is sent to it, it reads one
  or finds nothing, it goes, or nothing happens to it (`Service`, `Sound.service`). A receiver that
  comes gets the next id, and one that has gone does not come back (`Sound.enters`,
  `Sound.absent`).
-/

namespace PaymentRelay

namespace Hub

/-- Something that happens at a hub. -/
inductive Act where
  | join (channel : String)
  | leave (peer : Nat)
  | publish (channel : String) (m : Message)
  /-- A peer replies, with any message. -/
  | reply (peer : Nat) (m : Message)
  | subscribe
  | unsubscribe (stream : Nat)
  /-- A peer reads one message. -/
  | read (peer : Nat)
  /-- A reply is read from a stream. -/
  | hear (stream : Nat)

/-- What can be seen of an act. -/
inductive Report where
  | silent
  | joined (peer : Nat)
  | published (result : Except BusError Nat)
  /-- A reply as it is stamped, and what became of it. -/
  | replied (m : Message) (result : Except BusError Unit)
  | subscribed (stream : Nat)
  | received (r : Received)

/-- What has happened: the acts with their reports. -/
abbrev Log := List (Act × Report)

/-- The hub as a machine. -/
def act : Machine Hub Act Report := fun h a =>
  match a with
  | .join channel => ((h.join channel).1, .joined (h.join channel).2)
  | .leave peer => (h.leave peer, .silent)
  | .publish channel m => ((h.publish channel m).1, .published (h.publish channel m).2)
  | .reply peer m =>
    match h.peer? peer with
    | some p => ((h.reply p m).1, .replied (m.stamped p.channel) (h.reply p m).2)
    | none => (h, .silent)
  | .subscribe => (h.subscribe.1, .subscribed h.subscribe.2)
  | .unsubscribe stream => (h.unsubscribe stream, .silent)
  | .read peer =>
    match h.peer? peer with
    | some p => ((h.receive p).1, .received (h.receive p).2)
    | none => (h, .silent)
  | .hear stream =>
    match h.stream? stream with
    | some s => ((h.receiveReply s).1, .received (h.receiveReply s).2)
    | none => (h, .silent)

/-- The hub after a message was delivered to a channel. -/
def delivered (h : Hub) (channel : String) (m : Message) : Hub :=
  { h with peers := h.deliver channel m, published := h.published + 1 }

/-- The hub after a reply was taken in. -/
def spread (h : Hub) (m : Message) : Hub :=
  { h with streams := h.streams.map fun s => { s with unread := enqueue h.capacity s.unread m } }

/-- The hub after a peer has read a message, with what it has not read then. -/
def drawn (h : Hub) (peer : Nat) (rest : List Message) : Hub :=
  { h with peers := h.peers.map fun p => if p.id = peer then { p with unread := rest } else p }

/-- The hub after a reply was read from a stream. -/
def tapped (h : Hub) (stream : Nat) (rest : List Message) : Hub :=
  { h with streams := h.streams.map fun s =>
      if s.id = stream then { s with unread := rest } else s }

/-- Ids that were given out in their order: each of them once. -/
structure Issued (next : Nat) (ids : List Nat) : Prop where
  distinct : ids.Nodup
  below : ∀ i ∈ ids, i < next

namespace Issued

variable {next : Nat} {ids : List Nat}

theorem nil : Issued next [] := ⟨.nil, by simp⟩

theorem one_more (issued : Issued next ids) : Issued (next + 1) (ids ++ [next]) where
  distinct := by
    rw [List.nodup_append]
    refine ⟨issued.distinct, by simp, fun i hi j hj eq => ?_⟩
    have below := issued.below i hi
    rw [eq, List.mem_singleton.mp hj] at below
    exact Nat.lt_irrefl _ below
  below i hi := by
    rcases List.mem_append.mp hi with old | new
    · exact Nat.lt_succ_of_lt (issued.below i old)
    · exact List.mem_singleton.mp new ▸ Nat.lt_succ_self next

theorem filter (issued : Issued next ids) (p : Nat → Bool) : Issued next (ids.filter p) :=
  ⟨issued.distinct.filter p, fun i hi => issued.below i (List.mem_of_mem_filter hi)⟩

theorem mono (issued : Issued next ids) {later : Nat} (le : next ≤ later) : Issued later ids :=
  ⟨issued.distinct, fun i hi => Nat.lt_of_lt_of_le (issued.below i hi) le⟩

end Issued

/-- What every act keeps: everybody has an id of their own, and the hub is there. -/
structure Sound (h : Hub) : Prop where
  peers : Issued h.nextId (h.peers.map (·.id))
  streams : Issued h.nextId (h.streams.map (·.id))
  isOpen : h.isOpen = true
  capacity : 0 < h.capacity

theorem sound_new (capacity limit : Nat) : (new capacity limit).Sound :=
  ⟨.nil, .nil, rfl, capacity_pos capacity limit⟩

/-! ## Look-ups -/

section
variable {h : Hub} {p : Peer} {s : Stream} {id : Nat}

/-- Changing what peers have not read changes what is found under their ids. -/
theorem peer?_map {f : Peer → Peer} (hf : ∀ p, (f p).id = p.id) (id : Nat) :
    ({ h with peers := h.peers.map f }).peer? id = (h.peer? id).map f := by
  have same : ((fun p : Peer => decide (p.id = id)) ∘ f) = fun p => decide (p.id = id) := by
    funext p
    rw [Function.comp_apply, hf]
  simp only [peer?, List.find?_map, same]

/-- Changing what peers have not read leaves their ids and channels. -/
theorem badges_map {f : Peer → Peer} (hf : ∀ p, (f p).id = p.id ∧ (f p).channel = p.channel) :
    ({ h with peers := h.peers.map f } : Hub).badges = h.badges := by
  simp only [badges, List.map_map]
  refine List.map_congr_left fun p _ => ?_
  rw [Function.comp_apply, (hf p).1, (hf p).2]

theorem badges_leave_eq (id : Nat) : (h.leave id).badges = h.badges.filter fun b => b.1 ≠ id := by
  unfold leave
  cases found : h.peer? id with
  | none =>
    have stay : ∀ b ∈ h.badges, b.1 ≠ id := by
      simpa [badges] using List.find?_eq_none.mp found
    exact (List.filter_eq_self.mpr (by simpa using stay)).symm
  | some p => simp only [badges, List.filter_map, Function.comp_def]

theorem mem_of_peer? (hp : h.peer? id = some p) : p ∈ h.peers ∧ p.id = id :=
  ⟨List.mem_of_find?_eq_some hp, by simpa using List.find?_some hp⟩

theorem mem_of_stream? (hs : h.stream? id = some s) : s ∈ h.streams ∧ s.id = id :=
  ⟨List.mem_of_find?_eq_some hs, by simpa using List.find?_some hs⟩

theorem Sound.peer?_of_mem (sound : h.Sound) (hp : p ∈ h.peers) : h.peer? p.id = some p := by
  cases found : h.peer? p.id with
  | none => exact absurd (List.find?_eq_none.mp found p hp) (by simp)
  | some q =>
    obtain ⟨hq, same⟩ := mem_of_peer? found
    rw [List.inj_on_of_nodup_map sound.peers.distinct hq hp same]

theorem Sound.peer?_of_le (sound : h.Sound) (le : h.nextId ≤ id) : h.peer? id = none := by
  cases found : h.peer? id with
  | none => rfl
  | some p =>
    obtain ⟨hp, rfl⟩ := mem_of_peer? found
    exact absurd (sound.peers.below _ (List.mem_map_of_mem hp)) (Nat.not_lt.mpr le)

theorem Sound.stream?_of_le (sound : h.Sound) (le : h.nextId ≤ id) : h.stream? id = none := by
  cases found : h.stream? id with
  | none => rfl
  | some s =>
    obtain ⟨hs, rfl⟩ := mem_of_stream? found
    exact absurd (sound.streams.below _ (List.mem_map_of_mem hs)) (Nat.not_lt.mpr le)

/-- A peer that joins is found under its id, and all others as before. -/
theorem peer?_join (channel : String) :
    (h.join channel).1.peer? id =
      (h.peer? id).or (if h.nextId = id then some ⟨id, channel, []⟩ else none) := by
  simp only [join, peer?, List.find?_append, List.find?_singleton, decide_eq_true_eq]
  split <;> simp_all

theorem stream?_subscribe :
    h.subscribe.1.stream? id =
      (h.stream? id).or (if h.nextId = id then some ⟨id, []⟩ else none) := by
  simp only [subscribe, stream?, List.find?_append, List.find?_singleton, decide_eq_true_eq]
  split <;> simp_all

/-- Those that stay are found as before. -/
theorem peer?_leave (gone : Nat) :
    (h.leave gone).peer? id = if id = gone then none else h.peer? id := by
  unfold leave
  split
  · next missing =>
    split
    · next same => rw [same, missing]
    · rfl
  · simp only [peer?, List.find?_filter]
    split
    · next same =>
      subst same
      simp
    · next other =>
      congr 1
      funext q
      by_cases hq : q.id = id
      · simp [hq, other]
      · simp [hq]

theorem stream?_leave (gone : Nat) : (h.leave gone).stream? id = h.stream? id := by
  rw [stream?, streams_leave, stream?]

theorem stream?_unsubscribe (gone : Nat) :
    (h.unsubscribe gone).stream? id = if id = gone then none else h.stream? id := by
  simp only [unsubscribe, stream?, List.find?_filter]
  split
  · next same =>
    subst same
    simp
  · next other =>
    congr 1
    funext q
    by_cases hq : q.id = id
    · simp [hq, other]
    · simp [hq]

/-- What is delivered to a channel is found with its peers. -/
theorem peer?_delivered (channel : String) (m : Message) :
    (h.delivered channel m).peer? id = (h.peer? id).map fun p =>
      if p.channel = channel then { p with unread := enqueue h.capacity p.unread m } else p :=
  peer?_map (h := h) (fun p => by split <;> rfl) id

theorem stream?_spread (m : Message) :
    (h.spread m).stream? id = (h.stream? id).map fun s =>
      { s with unread := enqueue h.capacity s.unread m } :=
  stream?_map (f := fun s => { s with unread := enqueue h.capacity s.unread m }) (fun _ => rfl) id

/-- A peer takes from its own queue alone. -/
theorem peer?_drawn (peer : Nat) (rest : List Message) :
    (h.drawn peer rest).peer? id =
      (h.peer? id).map fun p => if p.id = peer then { p with unread := rest } else p :=
  peer?_map (h := h) (fun p => by split <;> rfl) id

theorem stream?_tapped (stream : Nat) (rest : List Message) :
    (h.tapped stream rest).stream? id =
      (h.stream? id).map fun s => if s.id = stream then { s with unread := rest } else s :=
  stream?_map (h := h) (fun s => by split <;> rfl) id

end

/-! ## Effects -/

/-- What can come of an act. -/
inductive Effect (h : Hub) : Act → Hub × Report → Prop
  | joined (channel : String) : Effect h (.join channel) ((h.join channel).1, .joined h.nextId)
  | left (peer : Nat) : Effect h (.leave peer) (h.leave peer, .silent)
  /-- A message is refused. -/
  | refused {channel : String} {m : Message} {e : BusError}
      (answer : (h.publish channel m).2 = .error e) :
      Effect h (.publish channel m) (h, .published (.error e))
  | published {channel : String} {m : Message} {n : Nat}
      (answer : (h.publish channel m).2 = .ok n) :
      Effect h (.publish channel m) (h.delivered channel m, .published (.ok n))
  /-- A reply is refused. -/
  | unheard {peer : Nat} {p : Peer} {m : Message} {e : BusError} (found : h.peer? peer = some p)
      (answer : (h.reply p m).2 = .error e) :
      Effect h (.reply peer m) (h, .replied (m.stamped p.channel) (.error e))
  | replied {peer : Nat} {p : Peer} {m : Message} (found : h.peer? peer = some p)
      (answer : (h.reply p m).2 = .ok ()) :
      Effect h (.reply peer m)
        (h.spread (m.stamped p.channel), .replied (m.stamped p.channel) (.ok ()))
  | subscribed : Effect h .subscribe (h.subscribe.1, .subscribed h.nextId)
  | unsubscribed (stream : Nat) : Effect h (.unsubscribe stream) (h.unsubscribe stream, .silent)
  | read {peer : Nat} {p : Peer} {m : Message} {rest : List Message}
      (found : h.peer? peer = some p) (unread : p.unread = m :: rest) :
      Effect h (.read peer) (h.drawn peer rest, .received (.message m))
  /-- A peer has read everything. -/
  | idle {peer : Nat} {p : Peer} (found : h.peer? peer = some p) (unread : p.unread = []) :
      Effect h (.read peer) (h, .received .empty)
  | heard {stream : Nat} {s : Stream} {m : Message} {rest : List Message}
      (found : h.stream? stream = some s) (unread : s.unread = m :: rest) :
      Effect h (.hear stream) (h.tapped stream rest, .received (.message m))
  /-- A stream is drained. -/
  | drained {stream : Nat} {s : Stream} (found : h.stream? stream = some s)
      (unread : s.unread = []) : Effect h (.hear stream) (h, .received .empty)
  /-- Whoever reads or replies is not there. -/
  | noReader {peer : Nat} (missing : h.peer? peer = none) : Effect h (.read peer) (h, .silent)
  | noReplier {peer : Nat} {m : Message} (missing : h.peer? peer = none) :
      Effect h (.reply peer m) (h, .silent)
  | noStream {stream : Nat} (missing : h.stream? stream = none) :
      Effect h (.hear stream) (h, .silent)

section
variable {h : Hub} {a : Act} {x : Hub × Report}

/-- A message is refused, and then nothing changes, or it goes to every peer of its channel. -/
theorem publish_cases (h : Hub) (channel : String) (m : Message) :
    ((∃ e, (h.publish channel m).2 = .error e) ∧ (h.publish channel m).1 = h) ∨
    ((∃ n, (h.publish channel m).2 = .ok n) ∧
      (h.publish channel m).1 = h.delivered channel m) := by
  unfold publish
  split
  · next e _ => exact .inl ⟨⟨e, rfl⟩, rfl⟩
  · split
    · exact .inl ⟨⟨_, rfl⟩, rfl⟩
    · exact .inr ⟨⟨_, rfl⟩, rfl⟩

/-- What comes of every act. -/
theorem Sound.effect (sound : h.Sound) (a : Act) : Effect h a (h.act a) := by
  cases a with
  | join channel => exact .joined channel
  | leave peer => exact .left peer
  | publish channel m =>
    simp only [act]
    rcases publish_cases h channel m with ⟨⟨e, answer⟩, eq⟩ | ⟨⟨n, answer⟩, eq⟩ <;>
      rw [answer, eq]
    · exact .refused answer
    · exact .published answer
  | reply peer m =>
    cases found : h.peer? peer with
    | none =>
      simp only [act, found]
      exact .noReplier found
    | some p =>
      simp only [act, found]
      rcases reply_cases h p m with ⟨⟨e, answer⟩, eq⟩ | ⟨answer, eq⟩ <;> rw [answer, eq]
      · exact .unheard found answer
      · exact .replied found answer
  | subscribe => exact .subscribed
  | unsubscribe stream => exact .unsubscribed stream
  | read peer =>
    cases found : h.peer? peer with
    | none =>
      simp only [act, found]
      exact .noReader found
    | some p =>
      simp only [act, found]
      cases unread : p.unread with
      | nil =>
        simp only [receive, unread]
        exact .idle found unread
      | cons m rest =>
        simp only [receive, unread]
        rw [(mem_of_peer? found).2]
        exact .read found unread
  | hear stream =>
    cases found : h.stream? stream with
    | none =>
      simp only [act, found]
      exact .noStream found
    | some s =>
      simp only [act, found]
      cases unread : s.unread with
      | nil =>
        simp only [receiveReply, unread, sound.isOpen, Bool.true_or, if_true]
        exact .drained found unread
      | cons m rest =>
        simp only [receiveReply, unread]
        rw [(mem_of_stream? found).2]
        exact .heard found unread

/-- Where a peer is found after an act, it was there before, on the same channel, or it has just
joined. -/
theorem Effect.peer? (effect : Effect h a x) {id : Nat} {p : Peer} (hp : x.1.peer? id = some p) :
    (∃ q, h.peer? id = some q ∧ q.channel = p.channel) ∨
      id = h.nextId ∧ a = .join p.channel := by
  have mapped : ∀ {f : Peer → Peer}, (∀ q, (f q).channel = q.channel) →
      (h.peer? id).map f = some p → ∃ q, h.peer? id = some q ∧ q.channel = p.channel := by
    intro f same hp
    obtain ⟨q, found, rfl⟩ := Option.map_eq_some_iff.mp hp
    exact ⟨q, found, (same q).symm⟩
  cases effect with
  | joined channel =>
    rw [peer?_join] at hp
    rcases Option.or_eq_some_iff.mp hp with found | ⟨_, new⟩
    · exact .inl ⟨p, found, rfl⟩
    · split at new
      · next same =>
        cases new
        exact .inr ⟨same.symm, rfl⟩
      · cases new
  | left peer =>
    rw [peer?_leave] at hp
    split at hp
    · cases hp
    · exact .inl ⟨p, hp, rfl⟩
  | published =>
    rw [peer?_delivered] at hp
    exact .inl (mapped (fun q => by split <;> rfl) hp)
  | read =>
    rw [peer?_drawn] at hp
    exact .inl (mapped (fun q => by split <;> rfl) hp)
  | _ => exact .inl ⟨p, hp, rfl⟩

/-- Where a stream is found after an act, it was there before, or it has just been opened. -/
theorem Effect.stream? (effect : Effect h a x) {id : Nat} {s : Stream}
    (hs : x.1.stream? id = some s) : (∃ t, h.stream? id = some t) ∨ id = h.nextId := by
  have mapped : ∀ {f : Stream → Stream}, (h.stream? id).map f = some s →
      ∃ t, h.stream? id = some t := by
    intro f hs
    obtain ⟨t, found, _⟩ := Option.map_eq_some_iff.mp hs
    exact ⟨t, found⟩
  cases effect with
  | left peer => exact .inl ⟨s, (stream?_leave peer).symm.trans hs⟩
  | replied =>
    rw [stream?_spread] at hs
    exact .inl (mapped hs)
  | subscribed =>
    rw [stream?_subscribe] at hs
    rcases Option.or_eq_some_iff.mp hs with found | ⟨_, new⟩
    · exact .inl ⟨s, found⟩
    · split at new
      · next same => exact .inr same.symm
      · cases new
  | unsubscribed stream =>
    rw [stream?_unsubscribe] at hs
    split at hs
    · cases hs
    · exact .inl ⟨s, hs⟩
  | heard =>
    rw [stream?_tapped] at hs
    exact .inl (mapped hs)
  | _ => exact .inl ⟨s, hs⟩

/-- Only those that come get an id, and it is the next one. -/
theorem Effect.nextId (effect : Effect h a x) :
    x.1.nextId = match a with
      | .join _ | .subscribe => h.nextId + 1
      | _ => h.nextId := by
  cases effect with
  | left peer => exact (capacity_leave peer).2
  | _ => rfl

theorem Effect.nextId_le (effect : Effect h a x) : h.nextId ≤ x.1.nextId := by
  rw [effect.nextId]
  split <;> omega

/-- What the hub was made with stays. -/
theorem Effect.fixed (effect : Effect h a x) :
    x.1.capacity = h.capacity ∧ x.1.limit = h.limit ∧ x.1.isOpen = h.isOpen := by
  cases effect with
  | left peer =>
    unfold leave
    split <;> exact ⟨rfl, rfl, rfl⟩
  | _ => exact ⟨rfl, rfl, rfl⟩

/-- Who is there after an act: whoever was there, without those that went and with whoever
came. -/
theorem Effect.ids (effect : Effect h a x) :
    x.1.badges = (match a with
      | .join channel => h.badges ++ [(h.nextId, channel)]
      | .leave peer => h.badges.filter fun b => b.1 ≠ peer
      | _ => h.badges) ∧
    x.1.streams.map (·.id) = match a with
      | .subscribe => h.streams.map (·.id) ++ [h.nextId]
      | .unsubscribe stream => (h.streams.map (·.id)).filter fun s => s ≠ stream
      | _ => h.streams.map (·.id) := by
  cases effect with
  | joined channel => exact ⟨by simp [badges, join], rfl⟩
  | left peer => exact ⟨badges_leave_eq peer, by rw [streams_leave]⟩
  | published => exact ⟨badges_map fun p => by split <;> exact ⟨rfl, rfl⟩, rfl⟩
  | replied => exact ⟨rfl, by simp [spread, Function.comp_def]⟩
  | subscribed => exact ⟨rfl, by simp [subscribe]⟩
  | unsubscribed stream =>
    exact ⟨rfl, by simp [unsubscribe, List.filter_map, Function.comp_def]⟩
  | read => exact ⟨badges_map fun p => by split <;> exact ⟨rfl, rfl⟩, rfl⟩
  | heard =>
    refine ⟨rfl, ?_⟩
    simp only [tapped, List.map_map]
    refine List.map_congr_left fun s _ => ?_
    simp only [Function.comp_apply]
    split <;> rfl
  | _ => exact ⟨rfl, rfl⟩

/-- Everything that can be done keeps the hub sound. -/
theorem sound_act (sound : h.Sound) (a : Act) : (h.act a).1.Sound := by
  have effect := sound.effect a
  generalize h.act a = x at effect ⊢
  obtain ⟨badges, streams⟩ := effect.ids
  obtain ⟨capacity, _, isOpen⟩ := effect.fixed
  have ids (h : Hub) : h.peers.map (·.id) = h.badges.map (·.1) := by simp [Hub.badges]
  have peers := sound.peers
  rw [ids] at peers
  refine ⟨?_, ?_, isOpen.trans sound.isOpen, capacity ▸ sound.capacity⟩
  · rw [ids, badges, effect.nextId]
    cases a with
    | join channel => simpa using peers.one_more
    | leave peer => simpa [List.filter_map, Function.comp_def] using peers.filter (· ≠ peer)
    | subscribe => exact peers.mono (Nat.le_succ _)
    | _ => exact peers
  · rw [streams, effect.nextId]
    cases a with
    | join channel => exact sound.streams.mono (Nat.le_succ _)
    | subscribe => exact sound.streams.one_more
    | unsubscribe stream => exact sound.streams.filter _
    | _ => exact sound.streams

end

end Hub

end PaymentRelay
