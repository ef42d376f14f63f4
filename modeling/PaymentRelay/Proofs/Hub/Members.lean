import Mathlib.Data.List.Dedup
import Mathlib.Data.List.Perm.Subperm
import PaymentRelay.Proofs.Dict
import PaymentRelay.Proofs.Hub.Act

/-
  The directory of the hub and its members.

  The number of members of a channel is kept beside the peers, one up for each that joins and one
  down for each that leaves. That it agrees with them is an invariant (`Counted`): the entry of a
  channel is the number of its peers, and there is none where there are no peers. Who has joined
  and not left is told by the history alone (`roster`, `listeners`); a hub that agrees with its
  history (`Kept`) answers by it (`answers_by_membership`).
-/

namespace PaymentRelay

namespace Hub

/-- Who has joined and not left, with their channels. -/
def roster (t : Log) : List (Nat × String) :=
  t.foldl (fun known x =>
    match x with
    | (.join channel, .joined peer) => known ++ [(peer, channel)]
    | (.leave peer, _) => known.filter fun b => b.1 ≠ peer
    | _ => known) []

/-- Who has joined a channel and not left. -/
def joinedTo (t : Log) (channel : String) : List Nat :=
  ((roster t).filter fun b => b.2 = channel).map (·.1)

/-- The streams that were opened and not given up. -/
def listeners (t : Log) : List Nat :=
  t.foldl (fun known x =>
    match x with
    | (.subscribe, .subscribed stream) => known ++ [stream]
    | (.unsubscribe stream, _) => known.filter fun s => s ≠ stream
    | _ => known) []

/-- A message was published to someone. -/
def isPublished : Act × Report → Bool
  | (.publish .., .published (.ok _)) => true
  | _ => false

/-- The directory has an entry for each channel with peers, and it is their number. -/
structure Counted (h : Hub) : Prop where
  sorted : h.directory.counts.Pairwise fun a b => a.1 < b.1
  lookup : ∀ k, Dict.lookup k h.directory.counts =
    if h.reach k = 0 then none else some (h.reach k)

/-- A message waits to be read by a peer or from a stream. -/
def Waits (h : Hub) (m : Message) : Prop :=
  (∃ p ∈ h.peers, m ∈ p.unread) ∨ ∃ s ∈ h.streams, m ∈ s.unread

/-- A message was taken in, to a channel or as a reply. -/
def IsSent (m : Message) : Act × Report → Prop
  | (.publish _ m', .published (.ok _)) => m' = m
  | (.reply .., .replied m' (.ok ())) => m' = m
  | _ => False

section
variable {limit : Nat} {t : Log} {h : Hub} {p : Peer} {a : Act} {x : Hub × Report}
  {channel k : String} {m : Message}

/-! ## Peers -/

/-- The peers of a channel are counted by their badges. -/
theorem reach_eq (h : Hub) (k : String) :
    h.reach k = h.badges.countP fun b => decide (b.2 = k) := by
  rw [reach, ← List.countP_eq_length_filter, badges, List.countP_map]
  rfl

theorem Sound.perm_others (sound : h.Sound) (hp : p ∈ h.peers) :
    h.peers.Perm (p :: h.peers.filter fun q => q.id ≠ p.id) := by
  have distinct : h.peers.Nodup := .of_map _ sound.peers.distinct
  refine (List.perm_ext_iff_of_nodup distinct ?_).mpr fun q => ?_
  · exact List.nodup_cons.mpr ⟨by simp, distinct.filter _⟩
  · have unique (hq : q ∈ h.peers) : q.id = p.id ↔ q = p :=
      ⟨List.inj_on_of_nodup_map sound.peers.distinct hq hp, fun eq => by rw [eq]⟩
    by_cases same : q = p
    · simp [same, hp]
    · simp only [List.mem_cons, List.mem_filter, same, false_or, decide_eq_true_eq, ne_eq]
      exact ⟨fun hq => ⟨hq, fun eq => same ((unique hq).mp eq)⟩, And.left⟩

/-- A peer that leaves is one less on its channel. -/
theorem Sound.reach_leave (sound : h.Sound) {id : Nat} (found : h.peer? id = some p) (k : String) :
    (h.leave id).reach k + (if p.channel = k then 1 else 0) = h.reach k := by
  obtain ⟨hp, rfl⟩ := mem_of_peer? found
  rw [reach, reach, ← List.countP_eq_length_filter, ← List.countP_eq_length_filter,
    (sound.perm_others hp).countP_eq, List.countP_cons, leave, found]
  simp

/-! ## The directory -/

theorem Counted.members_eq (counted : h.Counted) (k : String) :
    h.directory.members k = h.reach k := by
  rw [Directory.members, counted.lookup]
  split
  · next zero => exact zero.symm
  · rfl

theorem Counted.join (counted : h.Counted) (channel : String) : (h.join channel).1.Counted where
  sorted := Dict.sorted_put counted.sorted
  lookup k := by
    have reached : (h.join channel).1.reach k = h.reach k + if k = channel then 1 else 0 := by
      rw [reach_eq, (Effect.joined channel).ids.1, List.countP_append, ← reach_eq,
        List.countP_singleton]
      simp [eq_comm]
    have entered : (h.join channel).1.directory.counts =
        Dict.put channel (h.directory.members channel + 1) h.directory.counts := rfl
    rw [reached, entered, Dict.lookup_put, counted.members_eq, counted.lookup]
    by_cases same : k = channel <;> simp [same]

theorem Counted.leave (counted : h.Counted) (sound : h.Sound) (id : Nat) :
    (h.leave id).Counted := by
  cases found : h.peer? id with
  | none => rwa [Hub.leave, found]
  | some p =>
    have directory : (h.leave id).directory = h.directory.leave p.channel := by
      rw [Hub.leave, found]
    have fewer (k) := sound.reach_leave found k
    -- The last member takes the entry with it.
    have here := fewer p.channel
    rw [if_pos rfl] at here
    cases rest : (h.leave id).reach p.channel with
    | zero =>
      have dropped : (h.directory.leave p.channel).counts =
          h.directory.counts.filter fun e => e.1 ≠ p.channel := by
        rw [Directory.leave, counted.members_eq, ← here, rest]
      refine ⟨by rw [directory, dropped]; exact counted.sorted.filter _, fun k => ?_⟩
      rw [directory, dropped, Dict.lookup_filter, counted.lookup, ← fewer k]
      by_cases same : k = p.channel
      · simp [same, rest]
      · simp [same, Ne.symm same]
    | succ n =>
      have lowered : (h.directory.leave p.channel).counts =
          Dict.put p.channel (n + 1) h.directory.counts := by
        rw [Directory.leave, counted.members_eq, ← here, rest]
      refine ⟨by rw [directory, lowered]; exact Dict.sorted_put counted.sorted, fun k => ?_⟩
      rw [directory, lowered, Dict.lookup_put, counted.lookup, ← fewer k]
      by_cases same : k = p.channel
      · simp [same, rest]
      · simp [same, Ne.symm same]

/-- What leaves the peers and the directory as they are leaves them in agreement. -/
theorem Counted.congr (counted : h.Counted) {h' : Hub} (directory : h'.directory = h.directory)
    (badges : h'.badges = h.badges) : h'.Counted := by
  have reached : h'.reach = h.reach := by
    funext k
    rw [reach_eq, reach_eq, badges]
  exact ⟨directory ▸ counted.sorted, by rw [directory, reached]; exact counted.lookup⟩

theorem Counted.effect (counted : h.Counted) (sound : h.Sound) (effect : Effect h a x) :
    x.1.Counted := by
  have badges := effect.ids.1
  cases effect with
  | joined channel => exact counted.join channel
  | left peer => exact counted.leave sound peer
  | _ => exact counted.congr rfl badges

/-- There are as many entries as channels that somebody has joined. -/
theorem Counted.count_eq (counted : h.Counted) :
    h.directory.count = (h.badges.map (·.2)).dedup.length := by
  have keys : (h.directory.counts.map (·.1)).Nodup :=
    List.pairwise_map.mpr (counted.sorted.imp fun {a b} lt eq => by
      rw [eq] at lt
      exact String.lt_irrefl _ lt)
  rw [Directory.count, ← List.length_map (·.1)]
  refine List.Perm.length_eq
    ((List.perm_ext_iff_of_nodup keys (List.nodup_dedup _)).mpr fun k => ?_)
  rw [Dict.mem_keys_iff, counted.lookup, List.mem_dedup]
  have joined : h.reach k ≠ 0 ↔ k ∈ h.badges.map (·.2) := by
    rw [reach_eq, ← Nat.pos_iff_ne_zero, List.countP_pos_iff]
    simp
  rw [← joined]
  split <;> simp_all

/-! ## Answers -/

theorem Counted.publish_answer (counted : h.Counted) (k : String) (m : Message) :
    (h.publish k m).2 =
      if h.limit < m.size then .error (.tooLarge m.size h.limit)
      else if h.reach k = 0 then .error (.channelNotFound k) else .ok (h.reach k) := by
  unfold publish checkSize
  by_cases large : h.limit < m.size
  · simp only [large, if_true]
  · simp only [large, if_false, counted.members_eq, or_self]
    split <;> rfl

theorem reply_answer (h : Hub) (p : Peer) (m : Message) :
    (h.reply p m).2 =
      if h.limit < (m.stamped p.channel).size then
        .error (.tooLarge (m.stamped p.channel).size h.limit)
      else if h.streams = [] then .error .closed else .ok () := by
  unfold reply checkSize
  by_cases large : h.limit < (m.stamped p.channel).size
  · simp only [large, if_true]
  · simp only [large, if_false, List.isEmpty_iff]
    split <;> rfl

/-- What was published ends the queue of every peer on the channel. -/
theorem Sound.queued (sound : h.Sound) {n : Nat} (answer : (h.publish k m).2 = .ok n) {peer : Nat}
    (there : (peer, k) ∈ h.badges) :
    ∃ p, (h.publish k m).1.peer? peer = some p ∧ p.unread.getLast? = some m := by
  obtain ⟨q, hq, same⟩ := List.mem_map.mp there
  cases same
  rcases publish_cases h q.channel m with ⟨⟨e, failed⟩, _⟩ | ⟨_, eq⟩
  · rw [failed] at answer
    cases answer
  · rw [eq, peer?_delivered, sound.peer?_of_mem hq]
    refine ⟨_, rfl, ?_⟩
    simp only [if_true, enqueue_eq sound.capacity, List.getLast?_concat]

/-! ## What waits to be read -/

theorem mem_enqueue {capacity : Nat} {q : List Message} {m' : Message}
    (hm : m' ∈ enqueue capacity q m) : m' ∈ q ∨ m' = m := by
  simpa using List.mem_of_mem_drop hm

/-- What waits after an act waited before, or the act has sent it. -/
theorem Effect.waits (effect : Effect h a x) (waits : x.1.Waits m) :
    h.Waits m ∨ IsSent m (a, x.2) := by
  cases effect with
  | joined channel =>
    rcases waits with ⟨p, hp, hm⟩ | there
    · rcases List.mem_append.mp hp with old | new
      · exact .inl (.inl ⟨p, old, hm⟩)
      · cases List.mem_singleton.mp new
        cases hm
    · exact .inl (.inr there)
  | left peer =>
    rcases waits with ⟨p, hp, hm⟩ | there
    · refine .inl (.inl ⟨p, ?_, hm⟩)
      unfold leave at hp
      split at hp
      · exact hp
      · exact List.mem_of_mem_filter hp
    · rw [streams_leave] at there
      exact .inl (.inr there)
  | published =>
    rcases waits with ⟨p, hp, hm⟩ | there
    · obtain ⟨q, hq, rfl⟩ := List.mem_map.mp hp
      split at hm
      · rcases mem_enqueue hm with old | rfl
        · exact .inl (.inl ⟨q, hq, old⟩)
        · exact .inr rfl
      · exact .inl (.inl ⟨q, hq, hm⟩)
    · exact .inl (.inr there)
  | replied =>
    rcases waits with there | ⟨s, hs, hm⟩
    · exact .inl (.inl there)
    · obtain ⟨s', hs', rfl⟩ := List.mem_map.mp hs
      rcases mem_enqueue hm with old | rfl
      · exact .inl (.inr ⟨s', hs', old⟩)
      · exact .inr rfl
  | subscribed =>
    rcases waits with there | ⟨s, hs, hm⟩
    · exact .inl (.inl there)
    · rcases List.mem_append.mp hs with old | new
      · exact .inl (.inr ⟨s, old, hm⟩)
      · cases List.mem_singleton.mp new
        cases hm
  | unsubscribed stream =>
    rcases waits with there | ⟨s, hs, hm⟩
    · exact .inl (.inl there)
    · exact .inl (.inr ⟨s, List.mem_of_mem_filter hs, hm⟩)
  | read found unread =>
    rcases waits with ⟨p, hp, hm⟩ | there
    · obtain ⟨q, hq, rfl⟩ := List.mem_map.mp hp
      split at hm
      · refine .inl (.inl ⟨_, (mem_of_peer? found).1, ?_⟩)
        rw [unread]
        exact List.mem_cons_of_mem _ hm
      · exact .inl (.inl ⟨q, hq, hm⟩)
    · exact .inl (.inr there)
  | heard found unread =>
    rcases waits with there | ⟨s, hs, hm⟩
    · exact .inl (.inl there)
    · obtain ⟨s', hs', rfl⟩ := List.mem_map.mp hs
      split at hm
      · refine .inl (.inr ⟨_, (mem_of_stream? found).1, ?_⟩)
        rw [unread]
        exact List.mem_cons_of_mem _ hm
      · exact .inl (.inr ⟨s', hs', hm⟩)
  | _ => exact .inl waits

/-- What is received waited to be read. -/
theorem Effect.waits_of_received (effect : Effect h a x)
    (received : x.2 = .received (.message m)) : h.Waits m := by
  cases effect with
  | read found unread =>
    cases received
    exact .inl ⟨_, (mem_of_peer? found).1, by simp [unread]⟩
  | heard found unread =>
    cases received
    exact .inr ⟨_, (mem_of_stream? found).1, by simp [unread]⟩
  | _ => cases received

/-- Nothing is taken in that is too large. -/
theorem Effect.fits (effect : Effect h a x) (sent : IsSent m (a, x.2)) : m.size ≤ h.limit := by
  cases effect with
  | published answer =>
    cases sent
    refine Nat.le_of_not_lt fun large => ?_
    simp [publish, checkSize, large] at answer
  | replied found answer =>
    cases sent
    refine Nat.le_of_not_lt fun large => ?_
    simp [reply_answer, large] at answer
  | _ => cases sent

/-! ## Histories -/

theorem roster_append (t : Log) (x : Act × Report) :
    roster (t ++ [x]) = match x with
      | (.join channel, .joined peer) => roster t ++ [(peer, channel)]
      | (.leave peer, _) => (roster t).filter fun b => b.1 ≠ peer
      | _ => roster t := by
  simp only [roster, List.foldl_append, List.foldl_cons, List.foldl_nil]

theorem listeners_append (t : Log) (x : Act × Report) :
    listeners (t ++ [x]) = match x with
      | (.subscribe, .subscribed stream) => listeners t ++ [stream]
      | (.unsubscribe stream, _) => (listeners t).filter fun s => s ≠ stream
      | _ => listeners t := by
  simp only [listeners, List.foldl_append, List.foldl_cons, List.foldl_nil]

/-- A hub that agrees with its history. -/
structure Kept (limit : Nat) (t : Log) (h : Hub) : Prop where
  sound : h.Sound
  limited : h.limit = limit
  counted : h.Counted
  present : h.badges = roster t
  listening : h.streams.map (·.id) = listeners t
  published : h.published = t.countP isPublished
  /-- Nothing that waits or was received is larger than the limit. -/
  waiting : ∀ m, h.Waits m → m.size ≤ limit
  received : ∀ a m, (a, .received (.message m)) ∈ t → m.size ≤ limit

theorem kept_new (capacity limit : Nat) : Kept limit [] (new capacity limit) where
  sound := sound_new capacity limit
  limited := rfl
  counted := ⟨.nil, fun _ => rfl⟩
  present := rfl
  listening := rfl
  published := rfl
  waiting := by simp [Waits, new]
  received := by simp

/-- The hub and its history still agree after an act. -/
theorem Kept.act (kept : Kept limit t h) (a : Act) :
    Kept limit (t ++ [(a, (h.act a).2)]) (h.act a).1 := by
  have effect := kept.sound.effect a
  have sound := sound_act kept.sound a
  generalize h.act a = x at effect sound ⊢
  obtain ⟨h', report⟩ := x
  obtain ⟨badges, streams⟩ := effect.ids
  refine ⟨sound, effect.fixed.2.1.trans kept.limited, kept.counted.effect kept.sound effect,
    ?_, ?_, ?_, fun m waits => ?_, fun a' m there => ?_⟩
  · rw [badges, roster_append, ← kept.present]
    cases effect <;> rfl
  · rw [streams, listeners_append, ← kept.listening]
    cases effect <;> rfl
  · rw [List.countP_append, ← kept.published]
    cases effect with
    | left peer =>
      unfold leave
      split <;> rfl
    | _ => rfl
  · rcases effect.waits waits with old | sent
    · exact kept.waiting m old
    · exact kept.limited ▸ effect.fits sent
  · rcases List.mem_append.mp there with old | new
    · exact kept.received a' m old
    · cases List.mem_singleton.mp new
      exact kept.waiting m (effect.waits_of_received rfl)

theorem Kept.reach_eq (kept : Kept limit t h) (k : String) : h.reach k = (joinedTo t k).length := by
  rw [Hub.reach_eq, kept.present, joinedTo, List.length_map, List.countP_eq_length_filter]

theorem Kept.streams_eq_nil (kept : Kept limit t h) : h.streams = [] ↔ listeners t = [] := by
  rw [← kept.listening, List.map_eq_nil_iff]

theorem kept_after (capacity limit : Nat) (acts : List Act) :
    Kept limit (act.transcript (new capacity limit) acts)
      (act.after (new capacity limit) acts) :=
  Machine.history act (kept_new capacity limit) (fun _ _ a kept => kept.act a) acts

end

/-! ## Members and answers -/

/-- What the hub knows of its members is what its history says. -/
structure Membership (t : Log) (h : Hub) : Prop where
  /-- The peers are those that have joined and not left, and no two are the same. -/
  peers : h.badges = roster t
  distinct : ((roster t).map (·.1)).Nodup
  members : ∀ k, h.directory.members k = (joinedTo t k).length
  listed : ∀ k, k ∈ h.directory.counts.map (·.1) ↔ 0 < (joinedTo t k).length
  channels : h.directory.count = ((roster t).map (·.2)).dedup.length
  published : h.published = t.countP isPublished

/-- Publishing and replying are answered by who is there. -/
structure Answers (limit : Nat) (t : Log) (h : Hub) : Prop where
  publish : ∀ k m, (h.publish k m).2 =
    if limit < m.size then .error (.tooLarge m.size limit)
    else if joinedTo t k = [] then .error (.channelNotFound k)
    else .ok (joinedTo t k).length
  /-- What was published waits last in the queue of everybody on the channel. -/
  queued : ∀ k m n, (h.publish k m).2 = .ok n → ∀ peer ∈ joinedTo t k,
    ∃ p, (h.publish k m).1.peer? peer = some p ∧ p.unread.getLast? = some m
  reply : ∀ peer channel, (peer, channel) ∈ roster t →
    ∃ p, h.peer? peer = some p ∧ p.channel = channel ∧ ∀ m, (h.reply p m).2 =
      if limit < (m.stamped channel).size then .error (.tooLarge (m.stamped channel).size limit)
      else if listeners t = [] then .error .closed else .ok ()
  /-- What fails changes nothing. -/
  unpublished : ∀ k m e, (h.publish k m).2 = .error e → (h.publish k m).1 = h
  unreplied : ∀ p m e, (h.reply p m).2 = .error e → (h.reply p m).1 = h

section
variable {limit : Nat} {t : Log} {h : Hub}

theorem Kept.membership (kept : Kept limit t h) : Membership t h where
  peers := kept.present
  distinct := by
    rw [← kept.present]
    simpa [badges, Function.comp_def] using kept.sound.peers.distinct
  members k := by rw [kept.counted.members_eq, kept.reach_eq]
  listed k := by
    rw [Dict.mem_keys_iff, kept.counted.lookup, kept.reach_eq, Nat.pos_iff_ne_zero]
    split <;> simp_all
  channels := by rw [kept.counted.count_eq, kept.present]
  published := kept.published

theorem Kept.answers (kept : Kept limit t h) : Answers limit t h where
  publish k m := by
    rw [kept.counted.publish_answer, kept.limited, kept.reach_eq]
    simp only [List.length_eq_zero_iff]
  queued k m n answer peer there := by
    refine kept.sound.queued answer ?_
    rw [kept.present]
    simpa [joinedTo] using there
  reply peer channel there := by
    rw [← kept.present] at there
    obtain ⟨p, hp, same⟩ := List.mem_map.mp there
    cases same
    refine ⟨p, kept.sound.peer?_of_mem hp, rfl, fun m => ?_⟩
    rw [reply_answer, kept.limited]
    simp only [kept.streams_eq_nil]
  unpublished k m e answer := by
    rcases publish_cases h k m with ⟨_, same⟩ | ⟨⟨n, ok⟩, _⟩
    · exact same
    · rw [ok] at answer
      cases answer
  unreplied p m e answer := by
    rcases reply_cases h p m with ⟨_, same⟩ | ⟨ok, _⟩
    · exact same
    · rw [ok] at answer
      cases answer

end

/-- In every run the directory counts the peers that have joined and not left, publishing and
replying are answered by who is there, and nobody receives a message that is larger than the
limit. -/
theorem answers_by_membership (capacity limit : Nat) (acts : List Act) :
    let t := act.transcript (new capacity limit) acts
    let h := act.after (new capacity limit) acts
    Membership t h ∧ Answers limit t h ∧
      ∀ a m, (a, .received (.message m)) ∈ t → m.size ≤ limit :=
  have kept := kept_after capacity limit acts
  ⟨kept.membership, kept.answers, kept.received⟩

end Hub

end PaymentRelay
