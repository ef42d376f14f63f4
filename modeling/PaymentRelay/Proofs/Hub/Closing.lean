import Mathlib.Data.List.Induction
import PaymentRelay.Proofs.Hub.Delivery
import PaymentRelay.Proofs.Hub.Members

/-
  The hub goes, and those who hold peers and streams stay.

  A channel is there as long as its peers are, whether the hub is or not. So what is left of a hub
  is used as if the hub had stayed: each act does the same (`act_close`), and it is answered in the
  same way, except that a drained stream is found closed when no peer is left (`closed_look`). A
  peer reads what has been kept for it and then waits, for as long as it stays, and can still reply;
  a stream is closed by the last peer that leaves (`receivers_outlive_hub`).

  The hub does not say goodbye: a peer or a stream that has read everything waits on when the hub is
  gone (`orphans_wait`).
-/

namespace PaymentRelay

namespace Hub

/-- Whoever holds a peer or a stream can do this, with no hub at hand. -/
def Act.IsHeld : Act → Prop
  | .join _ | .publish .. | .subscribe => False
  | .leave _ | .reply .. | .unsubscribe _ | .read _ | .hear _ => True

/-- A receiver looks for a message. -/
def Receiver.isLook : Receiver → Act → Bool
  | peer id _, .read id' => id' = id
  | stream id, .hear id' => id' = id
  | _, _ => false

/-- How often a receiver has looked. -/
def Receiver.looks (r : Receiver) (acts : List Act) : Nat := acts.countP r.isLook

/-- What is found in a row of messages by a look that comes after some others. -/
def found (row : List Message) (looks : Nat) (otherwise : Received) : Received :=
  match row[looks]? with
  | some m => .message m
  | none => otherwise

/-- What a receiver finds that has read everything when the hub is gone. -/
def Receiver.atEnd (h : Hub) : Receiver → Received
  | peer .. => .empty
  | stream _ => if h.peers.isEmpty then .closed else .empty

section
variable {h : Hub} {r : Receiver} {q : List Message} {acts : List Act}

theorem Receiver.isLook_iff (r : Receiver) {a : Act} : r.isLook a = true ↔ a = r.look := by
  cases r <;> cases a <;> simp [isLook, look]

theorem found_drop (row : List Message) (looks : Nat) (otherwise : Received) :
    found (row.drop looks) 0 otherwise = found row looks otherwise := by
  rw [found, List.getElem?_drop, Nat.add_zero, found]

/-! ## A hub that is gone -/

/-- Every act does the same, whether the hub is there or not. -/
theorem act_close (h : Hub) (a : Act) : (h.close.act a).1 = (h.act a).1.close := by
  cases a with
  | leave peer =>
    have same : h.close.peer? peer = h.peer? peer := rfl
    simp only [act, leave, same]
    cases h.peer? peer <;> rfl
  | publish channel m =>
    have limit : h.close.limit = h.limit := rfl
    have members : h.close.directory.members channel = h.directory.members channel := rfl
    have reach : h.close.reach channel = h.reach channel := rfl
    simp only [act, publish, checkSize, limit, members, reach]
    by_cases large : h.limit < m.size
    · simp only [large, if_true]
    · simp only [large, if_false]
      split <;> rfl
  | reply peer m =>
    have same : h.close.peer? peer = h.peer? peer := rfl
    simp only [act, same]
    cases h.peer? peer with
    | none => rfl
    | some p =>
      have limit : h.close.limit = h.limit := rfl
      have streams : h.close.streams = h.streams := rfl
      simp only [reply, checkSize, limit, streams]
      by_cases large : h.limit < (m.stamped p.channel).size
      · simp only [large, if_true]
      · simp only [large, if_false]
        split <;> rfl
  | read peer =>
    have same : h.close.peer? peer = h.peer? peer := rfl
    simp only [act, same]
    cases h.peer? peer with
    | none => rfl
    | some p =>
      simp only [receive]
      cases p.unread <;> rfl
  | hear stream =>
    have same : h.close.stream? stream = h.stream? stream := rfl
    simp only [act, same]
    cases h.stream? stream with
    | none => rfl
    | some s =>
      simp only [receiveReply]
      cases s.unread <;> rfl
  | _ => rfl

theorem Sound.stream?_of_mem (sound : h.Sound) {s : Stream} (hs : s ∈ h.streams) :
    h.stream? s.id = some s := by
  cases found : h.stream? s.id with
  | none => exact absurd (List.find?_eq_none.mp found s hs) (by simp)
  | some t =>
    obtain ⟨ht, same⟩ := mem_of_stream? found
    rw [List.inj_on_of_nodup_map sound.streams.distinct ht hs same]

/-- What a receiver finds when the hub is gone. -/
theorem closed_look (there : r.queue h = some q) :
    (h.close.act r.look).2 = .received (found q 0 (r.atEnd h)) := by
  cases r with
  | peer id channel =>
    obtain ⟨p, known, rfl⟩ := Option.map_eq_some_iff.mp there
    have same : h.close.peer? id = some p := known
    simp only [Receiver.look, act, same, receive]
    cases p.unread <;> rfl
  | stream id =>
    obtain ⟨s, known, rfl⟩ := Option.map_eq_some_iff.mp there
    have same : h.close.stream? id = some s := known
    simp only [Receiver.look, act, same, receiveReply]
    cases s.unread with
    | cons m rest => rfl
    | nil =>
      simp only [close, found, Receiver.atEnd, Bool.false_or, List.getElem?_nil]
      cases h.peers <;> rfl

/-- A reply of a peer is answered as if the hub were there. -/
theorem closed_reply {peer : Nat} {p : Peer} (there : h.peer? peer = some p) (m : Message) :
    (h.close.act (.reply peer m)).2 =
      .replied (m.stamped p.channel)
        (if h.limit < (m.stamped p.channel).size then
          .error (.tooLarge (m.stamped p.channel).size h.limit)
        else if h.streams = [] then .error .closed else .ok ()) := by
  have same : h.close.peer? peer = some p := there
  simp only [act, same]
  rw [reply_answer]
  rfl

theorem after_close (h : Hub) (acts : List Act) :
    act.after h.close acts = (act.after h acts).close := by
  induction acts generalizing h with
  | nil => rfl
  | cons a rest ih => rw [Machine.after, act_close, ih, Machine.after]

/-! ## What is left of a run -/

/-- Nobody comes any more, and those are there who have not left. -/
theorem Sound.held_badges (sound : h.Sound) (held : ∀ a ∈ acts, a.IsHeld) (b : Nat × String) :
    b ∈ (act.after h acts).badges ↔ b ∈ h.badges ∧ .leave b.1 ∉ acts := by
  induction acts using List.reverseRecOn with
  | nil => simp [Machine.after]
  | append_singleton acts a ih =>
    have before := ih fun a ha => held a (List.mem_append_left _ ha)
    have now : a.IsHeld := held a (by simp)
    have badges := ((sound.after acts).effect a).ids.1
    rw [Machine.after_append, Machine.after, Machine.after, badges]
    cases a with
    | join | publish | subscribe => exact now.elim
    | leave peer =>
      simp only [List.mem_filter, before, List.mem_append, List.mem_singleton, Act.leave.injEq,
        decide_eq_true_eq, not_or, and_assoc]
    | _ => simp [before]

/-- Those who have gone do not read, and the others read on where they were. -/
theorem Sound.held_queue (sound : h.Sound) (known : r.Known h) (there : r.queue h = some q)
    (stays : r.goes ∉ acts) (quiet : ∀ a ∈ acts, ∀ report, r.sentBy (a, report) = none) :
    r.Known (act.after h acts) ∧
      r.queue (act.after h acts) = some (q.drop (r.looks acts)) := by
  induction acts using List.reverseRecOn with
  | nil => exact ⟨known, there⟩
  | append_singleton acts a ih =>
    obtain ⟨known, queue⟩ := ih (fun gone => stays (List.mem_append_left _ gone))
      fun a ha => quiet a (List.mem_append_left _ ha)
    have effect := (sound.after acts).effect a
    have service := effect.service known queue
    have more : r.looks (acts ++ [a]) = r.looks acts + if r.isLook a then 1 else 0 := by
      rw [Receiver.looks, List.countP_append, List.countP_singleton, Receiver.looks]
    rw [Machine.after_append, Machine.after, Machine.after, more]
    refine ⟨effect.known known, ?_⟩
    generalize r.queue _ = q' at service ⊢
    generalize same : (a, _) = x at service
    cases service with
    | sent own _ =>
      subst same
      rw [quiet a (by simp)] at own
      cases own
    | gone report =>
      cases same
      exact absurd (by simp) stays
    | obtained unread =>
      have looks : r.isLook a = true := r.isLook_iff.mpr (congrArg Prod.fst same)
      rw [if_pos looks, ← List.tail_drop, unread, List.tail_cons]
    | drained unread =>
      have looks : r.isLook a = true := r.isLook_iff.mpr (congrArg Prod.fst same)
      rw [if_pos looks, ← List.tail_drop, unread, List.tail_nil]
    | spared foreign other =>
      subst same
      rw [if_neg (fun looks => other.1 (r.isLook_iff.mp looks)), Nat.add_zero]

/-- What a receiver finds at some moment after the hub has gone. -/
theorem Sound.found_after_close (sound : h.Sound) (known : r.Known h) (there : r.queue h = some q)
    {n : Nat} (at_n : acts[n]? = some r.look) (stays : r.goes ∉ acts.take n)
    (quiet : ∀ a ∈ acts.take n, ∀ report, r.sentBy (a, report) = none) :
    (act.transcript h.close acts)[n]? = some (r.look,
      .received (found q (r.looks (acts.take n)) (r.atEnd (act.after h (acts.take n))))) := by
  obtain ⟨-, queue⟩ := sound.held_queue known there stays quiet
  rw [Machine.getElem?_transcript, at_n, Option.map_some, after_close, closed_look queue,
    found_drop]

/-- A stream that is drained is found closed if all peers have left, and else empty. -/
theorem Sound.atEnd_stream (sound : h.Sound) (held : ∀ a ∈ acts, a.IsHeld) (id : Nat) :
    ((Receiver.stream id).atEnd (act.after h acts) = .closed ∧
        ∀ p ∈ h.peers, .leave p.id ∈ acts) ∨
      ((Receiver.stream id).atEnd (act.after h acts) = .empty ∧
        ∃ p ∈ h.peers, .leave p.id ∉ acts) := by
  have present := sound.held_badges held
  rw [Receiver.atEnd]
  cases left : (act.after h acts).peers with
  | nil =>
    refine .inl ⟨rfl, fun p hp => ?_⟩
    by_contra stays
    have there := (present (p.id, p.channel)).mpr ⟨List.mem_map_of_mem hp, stays⟩
    rw [badges, left] at there
    cases there
  | cons p rest =>
    have there : (p.id, p.channel) ∈ (act.after h acts).badges := by simp [badges, left]
    obtain ⟨came, stays⟩ := (present _).mp there
    obtain ⟨p', hp', same⟩ := List.mem_map.mp came
    exact .inr ⟨rfl, p', hp', (Prod.mk.inj same).1 ▸ stays⟩

end

/-- What those who hold peers and streams find when the hub is gone, after any history. A peer that
stays reads in their order the messages that have been kept for it, and then finds nothing yet, as
often as it looks; it is never told that the hub is gone. A stream to which no peer replies any more
yields in their order the replies that have been kept for it, and then is closed if all peers have
left, and else empty. And the peers that stay can reply as before. -/
theorem receivers_outlive_hub (capacity limit : Nat) (acts later : List Act)
    (held : ∀ a ∈ later, a.IsHeld) :
    let h := act.after (new capacity limit) acts
    let t := act.transcript h.close later
    (∀ p ∈ h.peers, ∀ n, later[n]? = some (.read p.id) → .leave p.id ∉ later.take n →
      t[n]? = some (.read p.id, .received
        (found p.unread ((Receiver.peer p.id p.channel).looks (later.take n)) .empty))) ∧
    (∀ s ∈ h.streams, ∀ n, later[n]? = some (.hear s.id) → .unsubscribe s.id ∉ later.take n →
      (∀ peer m, .reply peer m ∉ later.take n) →
      ∃ otherwise, t[n]? = some (.hear s.id, .received
          (found s.unread ((Receiver.stream s.id).looks (later.take n)) otherwise)) ∧
        (otherwise = .closed ∧ (∀ p ∈ h.peers, .leave p.id ∈ later.take n) ∨
          otherwise = .empty ∧ ∃ p ∈ h.peers, .leave p.id ∉ later.take n)) ∧
    ∀ p ∈ h.peers, ∀ n m, later[n]? = some (.reply p.id m) → .leave p.id ∉ later.take n →
      t[n]? = some (.reply p.id m, .replied (m.stamped p.channel)
        (if limit < (m.stamped p.channel).size then
          .error (.tooLarge (m.stamped p.channel).size limit)
        else if (act.after h (later.take n)).streams = [] then .error .closed else .ok ())) := by
  intro h t
  have sound : h.Sound := (sound_new capacity limit).after acts
  have heldTo (n : Nat) : ∀ a ∈ later.take n, a.IsHeld :=
    fun a ha => held a (List.mem_of_mem_take ha)
  refine ⟨fun p hp n at_n stays => ?_, fun s hs n at_n stays silent => ?_,
    fun p hp n m at_n stays => ?_⟩
  · have there := sound.peer?_of_mem hp
    have queue : (Receiver.peer p.id p.channel).queue h = some p.unread := by
      rw [Receiver.queue, there, Option.map_some]
    have known : (Receiver.peer p.id p.channel).Known h := by
      refine ⟨sound.peers.below _ (List.mem_map_of_mem hp), fun p' found => ?_⟩
      rw [Option.some.inj (found.symm.trans there)]
    -- Nothing is published any more.
    refine sound.found_after_close known queue at_n stays fun a ha report => ?_
    cases a with
    | publish => exact (heldTo n _ ha).elim
    | _ => rfl
  · have queue : (Receiver.stream s.id).queue h = some s.unread := by
      rw [Receiver.queue, sound.stream?_of_mem hs, Option.map_some]
    have known : (Receiver.stream s.id).Known h :=
      ⟨sound.streams.below _ (List.mem_map_of_mem hs), trivial⟩
    refine ⟨_, sound.found_after_close known queue at_n stays fun a ha report => ?_,
      sound.atEnd_stream (heldTo n) s.id⟩
    cases a with
    | reply peer m => exact absurd ha (silent peer m)
    | _ => rfl
  · have came : (p.id, p.channel) ∈ h.badges := List.mem_map_of_mem hp
    obtain ⟨p', hp', same⟩ := List.mem_map.mp
      ((sound.held_badges (heldTo n) _).mpr ⟨came, stays⟩)
    have there := (sound.after (later.take n)).peer?_of_mem hp'
    rw [(Prod.mk.inj same).1] at there
    have limited : (act.after h (later.take n)).limit = limit := by
      rw [← Machine.after_append]
      exact (kept_after capacity limit (acts ++ later.take n)).limited
    rw [Machine.getElem?_transcript, at_n, Option.map_some, after_close, closed_reply there,
      (Prod.mk.inj same).2, limited]

/-- A hub with a stream and a peer, for both of which something is kept. -/
def beforeClosing : List Act :=
  [.subscribe, .join "inv-1", .publish "inv-1" (.new "payment" "inv-1" .epoch),
    .reply 1 (.new "payment.ack" "inv-1" .epoch)]

/-- Both look twice, the peer leaves, and the stream is looked at once more. -/
def afterClosing : List Act := [.read 1, .hear 0, .read 1, .hear 0, .leave 1, .hear 0]

/-- The peer reads its message and then nothing; the stream yields its reply, then nothing, and is
closed when the peer has left. -/
theorem receivers_outlive_hub_drained :
    let h := act.after (new 4 1000) beforeClosing
    let t := act.transcript h.close afterClosing
    t[0]? = some (.read 1, .received (.message (.new "payment" "inv-1" .epoch))) ∧
      t[2]? = some (.read 1, .received .empty) ∧
      t[3]? = some (.hear 0, .received .empty) ∧
      t[5]? = some (.hear 0, .received .closed) := by
  intro h t
  have held : ∀ a ∈ afterClosing, a.IsHeld := by simp [afterClosing, Act.IsHeld]
  let m : Message := .new "payment" "inv-1" .epoch
  let reply : Message := (Message.new "payment.ack" "inv-1" .epoch).stamped "inv-1"
  let joined : Hub := ⟨4, 1000, true, ⟨[("inv-1", 1)]⟩, [⟨1, "inv-1", []⟩], [⟨0, []⟩], 0, 2⟩
  let sent : Hub := ⟨4, 1000, true, ⟨[("inv-1", 1)]⟩, [⟨1, "inv-1", [m]⟩], [⟨0, []⟩], 1, 2⟩
  let replied : Hub := { sent with streams := [⟨0, [reply]⟩] }
  have publishing : (joined.act (.publish "inv-1" m)).1 = sent := by
    have small : ¬ 1000 < m.size := by decide +kernel
    rw [act, publish, checkSize, if_neg small]
    rfl
  have replying : (sent.act (.reply 1 (.new "payment.ack" "inv-1" .epoch))).1 = replied := by
    have small : ¬ 1000 < reply.size := by decide +kernel
    have there : sent.peer? 1 = some ⟨1, "inv-1", [m]⟩ := rfl
    simp only [act, there]
    rw [Hub.reply, checkSize, if_neg small]
    rfl
  have hub : act.after (new 4 1000) beforeClosing = replied := by
    have rounded : Nat.nextPowerOfTwo 4 = 4 := by decide +kernel
    have joining : (((new 4 1000).act .subscribe).1.act (.join "inv-1")).1 = joined := by
      rw [new, rounded]
      rfl
    simp only [beforeClosing, Machine.after, joining]
    rw [publishing, replying]
  obtain ⟨peer, stream, -⟩ := receivers_outlive_hub 4 1000 beforeClosing afterClosing held
  have read := peer ⟨1, "inv-1", [m]⟩ (by rw [hub]; exact List.mem_singleton.mpr rfl)
  have heard := stream ⟨0, [reply]⟩ (by rw [hub]; exact List.mem_singleton.mpr rfl)
  rw [hub] at heard
  obtain ⟨_, third, ⟨-, left⟩ | ⟨rfl, -⟩⟩ := heard 3 rfl (by simp [afterClosing])
    (by simp [afterClosing])
  · exact absurd (left ⟨1, "inv-1", [m]⟩ (List.mem_singleton.mpr rfl)) (by simp [afterClosing])
  obtain ⟨_, fifth, ⟨rfl, -⟩ | ⟨-, p, hp, stays⟩⟩ := heard 5 rfl (by simp [afterClosing])
    (by simp [afterClosing])
  · rw [← hub] at third fifth
    exact ⟨read 0 rfl (by simp), read 2 rfl (by simp [afterClosing]), third, fifth⟩
  · obtain rfl := List.mem_singleton.mp hp
    exact absurd (by simp [afterClosing]) stays

/-- A peer and a stream that have read everything wait on when the hub is gone. -/
theorem orphans_wait :
    act.transcript (act.after (new 1 100) [.subscribe, .join "inv-1"]).close
        [.read 1, .hear 0] =
      [(.read 1, .received .empty), (.hear 0, .received .empty)] := rfl

end Hub

end PaymentRelay
