import PaymentRelay.Proofs.Hub.Act

/-
  Receivers, and what single acts mean to them.

  A receiver is a peer on its channel, or a stream of replies. An act does one of five things to
  it: a message is sent to it, it reads one, it finds nothing, it goes, or nothing happens to it
  (`Service`, `Effect.service`). A receiver that comes gets the next id (`Sound.enters`), and one
  that has gone does not come back (`Effect.absent`).
-/

namespace PaymentRelay

namespace Hub

/-- Who receives. -/
inductive Receiver where
  | peer (id : Nat) (channel : String)
  | stream (id : Nat)

namespace Receiver

def id : Receiver → Nat
  | peer id _ | stream id => id

/-- How a receiver comes. -/
def entry : Receiver → Act × Report
  | peer id channel => (.join channel, .joined id)
  | stream id => (.subscribe, .subscribed id)

/-- How a receiver looks for a message. -/
def look : Receiver → Act
  | peer id _ => .read id
  | stream id => .hear id

/-- How a receiver goes. -/
def goes : Receiver → Act
  | peer id _ => .leave id
  | stream id => .unsubscribe id

/-- What an act sends to a receiver: a message that was taken in for its channel, or a reply that
was taken in. -/
def sentBy : Receiver → Act × Report → Option Message
  | peer _ channel, (.publish k m, .published (.ok _)) => if k = channel then some m else none
  | stream _, (.reply .., .replied m (.ok ())) => some m
  | _, _ => none

/-- What a receiver has not read, while it is there. -/
def queue (h : Hub) : Receiver → Option (List Message)
  | peer id _ => (h.peer? id).map (·.unread)
  | stream id => (h.stream? id).map (·.unread)

/-- The receiver has come, and if it is a peer and still there, it is on its channel. -/
def Known (h : Hub) (r : Receiver) : Prop :=
  r.id < h.nextId ∧
    match r with
    | peer id channel => ∀ p, h.peer? id = some p → p.channel = channel
    | stream _ => True

end Receiver

/-- What an act with its report does to what a receiver has not read. -/
inductive Service (capacity : Nat) (r : Receiver) (q : List Message) :
    Act × Report → Option (List Message) → Prop
  | sent {x : Act × Report} {m : Message} (own : r.sentBy x = some m)
      (other : x.1 ≠ r.look ∧ x.1 ≠ r.goes) :
      Service capacity r q x (some (enqueue capacity q m))
  | obtained {m : Message} {rest : List Message} (unread : q = m :: rest) :
      Service capacity r q (r.look, .received (.message m)) (some rest)
  | drained (unread : q = []) : Service capacity r q (r.look, .received .empty) (some q)
  | gone (report : Report) : Service capacity r q (r.goes, report) none
  | spared {x : Act × Report} (foreign : r.sentBy x = none)
      (other : x.1 ≠ r.look ∧ x.1 ≠ r.goes) : Service capacity r q x (some q)

section
variable {h : Hub} {a : Act} {x : Hub × Report} {r r' : Receiver} {q : List Message}

/-! ## Single acts -/

theorem Receiver.look_ne_goes (r : Receiver) : r.look ≠ r.goes := by
  cases r <;> simp [look, goes]

theorem Receiver.sentBy_look (r : Receiver) (report : Report) :
    r.sentBy (r.look, report) = none := by
  cases r <;> rfl

/-- Nothing happens to a receiver whose queue stays as it is. -/
theorem Service.of_same {capacity : Nat} (same : r.queue x.1 = some q)
    (foreign : r.sentBy (a, x.2) = none) (other : a ≠ r.look ∧ a ≠ r.goes) :
    Service capacity r q (a, x.2) (r.queue x.1) :=
  same ▸ .spared foreign other

/-- A receiver that has a queue after an act has not gone. -/
theorem Service.stays {capacity : Nat} {x : Act × Report} {q' : List Message}
    (service : Service capacity r q x (some q')) : x.1 ≠ r.goes := by
  cases service with
  | sent _ other | spared _ other => exact other.2
  | obtained | drained => exact r.look_ne_goes

theorem Service.leaves {capacity : Nat} {x : Act × Report}
    (service : Service capacity r q x none) : x.1 = r.goes := by
  cases service
  rfl

/-- What an act does to a peer that is there. -/
theorem Effect.peer_service (effect : Effect h a x) {id : Nat} {p : Peer}
    (found : h.peer? id = some p) :
    Service h.capacity (.peer id p.channel) p.unread (a, x.2)
      (Receiver.queue x.1 (.peer id p.channel)) := by
  have same {h' : Hub} (there : h'.peer? id = some p) :
      Receiver.queue h' (.peer id p.channel) = some p.unread := by
    simp only [Receiver.queue, there, Option.map_some]
  cases effect with
  | joined channel =>
    exact .of_same (same (by rw [peer?_join, found, Option.some_or])) rfl
      (by simp [Receiver.look, Receiver.goes])
  | left peer =>
    by_cases own : id = peer
    · subst own
      have absent : Receiver.queue (h.leave id) (.peer id p.channel) = none := by
        simp only [Receiver.queue, peer?_leave, if_true, Option.map_none]
      rw [absent]
      exact .gone _
    · exact .of_same (same (by rw [peer?_leave, if_neg own, found])) rfl
        (by simp [Receiver.look, Receiver.goes, Ne.symm own])
  | @published channel m n answer =>
    by_cases own : p.channel = channel
    · have filled : Receiver.queue (h.delivered channel m) (.peer id p.channel) =
          some (enqueue h.capacity p.unread m) := by
        simp only [Receiver.queue, peer?_delivered, found, Option.map_some, own, if_true]
      rw [filled]
      exact .sent (by simp [Receiver.sentBy, own]) (by simp [Receiver.look, Receiver.goes])
    · exact .of_same (same (by rw [peer?_delivered, found, Option.map_some, if_neg own]))
        (by simp [Receiver.sentBy, Ne.symm own]) (by simp [Receiver.look, Receiver.goes])
  | @read peer p' m rest found' unread =>
    by_cases own : id = peer
    · subst own
      obtain rfl : p = p' := Option.some.inj (found.symm.trans found')
      have taken : Receiver.queue (h.drawn id rest) (.peer id p.channel) = some rest := by
        simp only [Receiver.queue, peer?_drawn, found, Option.map_some, (mem_of_peer? found).2,
          if_true]
      rw [taken]
      exact .obtained unread
    · have others : (h.drawn peer rest).peer? id = some p := by
        rw [peer?_drawn, found, Option.map_some, (mem_of_peer? found).2, if_neg own]
      exact .of_same (same others) rfl (by simp [Receiver.look, Receiver.goes, Ne.symm own])
  | @idle peer p' found' unread =>
    by_cases own : id = peer
    · subst own
      obtain rfl : p = p' := Option.some.inj (found.symm.trans found')
      rw [same found]
      exact .drained unread
    · exact .of_same (same found) rfl (by simp [Receiver.look, Receiver.goes, Ne.symm own])
  | @noReader peer missing =>
    have other : peer ≠ id := by
      rintro rfl
      rw [found] at missing
      cases missing
    exact .of_same (same found) rfl (by simp [Receiver.look, Receiver.goes, other])
  | _ => exact .of_same (same found) rfl (by simp [Receiver.look, Receiver.goes])

/-- What an act does to a stream that is there. -/
theorem Effect.stream_service (effect : Effect h a x) {id : Nat} {s : Stream}
    (found : h.stream? id = some s) :
    Service h.capacity (.stream id) s.unread (a, x.2) (Receiver.queue x.1 (.stream id)) := by
  have same {h' : Hub} (there : h'.stream? id = some s) :
      Receiver.queue h' (.stream id) = some s.unread := by
    simp only [Receiver.queue, there, Option.map_some]
  cases effect with
  | left peer =>
    exact .of_same (same (by rw [stream?_leave, found])) rfl
      (by simp [Receiver.look, Receiver.goes])
  | @replied peer p m found' answer =>
    have filled : Receiver.queue (h.spread (m.stamped p.channel)) (.stream id) =
        some (enqueue h.capacity s.unread (m.stamped p.channel)) := by
      simp only [Receiver.queue, stream?_spread, found, Option.map_some]
    rw [filled]
    exact .sent rfl (by simp [Receiver.look, Receiver.goes])
  | subscribed =>
    exact .of_same (same (by rw [stream?_subscribe, found, Option.some_or])) rfl
      (by simp [Receiver.look, Receiver.goes])
  | unsubscribed stream =>
    by_cases own : id = stream
    · subst own
      have absent : Receiver.queue (h.unsubscribe id) (.stream id) = none := by
        simp only [Receiver.queue, stream?_unsubscribe, if_true, Option.map_none]
      rw [absent]
      exact .gone _
    · exact .of_same (same (by rw [stream?_unsubscribe, if_neg own, found])) rfl
        (by simp [Receiver.look, Receiver.goes, Ne.symm own])
  | @heard stream s' m rest found' unread =>
    by_cases own : id = stream
    · subst own
      obtain rfl : s = s' := Option.some.inj (found.symm.trans found')
      have taken : Receiver.queue (h.tapped id rest) (.stream id) = some rest := by
        simp only [Receiver.queue, stream?_tapped, found, Option.map_some,
          (mem_of_stream? found).2, if_true]
      rw [taken]
      exact .obtained unread
    · have others : (h.tapped stream rest).stream? id = some s := by
        rw [stream?_tapped, found, Option.map_some, (mem_of_stream? found).2, if_neg own]
      exact .of_same (same others) rfl (by simp [Receiver.look, Receiver.goes, Ne.symm own])
  | @drained stream s' found' unread =>
    by_cases own : id = stream
    · subst own
      obtain rfl : s = s' := Option.some.inj (found.symm.trans found')
      rw [same found]
      exact .drained unread
    · exact .of_same (same found) rfl (by simp [Receiver.look, Receiver.goes, Ne.symm own])
  | @noStream stream missing =>
    have other : stream ≠ id := by
      rintro rfl
      rw [found] at missing
      cases missing
    exact .of_same (same found) rfl (by simp [Receiver.look, Receiver.goes, other])
  | _ => exact .of_same (same found) rfl (by simp [Receiver.look, Receiver.goes])

/-- What an act does to a receiver that is there. -/
theorem Effect.service (effect : Effect h a x) (known : r.Known h) (there : r.queue h = some q) :
    Service h.capacity r q (a, x.2) (r.queue x.1) := by
  cases r with
  | peer id channel =>
    obtain ⟨p, found, rfl⟩ := Option.map_eq_some_iff.mp there
    obtain rfl := known.2 p found
    exact effect.peer_service found
  | stream id =>
    obtain ⟨s, found, rfl⟩ := Option.map_eq_some_iff.mp there
    exact effect.stream_service found

theorem Effect.known (effect : Effect h a x) (known : r.Known h) : r.Known x.1 := by
  refine ⟨Nat.lt_of_lt_of_le known.1 effect.nextId_le, ?_⟩
  cases r with
  | stream id => trivial
  | peer id channel =>
    intro p found
    rcases effect.peer? found with ⟨q, old, same⟩ | ⟨new, _⟩
    · exact same ▸ known.2 q old
    · exact absurd known.1 (new ▸ Nat.lt_irrefl _)

/-- Who has gone does not come back. -/
theorem Effect.absent (effect : Effect h a x) (known : r.Known h) (gone : r.queue h = none) :
    r.queue x.1 = none := by
  cases r with
  | peer id channel =>
    refine Option.map_eq_none_iff.mpr ?_
    cases found : x.1.peer? id with
    | none => rfl
    | some p =>
      rcases effect.peer? found with ⟨q, old, _⟩ | ⟨new, _⟩
      · simp [Receiver.queue, old] at gone
      · exact absurd known.1 (new ▸ Nat.lt_irrefl _)
  | stream id =>
    refine Option.map_eq_none_iff.mpr ?_
    cases found : x.1.stream? id with
    | none => rfl
    | some s =>
      rcases effect.stream? found with ⟨t, old⟩ | new
      · simp [Receiver.queue, old] at gone
      · exact absurd known.1 (new ▸ Nat.lt_irrefl _)

/-- Who is not there reads nothing. -/
theorem Effect.silent (effect : Effect h r.look x) (gone : r.queue h = none) : x.2 = .silent := by
  cases r with
  | peer id channel =>
    have missing : h.peer? id = none := Option.map_eq_none_iff.mp gone
    cases effect with
    | read found | idle found =>
      rw [missing] at found
      cases found
    | noReader => rfl
  | stream id =>
    have missing : h.stream? id = none := Option.map_eq_none_iff.mp gone
    cases effect with
    | heard found | drained found =>
      rw [missing] at found
      cases found
    | noStream => rfl

/-- A receiver is not there before it gets its id. -/
theorem Sound.not_yet (sound : h.Sound) (le : h.nextId ≤ r.id) : r.queue h = none := by
  cases r with
  | peer id channel => exact Option.map_eq_none_iff.mpr (sound.peer?_of_le le)
  | stream id => exact Option.map_eq_none_iff.mpr (sound.stream?_of_le le)

/-- A receiver that comes gets the next id, and has nothing to read. -/
theorem Sound.enters (sound : h.Sound) (effect : Effect h a x) (entry : (a, x.2) = r.entry) :
    r.id = h.nextId ∧ r.Known x.1 ∧ r.queue x.1 = some [] := by
  cases r with
  | peer id channel =>
    cases effect with
    | joined k =>
      cases entry
      have found : (h.join channel).1.peer? h.nextId = some ⟨h.nextId, channel, []⟩ := by
        rw [peer?_join, sound.peer?_of_le (Nat.le_refl _), Option.none_or, if_pos rfl]
      refine ⟨rfl, ⟨Nat.lt_succ_self _, fun p hp => ?_⟩, ?_⟩
      · rw [found] at hp
        cases hp
        rfl
      · simp only [Receiver.queue, found, Option.map_some]
    | _ => cases entry
  | stream id =>
    cases effect with
    | subscribed =>
      cases entry
      have found : h.subscribe.1.stream? h.nextId = some ⟨h.nextId, []⟩ := by
        rw [stream?_subscribe, sound.stream?_of_le (Nat.le_refl _), Option.none_or, if_pos rfl]
      refine ⟨rfl, ⟨Nat.lt_succ_self _, trivial⟩, ?_⟩
      simp only [Receiver.queue, found, Option.map_some]
    | _ => cases entry

theorem Effect.reports_join {channel : String} (effect : Effect h (.join channel) x) :
    x.2 = .joined h.nextId := by
  cases effect
  rfl

theorem Effect.reports_reply {peer : Nat} {claimed m : Message} {result : Except BusError Unit}
    {h' : Hub} (effect : Effect h (.reply peer claimed) (h', .replied m result)) :
    ∃ p, h.peer? peer = some p ∧ m = claimed.stamped p.channel := by
  cases effect with
  | unheard found | replied found => exact ⟨_, found, rfl⟩

/-- A receiver that reads or goes takes nothing from any other. -/
theorem Effect.others (effect : Effect h a x) (own : a = r'.look ∨ a = r'.goes)
    (other : r.look ≠ r'.look) : r.queue x.1 = r.queue h := by
  cases r with
  | peer id channel =>
    refine congrArg (Option.map _) ?_
    cases r' with
    | peer id' channel' =>
      have apart : id ≠ id' := fun same => other (by simp [Receiver.look, same])
      rcases own with rfl | rfl
      · cases effect with
        | read =>
          rw [peer?_drawn]
          cases found : h.peer? id with
          | none => rfl
          | some p => rw [Option.map_some, (mem_of_peer? found).2, if_neg apart]
        | idle | noReader => rfl
      · cases effect
        rw [peer?_leave, if_neg apart]
    | stream id' => rcases own with rfl | rfl <;> cases effect <;> rfl
  | stream id =>
    refine congrArg (Option.map _) ?_
    cases r' with
    | stream id' =>
      have apart : id ≠ id' := fun same => other (by simp [Receiver.look, same])
      rcases own with rfl | rfl
      · cases effect with
        | heard =>
          rw [stream?_tapped]
          cases found : h.stream? id with
          | none => rfl
          | some p => rw [Option.map_some, (mem_of_stream? found).2, if_neg apart]
        | drained | noStream => rfl
      · cases effect
        rw [stream?_unsubscribe, if_neg apart]
    | peer id' channel' =>
      rcases own with rfl | rfl
      · cases effect <;> rfl
      · cases effect
        exact stream?_leave id'

end

end Hub

end PaymentRelay
