import Mathlib.Data.List.Infix
import PaymentRelay.Proofs.Relay.Happening

/-
  What has happened, and what befalls a circuit.

  Histories of a switchboard are read from the end of one wallet: how long nothing has moved between
  it and its channel (`stillness`), which starts again with every frame of the wallet, good or bad,
  with every ping and with every message for its channel; whether it is still there, or has hung up,
  been lost or been still for too long (`Alive`); and how many messages are to be written to it at a
  time (`outstanding`). To an open circuit only so much can happen (`Circuit.befalls_undergo`), and
  to a closed one even less (`Circuit.undergo_of_closed`).
-/

namespace PaymentRelay

/-! ## What has happened -/

namespace Happening.Entry

/-- The wallet of a session hangs up or is lost. -/
def ends (number : Nat) : Entry → Bool
  | (.hangUp n, _) | (.cut n, _) => n = number
  | _ => false

/-- The message that was published to a channel. -/
def published? (channel : String) : Entry → Option Message
  | (.errand .., .sent k m) | (.publish .., .sent k m) => if k = channel then some m else none
  | _ => none

/-- Something moves between the wallet of a session and its channel. -/
def moves (number : Nat) (channel : String) : Entry → Bool
  | (.frame n _ _, _) | (.ping n _, _) => n = number
  | e => (e.published? channel).isSome

/-- What the wallet of a session has read. -/
def read? (number : Nat) : Entry → Option Outgoing
  | (.read n, .found o) => if n = number then o else none
  | _ => none

/-- Everything is written. -/
def settles : Entry → Bool
  | (.settle, _) | (.advance _, _) => true
  | _ => false

end Happening.Entry

namespace Happening

/-- How long nothing has moved between a wallet and its channel, in nanoseconds. A message moves when
it is published: it is written before the clock moves on. -/
def stillness (number : Nat) (channel : String) (t : List Entry) : Nat :=
  t.foldl (fun still e => if e.moves number channel then 0 else still + e.1.span.nanos) 0

/-- The messages that were published to a channel. -/
def messages (channel : String) (t : List Entry) : List Message :=
  t.filterMap (·.published? channel)

/-- How many messages for a channel have come since everything was written. -/
def outstanding (channel : String) (t : List Entry) : Nat :=
  t.foldl (fun n e =>
    if e.settles then 0 else if (e.published? channel).isSome then n + 1 else n) 0

/-- The wallet of a session has neither hung up nor been lost, and it has never been still for too
long. -/
structure Alive (idle : Span) (number : Nat) (channel : String) (t : List Entry) : Prop where
  stays : ∀ e ∈ t, e.ends number = false
  busy : ∀ earlier, earlier <+: t → stillness number channel earlier < idle.nanos

instance (idle : Span) (number : Nat) (channel : String) (t : List Entry) :
    Decidable (Alive idle number channel t) :=
  decidable_of_iff ((∀ e ∈ t, e.ends number = false) ∧
      ∀ earlier ∈ t.inits, stillness number channel earlier < idle.nanos)
    ⟨fun h => ⟨h.1, fun earlier le => h.2 earlier ((List.mem_inits earlier t).mpr le)⟩,
      fun alive => ⟨alive.stays, fun earlier h =>
        alive.busy earlier ((List.mem_inits earlier t).mp h)⟩⟩

/-- At no time there are more messages to be written to a channel than a buffer holds. -/
def Uncrowded (capacity : Nat) (channel : String) (t : List Entry) : Prop :=
  ∀ earlier, earlier <+: t → outstanding channel earlier ≤ capacity

instance (capacity : Nat) (channel : String) (t : List Entry) :
    Decidable (Uncrowded capacity channel t) :=
  decidable_of_iff (∀ earlier ∈ t.inits, outstanding channel earlier ≤ capacity)
    (forall_congr' fun earlier => imp_congr_left (List.mem_inits earlier t))

end Happening

/-- The message that is written. -/
def Outgoing.message? : Outgoing → Option Message
  | .message m => some m
  | _ => none

/-- The messages that were written to the wallet of a circuit, read or not. -/
def Circuit.written (t : List Happening.Entry) (c : Circuit) : List Message :=
  (t.filterMap (·.read? c.session.number) ++ c.session.unread).filterMap Outgoing.message?

namespace Happening

section
variable {idle : Span} {capacity number : Nat} {channel : String} {t : List Entry} {e : Entry}

theorem Entry.moves_of_published {m : Message} (published : e.published? channel = some m) :
    e.moves number channel = true := by
  obtain ⟨a, seen⟩ := e
  cases a with
  | frame | ping => cases published
  | _ => exact Option.isSome_iff_exists.mpr ⟨m, published⟩

theorem Entry.published_of_still (still : e.moves number channel = false) :
    e.published? channel = none := by
  cases published : e.published? channel with
  | none => rfl
  | some m =>
    rw [moves_of_published published] at still
    cases still

theorem stillness_snoc : stillness number channel (t ++ [e]) =
    if e.moves number channel then 0 else stillness number channel t + e.1.span.nanos := by
  rw [stillness, List.foldl_append]
  rfl

theorem messages_snoc : messages channel (t ++ [e]) =
    messages channel t ++ (e.published? channel).toList := by
  rw [messages, List.filterMap_append, messages]
  cases published : e.published? channel <;> simp [published]

theorem outstanding_snoc : outstanding channel (t ++ [e]) =
    if e.settles then 0
    else if (e.published? channel).isSome then outstanding channel t + 1
    else outstanding channel t := by
  rw [outstanding, List.foldl_append]
  rfl

theorem alive_snoc : Alive idle number channel (t ++ [e]) ↔
    Alive idle number channel t ∧ e.ends number = false ∧
      stillness number channel (t ++ [e]) < idle.nanos := by
  constructor
  · intro alive
    refine ⟨⟨fun e he => alive.stays e (List.mem_append_left _ he), fun earlier h =>
      alive.busy earlier (h.trans (List.prefix_append _ _))⟩, ?_, alive.busy _ List.prefix_rfl⟩
    exact alive.stays e (List.mem_append_right _ (List.mem_singleton_self e))
  · rintro ⟨alive, stays, busy⟩
    refine ⟨fun e' he' => ?_, fun earlier h => ?_⟩
    · rcases List.mem_append.mp he' with old | new
      · exact alive.stays e' old
      · rwa [List.mem_singleton.mp new]
    · rcases List.prefix_concat_iff.mp h with rfl | old
      · exact busy
      · exact alive.busy earlier old

/-- A wallet stays alive where it does not end and no time passes. -/
theorem alive_of_instant (positive : 0 < idle.nanos)
    (alive : Alive idle number channel t) (stays : e.ends number = false)
    (instant : e.1.span = ⟨0⟩) : Alive idle number channel (t ++ [e]) := by
  refine alive_snoc.mpr ⟨alive, stays, ?_⟩
  rw [stillness_snoc, instant]
  split
  · exact positive
  · exact alive.busy t List.prefix_rfl

theorem uncrowded_snoc : Uncrowded capacity channel (t ++ [e]) ↔
    Uncrowded capacity channel t ∧ outstanding channel (t ++ [e]) ≤ capacity := by
  constructor
  · exact fun h => ⟨fun earlier le => h earlier (le.trans (List.prefix_append _ _)),
      h _ List.prefix_rfl⟩
  · rintro ⟨before, now⟩ earlier h
    rcases List.prefix_concat_iff.mp h with rfl | old
    · exact now
    · exact before earlier old

end

end Happening

/-! ## What befalls an open circuit -/

namespace Circuit

/-- The wallet neither ends nor reads, nothing is written to it and no time passes. -/
structure Light (c : Circuit) (e : Happening.Entry) : Prop where
  ends : e.ends c.session.number = false
  read : e.read? c.session.number = none
  settles : e.settles = false
  span : e.1.span = ⟨0⟩

/-- What can befall an open circuit, and what becomes of it. -/
inductive Befalls (capacity : Nat) (idle : Span) (now : Instant) (c : Circuit) :
    Happening.Entry → Circuit → Prop
  | elsewhere {e : Happening.Entry} (light : c.Light e)
      (still : e.moves c.session.number c.session.channel = false) : Befalls capacity idle now c e c
  /-- A frame or a ping, with what the relay writes in answer. -/
  | heard {e : Happening.Entry} (light : c.Light e)
      (moves : e.moves c.session.number c.session.channel = true)
      (unpublished : e.published? c.session.channel = none)
      (answer : List Outgoing) (plain : answer.filterMap Outgoing.message? = []) :
      Befalls capacity idle now c e { c with
        session := { c.session with
          lastTraffic := now
          unread := c.session.unread ++ answer } }
  | given {e : Happening.Entry} {m : Message} (light : c.Light e)
      (published : e.published? c.session.channel = some m) :
      Befalls capacity idle now c e { c with waiting := enqueue capacity c.waiting m }
  | ended {e : Happening.Entry} (ends : e.ends c.session.number = true)
      (read : e.read? c.session.number = none)
      (unpublished : e.published? c.session.channel = none) (last : List Outgoing)
      (plain : last.filterMap Outgoing.message? = []) :
      Befalls capacity idle now c e ⟨c.session.finish last, []⟩
  | read : Befalls capacity idle now c (.read c.session.number, .found c.session.unread.head?)
      { c with session := { c.session with unread := c.session.unread.tail } }
  | settled (seen : Happening.Seen) : Befalls capacity idle now c (.settle, seen) (c.writeOut now)
  | passed (span : Span) (seen : Happening.Seen) : Befalls capacity idle now c (.advance span, seen)
      ((c.writeOut now).dismiss (fun x => x.lastTraffic.after idle ≤ now.after span) [.close])

section
variable {capacity : Nat} {idle : Span} {now : Instant} {c : Circuit} {e : Happening.Entry}

theorem befalls_sent {a : Happening} {k : String} {m : Message} (isOpen : c.session.isOpen = true)
    (publishes : ∀ channel, Happening.Entry.published? channel (a, .sent k m) =
      if k = channel then some m else none)
    (moves : ∀ number channel, Happening.Entry.moves number channel (a, .sent k m) =
      (Happening.Entry.published? channel (a, .sent k m)).isSome)
    (light : c.Light (a, .sent k m)) :
    Befalls capacity idle now c (a, .sent k m) (c.given capacity k m) := by
  have published := publishes c.session.channel
  by_cases mine : c.session.channel = k
  · rw [if_pos mine.symm] at published
    rw [given, if_pos ⟨isOpen, mine⟩]
    exact .given light published
  · rw [if_neg (Ne.symm mine)] at published
    rw [given, if_neg fun both => mine both.2]
    refine .elsewhere light ?_
    rw [moves, published]
    rfl

/-- Whatever happens befalls an open circuit in one of these ways. -/
theorem befalls_undergo (isOpen : c.session.isOpen = true)
    (reads : e.1 = .read c.session.number → e.2 = .found c.session.unread.head?) :
    Befalls capacity idle now c e (c.undergo capacity idle now e) := by
  obtain ⟨a, seen⟩ := e
  have own (n : Nat) : (c.session.isOpen = true ∧ c.session.number = n) ↔ n = c.session.number :=
    ⟨fun both => both.2.symm, fun same => ⟨isOpen, same.symm⟩⟩
  cases a with
  | connect k => exact .elsewhere ⟨rfl, rfl, rfl, rfl⟩ rfl
  | errand e stamp head =>
    cases seen with
    | sent k m => exact befalls_sent isOpen (fun _ => rfl) (fun _ _ => rfl) ⟨rfl, rfl, rfl, rfl⟩
    | _ => exact .elsewhere ⟨rfl, rfl, rfl, rfl⟩ rfl
  | publish k m =>
    cases seen with
    | sent k m => exact befalls_sent isOpen (fun _ => rfl) (fun _ _ => rfl) ⟨rfl, rfl, rfl, rfl⟩
    | _ => exact .elsewhere ⟨rfl, rfl, rfl, rfl⟩ rfl
  | frame n bytes time =>
    simp only [undergo, atOpen, own]
    split
    · next same =>
      have silent : Befalls capacity idle now c (.frame n bytes time, seen) _ :=
        .heard (c := c) (e := (.frame n bytes time, seen)) ⟨rfl, rfl, rfl, rfl⟩
          (decide_eq_true same) rfl [] rfl
      rwa [List.append_nil] at silent
    · next other => exact .elsewhere ⟨rfl, rfl, rfl, rfl⟩ (decide_eq_false other)
  | ping n content =>
    simp only [undergo, atOpen, own]
    split
    · next same =>
      exact .heard (c := c) (e := (.ping n content, seen)) ⟨rfl, rfl, rfl, rfl⟩
        (decide_eq_true same) rfl [.pong content] rfl
    · next other => exact .elsewhere ⟨rfl, rfl, rfl, rfl⟩ (decide_eq_false other)
  | hangUp n =>
    simp only [undergo, dismiss, isOpen, Bool.true_and, decide_eq_true_eq]
    split
    · next same =>
      exact .ended (c := c) (e := (.hangUp n, seen)) (decide_eq_true same.symm) rfl rfl [.close] rfl
    · next other =>
      exact .elsewhere ⟨decide_eq_false (Ne.symm other), rfl, rfl, rfl⟩ rfl
  | cut n =>
    simp only [undergo, dismiss, isOpen, Bool.true_and, decide_eq_true_eq]
    split
    · next same =>
      exact .ended (c := c) (e := (.cut n, seen)) (decide_eq_true same.symm) rfl rfl [] rfl
    · next other =>
      exact .elsewhere ⟨decide_eq_false (Ne.symm other), rfl, rfl, rfl⟩ rfl
  | read n =>
    simp only [undergo, Circuit.read]
    split
    · next same =>
      subst same
      obtain rfl : seen = _ := reads rfl
      exact .read
    · next other =>
      refine .elsewhere ⟨rfl, ?_, rfl, rfl⟩ rfl
      cases seen with
      | found o => exact if_neg (Ne.symm other)
      | _ => rfl
  | settle => exact .settled seen
  | advance span => exact .passed span seen

/-- Nothing befalls a circuit that is closed, but that its wallet reads on. -/
theorem undergo_of_closed (closed : c.session.isOpen = false) :
    c.undergo capacity idle now e = match e with
      | (.read n, _) => c.read n
      | _ => c := by
  have same : c.writeOut now = c := by simp [writeOut, closed]
  obtain ⟨a, seen⟩ := e
  cases a with
  | errand | publish => cases seen <;> simp [undergo, given, closed]
  | _ => simp [undergo, atOpen, dismiss, same, closed]

end

end Circuit

end PaymentRelay
