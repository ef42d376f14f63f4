import Mathlib.Data.List.Induction
import PaymentRelay.Proofs.Hub.Receiver

/-
  The queues of the hub, read from one buffer.

  All who are on a channel read from one buffer, which keeps the last messages that were sent to it
  (`Broadcast`). A receiver has a position in the order of all messages. Where the message at its
  position is kept no longer, the receiver is told that it lags and is put at the oldest that is
  kept; it looks again, and this time it does not lag (`Broadcast.recv`).

  What is kept from a position on is the queue of whoever stands there (`Broadcast.unread`). It is
  empty at the end of the buffer, where a receiver begins; a message that is sent is a message that
  is enqueued (`unread_send`); to lag does not change it (`unread_lost`); and what a receiver finds
  is the front of it (`recv_of_cons`, `recv_of_nil`). So in every run of the hub each receiver reads
  as if it had a position in a buffer that it shares (`receivers_read_by_position`).
-/

namespace PaymentRelay

namespace Hub

/-- A buffer that keeps the last messages, as many as the capacity. -/
structure Broadcast where
  capacity : Nat
  /-- How many messages were sent before those that are kept. -/
  lost : Nat
  kept : List Message

namespace Broadcast

def new (capacity : Nat) : Broadcast := ⟨capacity, 0, []⟩

/-- One more message; where there is no room the oldest is lost. -/
def send (b : Broadcast) (m : Message) : Broadcast :=
  { b with
    lost := b.lost + (b.kept.length + 1 - b.capacity)
    kept := enqueue b.capacity b.kept m }

/-- The position of the message that will be sent next. -/
def next (b : Broadcast) : Nat := b.lost + b.kept.length

/-- What there is at a position. -/
inductive Finding where
  | message (m : Message)
  | empty
  /-- Messages were lost between the position and those that are kept. -/
  | lagged (count : Nat)

/-- A look at a position, and where whoever looks stands then. -/
def look (b : Broadcast) (p : Nat) : Nat × Finding :=
  if p < b.lost then (b.lost, .lagged (b.lost - p))
  else match b.kept[p - b.lost]? with
    | some m => (p + 1, .message m)
    | none => (p, .empty)

/-- Who lags is put at the oldest message. -/
theorem look_lagged {b : Broadcast} {p p' count : Nat} (h : b.look p = (p', .lagged count)) :
    p < b.lost ∧ p' = b.lost := by
  unfold look at h
  split at h
  · next lt =>
    cases h
    exact ⟨lt, rfl⟩
  · split at h <;> cases h

/-- A receiver looks until it does not lag. -/
def recv (b : Broadcast) (p : Nat) : Nat × Received :=
  match told : b.look p with
  | (p', .message m) => (p', .message m)
  | (p', .empty) => (p', .empty)
  | (p', .lagged _) =>
    have := look_lagged told
    b.recv p'
termination_by b.lost - p

/-- What is kept from a position on. -/
def unread (b : Broadcast) (p : Nat) : List Message := b.kept.drop (p - b.lost)

variable {b : Broadcast} {p p' : Nat} {m : Message} {rest : List Message}

/-! ## What is sent -/

theorem length_send (b : Broadcast) (m : Message) : (b.send m).kept.length ≤ b.capacity := by
  show (enqueue b.capacity b.kept m).length ≤ b.capacity
  rw [enqueue, List.length_drop, List.length_append, List.length_singleton]
  omega

theorem next_send (b : Broadcast) (m : Message) : (b.send m).next = b.next + 1 := by
  show b.lost + _ + (enqueue b.capacity b.kept m).length = b.lost + b.kept.length + 1
  rw [enqueue, List.length_drop, List.length_append, List.length_singleton]
  omega

theorem unread_next (b : Broadcast) : b.unread b.next = [] := by
  rw [unread, next, Nat.add_sub_cancel_left, List.drop_length]

/-- A message that is sent is enqueued for everybody, wherever they stand. -/
theorem unread_send (bounded : b.kept.length ≤ b.capacity) (within : p ≤ b.next) :
    (b.send m).unread p = enqueue b.capacity (b.unread p) m := by
  have there : p - b.lost ≤ b.kept.length := by
    unfold next at within
    omega
  show (enqueue b.capacity b.kept m).drop (p - (b.lost + _)) = _
  rw [enqueue, enqueue, unread, ← List.drop_append_of_le_length there, List.drop_drop,
    List.drop_drop, List.length_drop]
  congr 1
  omega

/-! ## What is found -/

theorem recv_of_message (found : b.look p = (p', .message m)) : b.recv p = (p', .message m) := by
  rw [recv]
  split <;> simp_all

theorem recv_of_empty (found : b.look p = (p', .empty)) : b.recv p = (p', .empty) := by
  rw [recv]
  split <;> simp_all

theorem recv_of_lagged {count : Nat} (found : b.look p = (p', .lagged count)) :
    b.recv p = b.recv p' := by
  rw [recv]
  split <;> simp_all

/-- Who is put at the oldest message has the same messages left to read. -/
theorem unread_lost (lags : p < b.lost) : b.unread b.lost = b.unread p := by
  rw [unread, unread, Nat.sub_self, Nat.sub_eq_zero_of_le (Nat.le_of_lt lags)]

/-- Who lags finds the same as somebody who does not, and who has the same left to read. -/
theorem exists_recv_eq (within : p ≤ b.next) :
    ∃ p', b.lost ≤ p' ∧ p' ≤ b.next ∧ b.unread p' = b.unread p ∧ b.recv p = b.recv p' := by
  by_cases lags : p < b.lost
  · refine ⟨b.lost, Nat.le_refl _, Nat.le_add_right .., unread_lost lags, ?_⟩
    exact recv_of_lagged (if_pos lags)
  · exact ⟨p, Nat.not_lt.mp lags, within, rfl, rfl⟩

/-- Where something is unread the first of it is found. -/
theorem recv_of_cons (within : p ≤ b.next) (unread : b.unread p = m :: rest) :
    (b.recv p).2 = .message m ∧ b.unread (b.recv p).1 = rest ∧ (b.recv p).1 ≤ b.next := by
  obtain ⟨p', current, -, same, found⟩ := exists_recv_eq within
  rw [← same] at unread
  have first : b.kept[p' - b.lost]? = some m := by
    rw [← List.head?_drop, ← Broadcast.unread, unread, List.head?_cons]
  have there := (List.getElem?_eq_some_iff.mp first).1
  have looked : b.look p' = (p' + 1, .message m) := by
    rw [look, if_neg (Nat.not_lt.mpr current), first]
  rw [found, recv_of_message looked]
  refine ⟨rfl, ?_, ?_⟩
  · rw [Broadcast.unread, Nat.sub_add_comm current, ← List.tail_drop, ← Broadcast.unread, unread,
      List.tail_cons]
  · show p' + 1 ≤ b.lost + b.kept.length
    omega

/-- Where nothing is unread nothing is found. -/
theorem recv_of_nil (within : p ≤ b.next) (unread : b.unread p = []) :
    (b.recv p).2 = .empty ∧ b.unread (b.recv p).1 = [] ∧ (b.recv p).1 ≤ b.next := by
  obtain ⟨p', current, within', same, found⟩ := exists_recv_eq within
  rw [← same] at unread
  have missing : b.kept[p' - b.lost]? = none := by
    rw [← List.head?_drop, ← Broadcast.unread, unread, List.head?_nil]
  have looked : b.look p' = (p', .empty) := by
    rw [look, if_neg (Nat.not_lt.mpr current), missing]
  rw [found, recv_of_empty looked]
  exact ⟨rfl, unread, within'⟩

end Broadcast

/-! ## Runs -/

/-- The buffer that a receiver reads from: what a history sends to its channel, or all replies. It
is the same for all peers of a channel, and for all streams. -/
def Receiver.broadcast (r : Receiver) (capacity : Nat) (t : Log) : Broadcast :=
  (t.filterMap r.sentBy).foldl .send (.new capacity)

/-- What a receiver with a position does in a history, and where it stands then: it begins at the
end of the buffer, and what it finds is what there is at its position. -/
inductive Receiver.Reads (capacity : Nat) (r : Receiver) : Log → Option Nat → Prop
  | comes (t : Log) :
      Reads capacity r (t ++ [r.entry]) (some (r.broadcast capacity t).next)
  | looks {t : Log} {p : Nat} (reads : Reads capacity r t (some p)) :
      Reads capacity r (t ++ [(r.look, .received ((r.broadcast capacity t).recv p).2)])
        (some ((r.broadcast capacity t).recv p).1)
  | goes {t : Log} {p : Nat} (report : Report) (reads : Reads capacity r t (some p)) :
      Reads capacity r (t ++ [(r.goes, report)]) none
  | stays {t : Log} {p : Nat} {x : Act × Report} (other : x.1 ≠ r.look ∧ x.1 ≠ r.goes)
      (reads : Reads capacity r t (some p)) : Reads capacity r (t ++ [x]) (some p)
  | away {t : Log} {x : Act × Report} (silent : x.1 = r.look → x.2 = .silent)
      (reads : Reads capacity r t none) : Reads capacity r (t ++ [x]) none

/-- A receiver reads from a position, and what it has not read is what is kept from there on. -/
def Receiver.Stands (capacity : Nat) (r : Receiver) (t : Log) (queue : Option (List Message)) :
    Prop :=
  ∃ p, r.Reads capacity t p ∧ queue = p.map (r.broadcast capacity t).unread ∧
    ∀ n, p = some n → n ≤ (r.broadcast capacity t).next

section
variable {r : Receiver} {capacity : Nat} {t : Log} {x : Act × Report} {q q' : Option (List Message)}

theorem Receiver.bounded_broadcast (r : Receiver) (capacity : Nat) (t : Log) :
    (r.broadcast capacity t).capacity = capacity ∧
      (r.broadcast capacity t).kept.length ≤ capacity := by
  rw [broadcast]
  induction t.filterMap r.sentBy using List.reverseRecOn with
  | nil => exact ⟨rfl, Nat.zero_le _⟩
  | append_singleton sent m ih =>
    rw [List.foldl_append, List.foldl_cons, List.foldl_nil]
    exact ⟨ih.1, Nat.le_trans (Broadcast.length_send _ m) (Nat.le_of_eq ih.1)⟩

theorem Receiver.broadcast_sent {m : Message} (own : r.sentBy x = some m) :
    r.broadcast capacity (t ++ [x]) = (r.broadcast capacity t).send m := by
  rw [broadcast, List.filterMap_append, List.foldl_append]
  simp [broadcast, own]

theorem Receiver.broadcast_foreign (foreign : r.sentBy x = none) :
    r.broadcast capacity (t ++ [x]) = r.broadcast capacity t := by
  rw [broadcast, List.filterMap_append, List.foldl_append]
  simp [broadcast, foreign]

/-- One more act, and the receiver reads from its position on. -/
theorem Receiver.Stands.service (stands : r.Stands capacity t q) {present : List Message}
    (there : q = some present) (service : Service capacity r present x q') :
    r.Stands capacity (t ++ [x]) q' := by
  obtain ⟨p, reads, queue, within⟩ := stands
  obtain ⟨p, rfl, rfl⟩ := Option.map_eq_some_iff.mp (queue.symm.trans there)
  have le := within p rfl
  obtain ⟨same, bounded⟩ := r.bounded_broadcast capacity t
  cases service with
  | @sent _ m own other =>
    refine ⟨some p, .stays other reads, ?_, ?_⟩
    · rw [broadcast_sent own, Option.map_some, Broadcast.unread_send (same.symm ▸ bounded) le, same]
    · rintro _ ⟨⟩
      rw [broadcast_sent own, Broadcast.next_send]
      exact Nat.le_succ_of_le le
  | @obtained m rest unread =>
    obtain ⟨found, left, le'⟩ := Broadcast.recv_of_cons le unread
    have looked := found ▸ Receiver.Reads.looks reads
    refine ⟨_, looked, ?_, ?_⟩
    · rw [broadcast_foreign (r.sentBy_look _), Option.map_some, left]
    · rintro _ ⟨⟩
      rwa [broadcast_foreign (r.sentBy_look _)]
  | drained unread =>
    obtain ⟨found, left, le'⟩ := Broadcast.recv_of_nil le unread
    have looked := found ▸ Receiver.Reads.looks reads
    refine ⟨_, looked, ?_, ?_⟩
    · rw [broadcast_foreign (r.sentBy_look _), Option.map_some, left, unread]
    · rintro _ ⟨⟩
      rwa [broadcast_foreign (r.sentBy_look _)]
  | gone report => exact ⟨none, .goes report reads, rfl, nofun⟩
  | spared foreign other =>
    refine ⟨some p, .stays other reads, ?_, ?_⟩
    · rw [broadcast_foreign foreign, Option.map_some]
    · rintro _ ⟨⟩
      rwa [broadcast_foreign foreign]

end

/-- In every run of the hub each receiver that has come reads as if it had a position in a buffer
that it shares with all on its channel, and what it has not read is what is kept from there on. -/
theorem receivers_read_by_position (capacity limit : Nat) (acts : List Act) (r : Receiver)
    (entered : r.entry ∈ act.transcript (new capacity limit) acts) :
    r.Stands capacity.nextPowerOfTwo (act.transcript (new capacity limit) acts)
      (r.queue (act.after (new capacity limit) acts)) := by
  have run := act.history (s := new capacity limit)
    (P := fun t h => h.Sound ∧ h.capacity = capacity.nextPowerOfTwo ∧
      (r.entry ∈ t → r.Known h ∧ r.Stands capacity.nextPowerOfTwo t (r.queue h)))
    ⟨sound_new capacity limit, rfl, nofun⟩ ?_ acts
  · exact (run.2.2 entered).2
  rintro t h a ⟨sound, same, before⟩
  have effect := sound.effect a
  refine ⟨sound_act sound a, effect.fixed.1.trans same, fun entered => ?_⟩
  by_cases entry : (a, (h.act a).2) = r.entry
  · obtain ⟨-, known, empty⟩ := sound.enters effect entry
    rw [entry, empty]
    have foreign : r.sentBy r.entry = none := by cases r <;> rfl
    refine ⟨known, _, .comes t, ?_, ?_⟩
    · rw [Receiver.broadcast_foreign foreign, Option.map_some, Broadcast.unread_next]
    · rintro _ ⟨⟩
      exact Nat.le_of_eq (by rw [Receiver.broadcast_foreign foreign])
  · have came : r.entry ∈ t :=
      (List.mem_append.mp entered).resolve_right fun new => entry (List.mem_singleton.mp new).symm
    obtain ⟨known, stands⟩ := before came
    refine ⟨effect.known known, ?_⟩
    cases there : r.queue h with
    | some present =>
      exact stands.service there (same ▸ effect.service known there)
    | none =>
      obtain ⟨p, reads, queue, -⟩ := stands
      obtain rfl : p = none := Option.map_eq_none_iff.mp (queue.symm.trans there)
      rw [effect.absent known there]
      refine ⟨none, .away (fun look => ?_) reads, rfl, nofun⟩
      obtain rfl : a = r.look := look
      exact effect.silent there

end Hub

end PaymentRelay
