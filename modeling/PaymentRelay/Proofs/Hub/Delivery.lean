import Mathlib.Order.Monotone.Basic
import PaymentRelay.Proofs.Hub.Receiver

/-
  Each receiver reads a bounded queue that loses the oldest.

  The messages that are sent to a receiver after it came stand in a row (`Receiver.sent`). Its
  queue is at every moment the end of that row and no longer than the capacity, and it is just as
  long when anything in front of it has been lost (`Backlog`). So what a receiver reads has a place
  in the row, where the queue begins (`Receiver.place`), and what is known of these places says
  all that a receiver reads (`Lossy`).

  The hub of this machine stays open; nobody finds it closed.
-/

namespace PaymentRelay

namespace Hub

/-- The messages sent to a receiver that came at one position of a history, up to another. -/
def Receiver.sent (r : Receiver) (t : Log) (i j : Nat) : List Message :=
  ((t.take j).drop (i + 1)).filterMap r.sentBy

/-- A message is read at a position of a history. -/
def Receiver.Obtains (r : Receiver) (t : Log) (j : Nat) (m : Message) : Prop :=
  t[j]? = some (r.look, .received (.message m))

/-- What a receiver reads of the messages that are sent to it: the reads stand at places of the row,
given by `index`. -/
structure Lossy (capacity : Nat) (t : Log) (r : Receiver) (i : Nat) (index : Nat → Nat) :
    Prop where
  /-- A message that is read was sent before, after the receiver came, and is unaltered. -/
  obtained : ∀ j m, r.Obtains t j m → (r.sent t i j)[index j]? = some m
  /-- Messages are read in the order in which they were sent, each at most once. -/
  ordered : ∀ j j' m m', j < j' → r.Obtains t j m → r.Obtains t j' m' → index j < index j'
  /-- Where something has been skipped, just the last messages remain, as many as the capacity. -/
  skipped : ∀ j m n, r.Obtains t j m → n < index j →
    (∀ j' m', j' < j → r.Obtains t j' m' → index j' < n) →
    index j + capacity = (r.sent t i j).length
  /-- Where there is nothing to read, nothing has been sent after what was read. -/
  drained : ∀ j n, t[j]? = some (r.look, .received .empty) → n < (r.sent t i j).length →
    ∃ j' m, j' < j ∧ r.Obtains t j' m ∧ n ≤ index j'
  /-- As long as it has not gone, a receiver that looks reads a message or finds nothing yet. -/
  answered : ∀ j report, i < j → t[j]? = some (r.look, report) →
    (∀ j' report', i < j' → j' < j → t[j']? ≠ some (r.goes, report')) →
    report = .received .empty ∨ ∃ m, r.Obtains t j m
  /-- When it has gone, it reads nothing. -/
  silent : ∀ j j' report report', i < j' → j' < j → t[j']? = some (r.goes, report') →
    t[j]? = some (r.look, report) → report = .silent

/-! ## Runs -/

/-- The place in its row of the message that a receiver would read after some acts of a run. -/
def Receiver.place (r : Receiver) (s : Hub) (acts : List Act) (i n : Nat) : Nat :=
  (r.sent (act.transcript s acts) i n).length -
    ((r.queue (act.after s (acts.take n))).getD []).length

/-- The queue of a receiver is the end of what was sent to it. -/
structure Backlog (capacity : Nat) (t : Log) (r : Receiver) (i : Nat) (index : Nat → Nat) (n : Nat)
    (q : List Message) : Prop where
  suffix : q <:+ r.sent t i n
  bounded : q.length ≤ capacity
  /-- What was read stands before it. -/
  passed : ∀ j m, j < n → r.Obtains t j m → index j + q.length < (r.sent t i n).length
  /-- Everything before it was read or passed over by a read, unless the queue is full. -/
  reached : q.length = capacity ∨ ∀ k, k + q.length < (r.sent t i n).length →
    ∃ j m, j < n ∧ r.Obtains t j m ∧ k ≤ index j

/-- A receiver has gone before a position of a history. -/
def Receiver.Gone (r : Receiver) (t : Log) (i n : Nat) : Prop :=
  ∃ j report, i < j ∧ j < n ∧ t[j]? = some (r.goes, report)

section
variable {s : Hub} {acts : List Act} {r : Receiver} {t : Log} {i n capacity : Nat}
  {index : Nat → Nat} {q q' : List Message} {x : Act × Report}

theorem Receiver.sent_succ (r : Receiver) (lt : i < n) (at_n : t[n]? = some x) :
    r.sent t i (n + 1) = r.sent t i n ++ (r.sentBy x).toList := by
  have long : i + 1 ≤ (t.take n).length := by
    have := (List.getElem?_eq_some_iff.mp at_n).1
    rw [List.length_take]
    omega
  rw [sent, List.take_add_one, at_n, List.drop_append_of_le_length long, List.filterMap_append]
  cases found : r.sentBy x <;> simp [sent, found]

theorem Receiver.sent_nil (r : Receiver) (le : n ≤ i + 1) : r.sent t i n = [] := by
  have short : (t.take n).length ≤ i + 1 := by
    rw [List.length_take]
    omega
  rw [sent, List.drop_eq_nil_of_le short, List.filterMap_nil]

theorem suffix_enqueue {m : Message} {row : List Message} (suffix : q <:+ row) :
    enqueue capacity q m <:+ row ++ [m] := by
  obtain ⟨front, rfl⟩ := suffix
  exact (List.drop_suffix _ _).trans ⟨front, by simp⟩

theorem length_enqueue {m : Message} (bounded : q.length ≤ capacity) :
    (enqueue capacity q m).length = if q.length = capacity then capacity else q.length + 1 := by
  rw [enqueue, List.length_drop, List.length_append, List.length_singleton]
  split <;> omega

/-- Where nothing is sent and nothing is read, nothing changes. -/
theorem Backlog.idle (backlog : Backlog capacity t r i index n q)
    (no_read : ∀ m, ¬r.Obtains t n m) (row : r.sent t i (n + 1) = r.sent t i n) :
    Backlog capacity t r i index (n + 1) q where
  suffix := row ▸ backlog.suffix
  bounded := backlog.bounded
  passed j m lt read := by
    rw [row]
    rcases Nat.lt_succ_iff_lt_or_eq.mp lt with before | rfl
    · exact backlog.passed j m before read
    · exact absurd read (no_read m)
  reached := by
    rw [row]
    refine backlog.reached.imp id fun reached k lt => ?_
    obtain ⟨j, m, before, read, le⟩ := reached k lt
    exact ⟨j, m, Nat.lt_succ_of_lt before, read, le⟩

/-- One more act, and the queue is still the end of what was sent. -/
theorem Backlog.service (backlog : Backlog capacity t r i index n q) (lt : i < n)
    (at_n : t[n]? = some x) (place : index n + q.length = (r.sent t i n).length)
    (service : Service capacity r q x (some q')) :
    Backlog capacity t r i index (n + 1) q' := by
  have row := r.sent_succ lt at_n
  have no_read (other : x.1 ≠ r.look) (m : Message) : ¬r.Obtains t n m := by
    intro read
    rw [Receiver.Obtains, at_n] at read
    exact other (congrArg Prod.fst (Option.some.inj read))
  cases service with
  | @sent _ m own other =>
    rw [own, Option.toList_some] at row
    have long := congrArg List.length row
    rw [List.length_append, List.length_singleton] at long
    have size := length_enqueue (m := m) backlog.bounded
    refine ⟨row ▸ suffix_enqueue backlog.suffix, ?_, fun j m' lt' read => ?_, ?_⟩
    · have := backlog.bounded
      split at size <;> omega
    · rcases Nat.lt_succ_iff_lt_or_eq.mp lt' with before | rfl
      · have := backlog.passed j m' before read
        split at size <;> omega
      · exact absurd read (no_read other.1 m')
    · rcases backlog.reached with full | reached
      · exact .inl (by rw [size, if_pos full])
      · by_cases full : q.length = capacity
        · exact .inl (by rw [size, if_pos full])
        · rw [if_neg full] at size
          refine .inr fun k lt' => ?_
          obtain ⟨j, m', before, read, le⟩ := reached k (by omega)
          exact ⟨j, m', Nat.lt_succ_of_lt before, read, le⟩
  | @obtained m rest unread =>
    rw [Receiver.sentBy_look, Option.toList_none, List.append_nil] at row
    rw [unread, List.length_cons] at place
    have bounded := backlog.bounded
    rw [unread, List.length_cons] at bounded
    refine ⟨?_, by omega, fun j m' lt' read => ?_, .inr fun k lt' => ?_⟩
    · exact row ▸ (unread ▸ List.suffix_cons m q').trans backlog.suffix
    · rw [row]
      rcases Nat.lt_succ_iff_lt_or_eq.mp lt' with before | rfl
      · have := backlog.passed j m' before read
        rw [unread, List.length_cons] at this
        omega
      · omega
    · rw [row] at lt'
      exact ⟨n, m, Nat.lt_succ_self n, at_n, by omega⟩
  | drained unread =>
    rw [Receiver.sentBy_look, Option.toList_none, List.append_nil] at row
    refine backlog.idle (fun m read => ?_) row
    rw [Receiver.Obtains, at_n] at read
    cases read
  | spared foreign other =>
    rw [foreign, Option.toList_none, List.append_nil] at row
    exact backlog.idle (no_read other.1) row

/-! The receiver that came at one position of a run is followed through the rest of it. -/

/-- The hub is sound at every moment of a run. -/
theorem Sound.after (sound : s.Sound) (acts : List Act) : (act.after s acts).Sound :=
  Machine.after_keeps act (P := Sound) (fun _ a sound => sound_act sound a) sound acts

/-- What stands at a position of a transcript is what came of the act there. -/
theorem Sound.effect_at (sound : s.Sound) (at_n : (act.transcript s acts)[n]? = some x) :
    Effect (act.after s (acts.take n)) x.1 (act.after s (acts.take (n + 1)), x.2) := by
  rw [Machine.getElem?_transcript] at at_n
  obtain ⟨a, here, rfl⟩ := Option.map_eq_some_iff.mp at_n
  rw [act.after_take_succ s here]
  exact (sound.after (acts.take n)).effect a

theorem Sound.nextId_mono (sound : s.Sound) (acts : List Act) :
    Monotone fun n => (act.after s (acts.take n)).nextId := by
  refine monotone_nat_of_le_succ fun n => ?_
  cases here : acts[n]? with
  | none =>
    have short : acts.length ≤ n := List.getElem?_eq_none_iff.mp here
    rw [List.take_of_length_le short, List.take_of_length_le (Nat.le_succ_of_le short)]
  | some a =>
    rw [act.after_take_succ s here]
    exact ((sound.after (acts.take n)).effect a).nextId_le

/-- What a receiver finds before it has come is nothing. -/
theorem Sound.early (sound : s.Sound) (entry : (act.transcript s acts)[i]? = some r.entry)
    {report : Report} (le : n ≤ i)
    (at_n : (act.transcript s acts)[n]? = some (r.look, report)) : report = .silent := by
  have enters := (sound.after (acts.take i)).enters (sound.effect_at entry) rfl
  have absent := (sound.after (acts.take n)).not_yet (r := r)
    (enters.1 ▸ sound.nextId_mono acts le)
  exact (sound.effect_at at_n).silent absent

/-- Where a receiver stands at a moment after it has come. -/
structure Standing (s : Hub) (acts : List Act) (r : Receiver) (i n : Nat) : Prop where
  known : r.Known (act.after s (acts.take n))
  gone : r.queue (act.after s (acts.take n)) = none ↔ r.Gone (act.transcript s acts) i n
  backlog : ∀ q, r.queue (act.after s (acts.take n)) = some q →
    Backlog s.capacity (act.transcript s acts) r i (r.place s acts i) n q

theorem Sound.capacity_after (sound : s.Sound) (acts : List Act) :
    (act.after s acts).capacity = s.capacity :=
  (Machine.after_keeps act (P := fun h => h.Sound ∧ h.capacity = s.capacity)
    (fun _ a kept => ⟨sound_act kept.1 a, (kept.1.effect a).fixed.1.trans kept.2⟩)
    ⟨sound, rfl⟩ acts).2

/-- The place in the row and the length of the queue add up. -/
theorem Standing.place (standing : Standing s acts r i n)
    (there : r.queue (act.after s (acts.take n)) = some q) :
    r.place s acts i n + q.length = (r.sent (act.transcript s acts) i n).length := by
  have le := (standing.backlog q there).suffix.length_le
  simp only [Receiver.place, there, Option.getD_some]
  omega

theorem Sound.standing_entry (sound : s.Sound)
    (entry : (act.transcript s acts)[i]? = some r.entry) : Standing s acts r i (i + 1) := by
  obtain ⟨_, known, queue⟩ := (sound.after (acts.take i)).enters (sound.effect_at entry) rfl
  refine ⟨known, ?_, fun q there => ?_⟩
  · rw [queue]
    refine iff_of_false nofun ?_
    rintro ⟨j, _, after, before, _⟩
    omega
  · rw [queue] at there
    cases there
    refine ⟨List.nil_suffix, Nat.zero_le _, fun j m lt read => ?_, .inr fun k lt => ?_⟩
    · cases sound.early entry (Nat.lt_succ_iff.mp lt) read
    · rw [r.sent_nil (Nat.le_refl _)] at lt
      cases lt

/-- A receiver goes when it does, and is followed until then. -/
theorem Sound.standing_succ (sound : s.Sound) (standing : Standing s acts r i n) (lt : i < n)
    (at_n : (act.transcript s acts)[n]? = some x) : Standing s acts r i (n + 1) := by
  have effect := sound.effect_at at_n
  have gone_earlier (gone : r.Gone (act.transcript s acts) i n) :
      r.Gone (act.transcript s acts) i (n + 1) := by
    obtain ⟨j, report, after, before, went⟩ := gone
    exact ⟨j, report, after, Nat.lt_succ_of_lt before, went⟩
  cases there : r.queue (act.after s (acts.take n)) with
  | none =>
    have absent := effect.absent standing.known there
    refine ⟨effect.known standing.known, ?_, fun q' there' => ?_⟩
    · exact iff_of_true absent (gone_earlier (standing.gone.mp there))
    · rw [absent] at there'
      cases there'
  | some q =>
    have service := effect.service standing.known there
    rw [sound.capacity_after] at service
    have present : ¬r.Gone (act.transcript s acts) i n := fun gone => by
      rw [standing.gone.mpr gone] at there
      cases there
    refine ⟨effect.known standing.known, ?_, fun q' there' => ?_⟩
    · cases there' : r.queue (act.after s (acts.take (n + 1))) with
      | none =>
        rw [there'] at service
        have went : x = (r.goes, x.2) := Prod.ext service.leaves rfl
        exact iff_of_true rfl ⟨n, x.2, lt, Nat.lt_succ_self n, went ▸ at_n⟩
      | some q' =>
        rw [there'] at service
        refine iff_of_false nofun ?_
        rintro ⟨j, report, after, before, went⟩
        rcases Nat.lt_succ_iff_lt_or_eq.mp before with earlier | rfl
        · exact present ⟨j, report, after, earlier, went⟩
        · rw [at_n] at went
          exact service.stays (congrArg Prod.fst (Option.some.inj went))
    · rw [there'] at service
      exact (standing.backlog q there).service lt at_n (standing.place there) service

theorem Sound.standing (sound : s.Sound) (entry : (act.transcript s acts)[i]? = some r.entry)
    (lt : i < n) (at_n : (act.transcript s acts)[n]? = some x) : Standing s acts r i n := by
  induction n, lt using Nat.le_induction generalizing x with
  | base => exact sound.standing_entry entry
  | succ n lt ih =>
    have short := (List.getElem?_eq_some_iff.mp at_n).1
    have before := List.getElem?_eq_getElem (Nat.lt_of_succ_lt short)
    exact sound.standing_succ (ih before) lt before

/-- What a receiver reads: a message from the front of its queue, or nothing. -/
theorem Standing.reads (sound : s.Sound) (standing : Standing s acts r i n) {report : Report}
    (at_n : (act.transcript s acts)[n]? = some (r.look, report)) :
    (∃ m rest, r.queue (act.after s (acts.take n)) = some (m :: rest) ∧
      report = .received (.message m)) ∨
    (r.queue (act.after s (acts.take n)) = some [] ∧ report = .received .empty) ∨
    (r.queue (act.after s (acts.take n)) = none ∧ report = .silent) := by
  have effect := sound.effect_at at_n
  cases there : r.queue (act.after s (acts.take n)) with
  | none => exact .inr (.inr ⟨rfl, effect.silent there⟩)
  | some q =>
    have service := effect.service standing.known there
    generalize r.queue _ = q' at service
    generalize same : (r.look, report) = y at service
    cases service with
    | sent _ other | spared _ other =>
      subst same
      exact absurd rfl other.1
    | obtained unread =>
      cases same
      exact .inl ⟨_, _, congrArg some unread, rfl⟩
    | drained unread =>
      cases same
      exact .inr (.inl ⟨congrArg some unread, rfl⟩)
    | gone report' => exact absurd (congrArg Prod.fst same) r.look_ne_goes

/-- What a receiver reads was the front of the end of its row. -/
theorem Sound.backlog_at (sound : s.Sound) (entry : (act.transcript s acts)[i]? = some r.entry)
    {m : Message} (read : r.Obtains (act.transcript s acts) n m) :
    ∃ rest, Backlog s.capacity (act.transcript s acts) r i (r.place s acts i) n (m :: rest) ∧
      r.place s acts i n + (m :: rest).length = (r.sent (act.transcript s acts) i n).length := by
  have lt : i < n := Nat.lt_of_not_le fun le => by cases sound.early entry le read
  have standing := sound.standing entry lt read
  rcases standing.reads sound read with ⟨m', rest, there, eq⟩ | ⟨_, eq⟩ | ⟨_, eq⟩
  · cases eq
    exact ⟨rest, standing.backlog _ there, standing.place there⟩
  · cases eq
  · cases eq

/-- A receiver that comes in a run reads a bounded queue that loses the oldest. -/
theorem Sound.lossy (sound : s.Sound) (entry : (act.transcript s acts)[i]? = some r.entry) :
    Lossy s.capacity (act.transcript s acts) r i (r.place s acts i) where
  obtained j m read := by
    obtain ⟨rest, backlog, place⟩ := sound.backlog_at entry read
    obtain ⟨front, row⟩ := backlog.suffix
    rw [← row, List.length_append] at place
    have here : r.place s acts i j = front.length := by omega
    rw [← row, here, List.getElem?_append_right (Nat.le_refl _), Nat.sub_self,
      List.getElem?_cons_zero]
  ordered j j' m m' lt read read' := by
    obtain ⟨rest, backlog, place⟩ := sound.backlog_at entry read'
    have passed := backlog.passed j m lt read
    omega
  skipped j m n read before earlier := by
    obtain ⟨rest, backlog, place⟩ := sound.backlog_at entry read
    rcases backlog.reached with full | reached
    · rw [← full]
      exact place
    · obtain ⟨j', m', lt, read', le⟩ := reached n (by omega)
      exact absurd (earlier j' m' lt read') (Nat.not_lt.mpr le)
  drained j n at_j before := by
    have lt : i < j := Nat.lt_of_not_le fun le => by cases sound.early entry le at_j
    have standing := sound.standing entry lt at_j
    rcases standing.reads sound at_j with ⟨_, _, _, eq⟩ | ⟨there, _⟩ | ⟨_, eq⟩
    · cases eq
    · rcases (standing.backlog _ there).reached with full | reached
      · exact absurd full (Nat.ne_of_lt sound.capacity)
      · exact reached n before
    · cases eq
  answered j report lt at_j stays := by
    have standing := sound.standing entry lt at_j
    rcases standing.reads sound at_j with ⟨m, _, _, rfl⟩ | ⟨_, rfl⟩ | ⟨gone, _⟩
    · exact .inr ⟨m, at_j⟩
    · exact .inl rfl
    · obtain ⟨j', report', after, before, went⟩ := standing.gone.mp gone
      exact absurd went (stays j' report' after before)
  silent j j' report report' after before went at_j := by
    have standing := sound.standing entry (Nat.lt_trans after before) at_j
    have gone := standing.gone.mpr ⟨j', report', after, before, went⟩
    exact (sound.effect_at at_j).silent gone

/-- Whoever is found on a channel has joined it. -/
theorem Sound.enrolled (sound : s.Sound) (nobody : s.peers = []) (n : Nat) {id : Nat} {p : Peer}
    (found : (act.after s (acts.take n)).peer? id = some p) :
    ∃ i, i < n ∧ (act.transcript s acts)[i]? = some (.join p.channel, .joined id) := by
  induction n generalizing p with
  | zero =>
    rw [List.take_zero, Machine.after, peer?, nobody] at found
    cases found
  | succ n ih =>
    have grow : (∃ i, i < n ∧ (act.transcript s acts)[i]? = some (.join p.channel, .joined id)) →
        ∃ i, i < n + 1 ∧ (act.transcript s acts)[i]? = some (.join p.channel, .joined id) :=
      fun before => before.imp fun _ both => both.imp_left Nat.lt_succ_of_lt
    cases at_n : (act.transcript s acts)[n]? with
    | none =>
      have short := List.getElem?_eq_none_iff.mp at_n
      rw [Machine.length_transcript] at short
      rw [List.take_of_length_le (Nat.le_succ_of_le short), ← List.take_of_length_le short] at found
      exact grow (ih found)
    | some x =>
      obtain ⟨a, report⟩ := x
      have effect := sound.effect_at at_n
      rcases effect.peer? found with ⟨q, old, same⟩ | ⟨rfl, rfl⟩
      · exact grow (same ▸ ih old)
      · exact ⟨n, Nat.lt_succ_self n, at_n.trans (by rw [← effect.reports_join])⟩

/-- What is replied is what the peer wrote, stamped with the channel that it has joined. -/
theorem Sound.stamped (sound : s.Sound) (nobody : s.peers = []) {peer : Nat} {claimed m : Message}
    {result : Except BusError Unit}
    (at_n : (act.transcript s acts)[n]? = some (.reply peer claimed, .replied m result)) :
    ∃ i channel, i < n ∧ (act.transcript s acts)[i]? = some (.join channel, .joined peer) ∧
      m = claimed.stamped channel := by
  obtain ⟨p, found, same⟩ := (sound.effect_at at_n).reports_reply
  obtain ⟨i, lt, joined⟩ := sound.enrolled nobody n found
  exact ⟨i, p.channel, lt, joined, same⟩

end

/-- In every run each receiver reads a bounded queue of what was sent to it since it came, that
loses the oldest: a peer what was published to its channel, a stream all replies, which are stamped
with the channels of their peers. A receiver that reads or goes takes nothing from any other. -/
theorem receivers_read_lossy_queues (capacity limit : Nat) (acts : List Act) :
    let t := act.transcript (new capacity limit) acts
    let h := act.after (new capacity limit) acts
    (∀ (r : Receiver) i, t[i]? = some r.entry →
      ∃ index, Lossy capacity.nextPowerOfTwo t r i index) ∧
    (∀ (j peer : Nat) (claimed m : Message) (result : Except BusError Unit),
      t[j]? = some (.reply peer claimed, .replied m result) →
      ∃ i channel, i < j ∧ t[i]? = some (.join channel, .joined peer) ∧
        m = claimed.stamped channel) ∧
    ∀ r r' : Receiver, r.look ≠ r'.look →
      r.queue (h.act r'.look).1 = r.queue h ∧ r.queue (h.act r'.goes).1 = r.queue h := by
  have sound := sound_new capacity limit
  refine ⟨fun r i entry => ⟨_, sound.lossy entry⟩, fun j peer claimed m result at_j =>
    sound.stamped rfl at_j, fun r r' other => ⟨?_, ?_⟩⟩
  · exact ((sound.after acts).effect r'.look).others (.inl rfl) other
  · exact ((sound.after acts).effect r'.goes).others (.inr rfl) other

end Hub

end PaymentRelay
