import PaymentRelay.Proofs.Relay.History
import PaymentRelay.Relay.Basic

/-
  How long a wallet stays connected, and what it is written.

  A session is open as long as its wallet is alive: its timer runs from the last move, and fires
  when it has been still as long as the limit (`Circuit.Timed`, `Befalls.timed`). Until then the
  wallet is written the messages for its channel, each of them once and in their order, if no more
  of them wait at a time than its buffer holds (`Circuit.InOrder`, `Befalls.inOrder`). Both are kept
  by everything that happens, and so they hold at the end of every run, where the directory counts
  the open sessions of every channel (`Switchboard.wallets_in_step`).
-/

namespace PaymentRelay

namespace Circuit

variable {capacity : Nat} {idle : Span} {t : List Happening.Entry} {e : Happening.Entry}
  {now : Instant} {c c' : Circuit} {number : Nat} {channel : String}

/-! ## How long a wallet stays connected -/

/-- When something was last written or read, if what waits is written now. -/
def lastMove (now : Instant) (c : Circuit) : Instant :=
  if c.waiting.isEmpty then c.session.lastTraffic else now

/-- A session is open as long as its wallet is alive, and its timer runs from the last move. -/
structure Timed (idle : Span) (t : List Happening.Entry) (now : Instant) (c : Circuit) : Prop where
  isOpen : c.session.isOpen = true ↔
    Happening.Alive idle c.session.number c.session.channel t
  still : c.session.isOpen = true →
    (c.lastMove now).nanos + Happening.stillness c.session.number c.session.channel t = now.nanos

/-- Where the wallet stays and no time passes, the session stays open, and its timer starts again if
something moves. -/
theorem Timed.instant (timed : Timed idle t now c) (isOpen : c.session.isOpen = true)
    (positive : 0 < idle.nanos) (ends : e.ends c.session.number = false) (span : e.1.span = ⟨0⟩)
    (seat : c'.session.number = c.session.number ∧ c'.session.channel = c.session.channel)
    (opened : c'.session.isOpen = true)
    (timer : c'.lastMove now =
      if e.moves c.session.number c.session.channel then now else c.lastMove now) :
    Timed idle (t ++ [e]) (now.after e.1.span) c' := by
  have goes_on := Happening.alive_of_instant positive (timed.isOpen.mp isOpen) ends span
  obtain ⟨number, channel⟩ := seat
  refine ⟨?_, fun _ => ?_⟩
  · rw [number, channel]
    exact iff_of_true opened goes_on
  · rw [number, channel, Happening.stillness_snoc, span, Switchboard.after_zero, timer]
    cases e.moves c.session.number c.session.channel with
    | true => exact Int.add_zero _
    | false => exact timed.still isOpen

/-- When the clock moves on, the timer fires if the wallet has been still as long as the limit. -/
theorem Timed.advance (timed : Timed idle t now c) (isOpen : c.session.isOpen = true) (span : Span)
    (seen : Happening.Seen) :
    Timed idle (t ++ [(.advance span, seen)]) (now.after span)
      ((c.writeOut now).dismiss (fun x => x.lastTraffic.after idle ≤ now.after span) [.close]) := by
  have alive := timed.isOpen.mp isOpen
  have still := timed.still isOpen
  have later : Happening.stillness c.session.number c.session.channel
      (t ++ [(.advance span, seen)]) =
      Happening.stillness c.session.number c.session.channel t + span.nanos :=
    Happening.stillness_snoc
  have fires : (c.lastMove now).after idle ≤ now.after span ↔
      (c.lastMove now).nanos + idle.nanos ≤ now.nanos + span.nanos := .rfl
  have alive_iff : Happening.Alive idle c.session.number c.session.channel
      (t ++ [(.advance span, seen)]) ↔ ¬(c.lastMove now).after idle ≤ now.after span := by
    rw [Happening.alive_snoc, later, fires]
    constructor
    · rintro ⟨-, -, short⟩
      omega
    · intro short
      exact ⟨alive, rfl, by omega⟩
  rw [writeOut, if_pos isOpen, dismiss]
  have opened : (Switchboard.sentTo now c.waiting c.session).isOpen = true := isOpen
  have moved : (Switchboard.sentTo now c.waiting c.session).lastTraffic = c.lastMove now := rfl
  simp only [opened, moved, Bool.true_and, decide_eq_true_eq]
  split
  · next fires =>
    refine ⟨iff_of_false Bool.false_ne_true fun goes_on => alive_iff.mp goes_on fires,
      fun opened => ?_⟩
    cases opened
  · next stays =>
    refine ⟨iff_of_true isOpen (alive_iff.mpr stays), fun _ => ?_⟩
    show (c.lastMove now).nanos +
      Happening.stillness c.session.number c.session.channel _ = now.nanos + span.nanos
    rw [later]
    omega

theorem Befalls.timed (befalls : Befalls capacity idle now c e c') (timed : Timed idle t now c)
    (isOpen : c.session.isOpen = true) (positive : 0 < idle.nanos) (room : 0 < capacity) :
    Timed idle (t ++ [e]) (now.after e.1.span) c' := by
  cases befalls with
  | elsewhere light still =>
    exact timed.instant isOpen positive light.ends light.span ⟨rfl, rfl⟩ isOpen (by rw [still]; rfl)
  | heard light moves =>
    refine timed.instant isOpen positive light.ends light.span ⟨rfl, rfl⟩ isOpen ?_
    rw [if_pos moves, lastMove]
    exact ite_self _
  | given light published =>
    -- What waits is written before the clock moves on, so that the timer starts again now.
    refine timed.instant isOpen positive light.ends light.span ⟨rfl, rfl⟩ isOpen ?_
    rw [if_pos (Happening.Entry.moves_of_published published), lastMove, enqueue_eq room]
    simp
  | ended ends =>
    refine ⟨iff_of_false Bool.false_ne_true fun alive => ?_, nofun⟩
    have stays := (Happening.alive_snoc.mp alive).2.1
    exact Bool.false_ne_true (stays.symm.trans ends)
  | read => exact timed.instant isOpen positive rfl rfl ⟨rfl, rfl⟩ isOpen rfl
  | settled seen =>
    rw [writeOut, if_pos isOpen]
    exact timed.instant isOpen positive rfl rfl ⟨rfl, rfl⟩ isOpen rfl
  | passed span seen => exact timed.advance isOpen span seen

/-! ## What a wallet is written -/

/-- The messages for a channel are written to the wallet in their order, and those that are not
written yet wait. -/
structure InOrder (capacity : Nat) (t : List Happening.Entry) (c : Circuit) : Prop where
  row : Happening.Uncrowded capacity c.session.channel t → ∃ rest,
    c.written t ++ rest = Happening.messages c.session.channel t ∧
      (c.session.isOpen = true →
        rest = c.waiting ∧ c.waiting.length = Happening.outstanding c.session.channel t)
  drained : Happening.outstanding c.session.channel t = 0 → c.waiting = []
  closed : c.session.isOpen = false → c.waiting = []

theorem written_snoc : c.written (t ++ [e]) =
    (t.filterMap (·.read? c.session.number) ++
      ((e.read? c.session.number).toList ++ c.session.unread)).filterMap Outgoing.message? := by
  have reads : (t ++ [e]).filterMap (·.read? c.session.number) =
      t.filterMap (·.read? c.session.number) ++ (e.read? c.session.number).toList := by
    rw [List.filterMap_append]
    cases read : e.read? c.session.number <;> simp [read]
  rw [written, reads, List.append_assoc]

/-- Where nothing is published or read, the messages stay as they are. -/
theorem InOrder.same (inOrder : InOrder capacity t c) (isOpen : c.session.isOpen = true)
    (unpublished : e.published? c.session.channel = none) (settles : e.settles = false)
    (channel : c'.session.channel = c.session.channel) (waiting : c'.waiting = c.waiting)
    (opened : c'.session.isOpen = true)
    (written : c'.written (t ++ [e]) = c.written t) : InOrder capacity (t ++ [e]) c' := by
  have outstanding : Happening.outstanding c.session.channel (t ++ [e]) =
      Happening.outstanding c.session.channel t := by
    rw [Happening.outstanding_snoc, settles, unpublished]
    rfl
  refine ⟨fun uncrowded => ?_, fun nothing => ?_, fun closed => ?_⟩
  · rw [channel] at uncrowded ⊢
    obtain ⟨rest, row, rest_waits⟩ := inOrder.row (Happening.uncrowded_snoc.mp uncrowded).1
    refine ⟨rest, ?_, fun _ => ?_⟩
    · rw [written, row, Happening.messages_snoc, unpublished]
      exact (List.append_nil _).symm
    · rw [waiting, outstanding]
      exact rest_waits isOpen
  · rw [channel, outstanding] at nothing
    rw [waiting]
    exact inOrder.drained nothing
  · rw [opened] at closed
    cases closed

/-- What a wallet reads was written to it. -/
theorem written_read : written (t ++ [(.read c.session.number, .found c.session.unread.head?)])
    { c with session := { c.session with unread := c.session.unread.tail } } = c.written t := by
  have again : c.session.unread.head?.toList ++ c.session.unread.tail = c.session.unread := by
    cases c.session.unread <;> rfl
  rw [written_snoc, written]
  simp only [Happening.Entry.read?, if_true, again]

/-- What is written last is no message. -/
theorem written_finish {last : List Outgoing} (plain : last.filterMap Outgoing.message? = []) :
    written t ⟨c.session.finish last, []⟩ = c.written t := by
  simp only [written, Session.finish, List.filterMap_append, plain, List.append_nil]

theorem written_sentTo (unread : e.read? c.session.number = none) :
    written (t ++ [e]) ⟨Switchboard.sentTo now c.waiting c.session, []⟩ =
      c.written t ++ c.waiting := by
  have messages : (c.waiting.map Outgoing.message).filterMap Outgoing.message? = c.waiting := by
    rw [List.filterMap_map]
    exact List.filterMap_some
  rw [written_snoc]
  simp only [unread, written, Switchboard.sentTo, Option.toList_none, List.nil_append,
    List.filterMap_append, messages, List.append_assoc]

/-- Where everything is written, nothing is left of what has waited. -/
theorem InOrder.settle (inOrder : InOrder capacity t c) (isOpen : c.session.isOpen = true)
    (unpublished : e.published? c.session.channel = none) (settles : e.settles = true)
    (channel : c'.session.channel = c.session.channel) (waiting : c'.waiting = [])
    (written : c'.written (t ++ [e]) = c.written t ++ c.waiting) :
    InOrder capacity (t ++ [e]) c' := by
  refine ⟨fun uncrowded => ⟨[], ?_, fun _ => ⟨waiting.symm, ?_⟩⟩, fun _ => waiting,
    fun _ => waiting⟩
  · rw [channel] at uncrowded ⊢
    obtain ⟨rest, row, rest_waits⟩ := inOrder.row (Happening.uncrowded_snoc.mp uncrowded).1
    rw [written, ← (rest_waits isOpen).1, row, Happening.messages_snoc, unpublished]
    rfl
  · rw [waiting, Happening.outstanding_snoc, settles]
    rfl

/-- A message that is published waits behind the others. -/
theorem InOrder.given {m : Message} (inOrder : InOrder capacity t c)
    (isOpen : c.session.isOpen = true) (settles : e.settles = false)
    (read : e.read? c.session.number = none)
    (published : e.published? c.session.channel = some m) :
    InOrder capacity (t ++ [e]) { c with waiting := enqueue capacity c.waiting m } := by
  have one_more : Happening.outstanding c.session.channel (t ++ [e]) =
      Happening.outstanding c.session.channel t + 1 := by
    rw [Happening.outstanding_snoc, settles, published]
    rfl
  refine ⟨fun uncrowded => ?_, fun nothing => ?_, fun closed => ?_⟩
  · obtain ⟨before, now⟩ := Happening.uncrowded_snoc.mp uncrowded
    obtain ⟨rest, row, rest_waits⟩ := inOrder.row before
    obtain ⟨rfl, length⟩ := rest_waits isOpen
    dsimp only at now ⊢
    rw [one_more] at now ⊢
    -- No more wait than there is room for, so that none is lost.
    have free : c.waiting.length < capacity := by omega
    rw [enqueue_of_room free]
    refine ⟨c.waiting ++ [m], ?_, fun _ => ⟨rfl, ?_⟩⟩
    · calc written (t ++ [e]) { c with waiting := c.waiting ++ [m] } ++ (c.waiting ++ [m])
          = c.written t ++ (c.waiting ++ [m]) := by rw [written_snoc, read]; rfl
        _ = Happening.messages c.session.channel t ++ [m] := by rw [← row, List.append_assoc]
        _ = Happening.messages c.session.channel (t ++ [e]) := by
          rw [Happening.messages_snoc, published]; rfl
    · rw [List.length_append, length, List.length_singleton]
  · dsimp only at nothing
    omega
  · exact absurd (isOpen.symm.trans closed) (by decide)

/-- What has waited when a session ends is never written. -/
theorem InOrder.finish {last : List Outgoing} (inOrder : InOrder capacity t c)
    (read : e.read? c.session.number = none)
    (unpublished : e.published? c.session.channel = none)
    (plain : last.filterMap Outgoing.message? = []) :
    InOrder capacity (t ++ [e]) ⟨c.session.finish last, []⟩ := by
  refine ⟨fun uncrowded => ?_, fun _ => rfl, fun _ => rfl⟩
  obtain ⟨rest, row, -⟩ := inOrder.row (Happening.uncrowded_snoc.mp uncrowded).1
  refine ⟨rest, ?_, nofun⟩
  calc written (t ++ [e]) ⟨c.session.finish last, []⟩ ++ rest
      = c.written t ++ rest := by rw [written_finish plain, written_snoc, read]; rfl
    _ = Happening.messages c.session.channel (t ++ [e]) := by
      rw [row, Happening.messages_snoc, unpublished, Option.toList_none, List.append_nil]

theorem Befalls.inOrder (befalls : Befalls capacity idle now c e c')
    (inOrder : InOrder capacity t c) (isOpen : c.session.isOpen = true) :
    InOrder capacity (t ++ [e]) c' := by
  cases befalls with
  | elsewhere light still =>
    have unpublished := Happening.Entry.published_of_still still
    refine inOrder.same isOpen unpublished light.settles rfl rfl isOpen ?_
    rw [written_snoc, light.read]
    rfl
  | heard light moves unpublished answer plain =>
    refine inOrder.same isOpen unpublished light.settles rfl rfl isOpen ?_
    rw [written_snoc, written, light.read]
    simp only [Option.toList_none, List.nil_append, List.filterMap_append, plain, List.append_nil]
  | read =>
    exact inOrder.same isOpen rfl rfl rfl rfl isOpen written_read
  | given light published => exact inOrder.given isOpen light.settles light.read published
  | ended ends read unpublished last plain => exact inOrder.finish read unpublished plain
  | settled seen =>
    rw [writeOut, if_pos isOpen]
    exact inOrder.settle isOpen rfl rfl rfl rfl (written_sentTo rfl)
  | passed span seen =>
    rw [writeOut, if_pos isOpen, dismiss]
    split
    · refine inOrder.settle isOpen rfl rfl rfl rfl ?_
      rw [written_finish (c := ⟨_, []⟩) rfl, written_sentTo rfl]
    · exact inOrder.settle isOpen rfl rfl rfl rfl (written_sentTo rfl)

/-! ## Whole histories -/

/-- What a circuit has come to since it began. -/
structure Follows (capacity : Nat) (idle : Span) (t : List Happening.Entry) (now : Instant)
    (c : Circuit) : Prop where
  timed : Timed idle t now c
  inOrder : InOrder capacity t c

theorem follows_new (peer : Nat) (positive : 0 < idle.nanos) :
    Follows capacity idle [] now ⟨.new number peer channel now, []⟩ where
  timed := by
    have alive : Happening.Alive idle number channel [] := by
      refine ⟨fun e he => absurd he List.not_mem_nil, fun earlier h => ?_⟩
      rw [List.prefix_nil.mp h]
      exact positive
    exact ⟨iff_of_true rfl alive, fun _ => Int.add_zero _⟩
  inOrder := ⟨fun _ => ⟨[], rfl, fun _ => ⟨rfl, rfl⟩⟩, fun _ => rfl, fun _ => rfl⟩

theorem undergo_seat (capacity : Nat) (idle : Span) (now : Instant) (c : Circuit)
    (e : Happening.Entry) :
    (c.undergo capacity idle now e).session.number = c.session.number ∧
      (c.undergo capacity idle now e).session.channel = c.session.channel := by
  obtain ⟨a, seen⟩ := e
  cases a with
  | connect => exact ⟨rfl, rfl⟩
  | errand | publish =>
    cases seen with
    | sent =>
      simp only [undergo, given]
      split <;> exact ⟨rfl, rfl⟩
    | _ => exact ⟨rfl, rfl⟩
  | frame | ping =>
    simp only [undergo, atOpen]
    split <;> exact ⟨rfl, rfl⟩
  | hangUp | cut =>
    simp only [undergo, dismiss]
    split <;> exact ⟨rfl, rfl⟩
  | read =>
    simp only [undergo, Circuit.read]
    split <;> exact ⟨rfl, rfl⟩
  | settle =>
    simp only [undergo, writeOut]
    split <;> exact ⟨rfl, rfl⟩
  | advance =>
    simp only [undergo, writeOut, dismiss]
    split <;> split <;> exact ⟨rfl, rfl⟩

/-- The wallet of a closed circuit reads what was written to it, and that is all. -/
theorem written_of_closed (capacity : Nat) (idle : Span) (now : Instant)
    (closed : c.session.isOpen = false)
    (reads : e.1 = .read c.session.number → e.2 = .found c.session.unread.head?) :
    (c.undergo capacity idle now e).session.isOpen = false ∧
      (c.undergo capacity idle now e).waiting = c.waiting ∧
      (c.undergo capacity idle now e).written (t ++ [e]) = c.written t := by
  rw [undergo_of_closed closed]
  obtain ⟨a, seen⟩ := e
  cases a with
  | read n =>
    simp only [Circuit.read]
    split
    · next same =>
      subst same
      obtain rfl : seen = _ := reads rfl
      exact ⟨closed, rfl, written_read⟩
    · next other =>
      have unread : Happening.Entry.read? c.session.number (.read n, seen) = none := by
        cases seen with
        | found o => exact if_neg (Ne.symm other)
        | _ => rfl
      refine ⟨closed, rfl, ?_⟩
      rw [written_snoc, unread]
      rfl
  | _ =>
    refine ⟨closed, rfl, ?_⟩
    rw [written_snoc]
    rfl

/-- A circuit follows what happens. -/
theorem Follows.turn (follows : Follows capacity idle t now c) (positive : 0 < idle.nanos)
    (room : 0 < capacity)
    (reads : e.1 = .read c.session.number → e.2 = .found c.session.unread.head?) :
    Follows capacity idle (t ++ [e]) (now.after e.1.span) (c.undergo capacity idle now e) := by
  cases isOpen : c.session.isOpen with
  | true =>
    have befalls : Befalls capacity idle now c e _ := befalls_undergo isOpen reads
    exact ⟨befalls.timed follows.timed isOpen positive room,
      befalls.inOrder follows.inOrder isOpen⟩
  | false =>
    obtain ⟨number, channel⟩ := undergo_seat capacity idle now c e
    obtain ⟨closed, waiting, written⟩ :=
      written_of_closed (t := t) capacity idle now isOpen reads
    have opened : (c.undergo capacity idle now e).session.isOpen ≠ true := by simp [closed]
    have nothing := waiting.trans (follows.inOrder.closed isOpen)
    refine ⟨⟨iff_of_false opened fun alive => ?_, fun h => absurd h opened⟩,
      ⟨fun uncrowded => ?_, fun _ => nothing, fun _ => nothing⟩⟩
    · rw [number, channel] at alive
      have wasOpen := follows.timed.isOpen.mpr (Happening.alive_snoc.mp alive).1
      rw [isOpen] at wasOpen
      cases wasOpen
    · -- What is published after the end is written no more, and comes to what was left then.
      rw [channel] at uncrowded ⊢
      obtain ⟨rest, row, -⟩ := follows.inOrder.row (Happening.uncrowded_snoc.mp uncrowded).1
      refine ⟨rest ++ (e.published? c.session.channel).toList, ?_, fun h => absurd h opened⟩
      rw [written, Happening.messages_snoc, ← row, List.append_assoc]

end Circuit

/-! ## Runs of a switchboard -/

namespace Switchboard

/-- A switchboard at the start, with its sweepers. -/
def swept (capacity limit : Nat) (limits : Limits) (sweepers : List Sweeper) : Switchboard :=
  let board := new (.new capacity limit) limits
  { board with bridge := { board.bridge with sweepers } }

theorem switchboardOf_eq (s : SocketSettings) : Relay.switchboardOf s =
    swept Hub.defaultCapacity s.maxMessageBytes.toNat (Relay.limitsOf s)
      [.new .start Relay.sweepInterval] := rfl

/-- Settings that make sense let a wallet be still for some time. -/
theorem idle_pos_of_check {s : Settings} (checked : s.check = .ok ()) :
    0 < (Relay.limitsOf s.socket).idle.nanos := by
  have timeout : s.socket.channelTimeout ≠ 0 := by
    intro zero
    simp only [Settings.check, zero, if_true] at checked
    split at checked
    · cases checked
    · split at checked <;> cases checked
  have seconds : s.socket.channelTimeout.toNat ≠ 0 := fun zero =>
    timeout (UInt64.toNat.inj zero)
  have limit : (Relay.limitsOf s.socket).idle.nanos =
      s.socket.channelTimeout.toNat * 1000000000 := rfl
  omega

theorem inStep_swept (capacity limit : Nat) (limits : Limits) (sweepers : List Sweeper) :
    (swept capacity limit limits sweepers).InStep where
  sound := Hub.sound_act (Hub.sound_new capacity limit) .subscribe
  counted := (Hub.kept_new capacity limit).counted.congr rfl rfl
  numbers := .nil
  peers := .nil
  seats := rfl

/-- A switchboard with what has happened: whoever has connected has a circuit, which follows what
has happened since. -/
structure Recorded (capacity : Nat) (idle : Span) (t : List Happening.Entry)
    (s : Switchboard) : Prop where
  inStep : s.InStep
  limit : s.limits.idle = idle
  buffer : s.bridge.hub.capacity = capacity
  wallets : s.wallets = t.filterMap (·.arrival?)
  follows : ∀ {i e number channel}, t[i]? = some e → e.arrival? = some (number, channel) →
    ∃ c, s.circuit? number = some c ∧ c.session.number = number ∧ c.session.channel = channel ∧
      c.Follows capacity idle (t.drop (i + 1)) s.bridge.now

variable {capacity : Nat} {idle : Span} {t : List Happening.Entry} {e : Happening.Entry}
  {s s' : Switchboard}

/-- The circuits go on to follow what happens, and a wallet that connects has a new one. -/
theorem Recorded.turn (recorded : Recorded capacity idle t s) (positive : 0 < idle.nanos)
    (turn : s.Turn e s') : Recorded capacity idle (t ++ [e]) s' where
  inStep := turn.inStep
  limit := (congrArg Limits.idle turn.limits).trans recorded.limit
  buffer := turn.capacity.trans recorded.buffer
  wallets := by
    rw [turn.wallets, recorded.wallets, List.filterMap_append]
    cases arrived : e.arrival? <;> simp [arrived]
  follows {i e' number channel} at_i arrived := by
    rcases Machine.getElem?_snoc.mp at_i with before | ⟨rfl, rfl⟩
    · obtain ⟨c, found, rfl, rfl, follows⟩ := recorded.follows before arrived
      have room : 0 < capacity := recorded.buffer ▸ recorded.inStep.sound.capacity
      have goes_on := follows.turn positive room fun same => by
        rw [turn.reads _ same, found, Option.bind_some]
      obtain ⟨number, channel⟩ := c.undergo_seat capacity idle s.bridge.now e
      obtain ⟨inside, -⟩ := List.getElem?_eq_some_iff.mp before
      have found' := turn.circuits _ c found
      rw [recorded.buffer, recorded.limit] at found'
      refine ⟨_, found', number, channel, ?_⟩
      rwa [List.drop_append_of_le_length inside, turn.now]
    · obtain ⟨peer, found⟩ := turn.arrives number channel arrived
      refine ⟨_, found, rfl, rfl, ?_⟩
      rw [List.drop_eq_nil_of_le (by simp)]
      exact Circuit.follows_new peer positive

/-- Everything that has happened at a switchboard is recorded. -/
theorem recorded (capacity limit : Nat) (limits : Limits) (sweepers : List Sweeper)
    (positive : 0 < limits.idle.nanos) (run : List Happening) :
    let board := swept capacity limit limits sweepers
    Recorded capacity.nextPowerOfTwo limits.idle (Machine.transcript happen board run)
      (Machine.after happen board run) := by
  have start : Recorded capacity.nextPowerOfTwo limits.idle []
      (swept capacity limit limits sweepers) := ⟨inStep_swept .., rfl, rfl, rfl, nofun⟩
  exact Machine.history happen start
    (fun _ _ a recorded => recorded.turn positive (recorded.inStep.turn a)) run

/-- What a wallet has from its circuit, after what has happened since it came. -/
structure Served (capacity : Nat) (idle : Span) (number : Nat) (channel : String)
    (t : List Happening.Entry) (c : Circuit) : Prop where
  /-- The session is open until the wallet ends it, or is lost, or has been still for as long as the
  limit. -/
  isOpen : c.session.isOpen = true ↔ Happening.Alive idle number channel t
  /-- While it is open, each message for the channel has been written once, in order, or waits. -/
  written : Happening.Uncrowded capacity channel t → c.session.isOpen = true →
    c.written t ++ c.waiting = Happening.messages channel t
  /-- Nothing else is ever written. -/
  only : Happening.Uncrowded capacity channel t → c.written t <+: Happening.messages channel t
  /-- When everything has settled, nothing waits. -/
  settled : ∀ e, t.getLast? = some e → e.settles = true → c.waiting = []

theorem served_of_follows {now : Instant} {c : Circuit} (follows : c.Follows capacity idle t now) :
    Served capacity idle c.session.number c.session.channel t c where
  isOpen := follows.timed.isOpen
  written uncrowded isOpen := by
    obtain ⟨rest, row, rest_waits⟩ := follows.inOrder.row uncrowded
    rw [← (rest_waits isOpen).1, row]
  only uncrowded := by
    obtain ⟨rest, row, -⟩ := follows.inOrder.row uncrowded
    exact ⟨rest, row⟩
  settled e last settles := by
    obtain ⟨earlier, rfl⟩ := List.getLast?_eq_some_iff.mp last
    refine follows.inOrder.drained ?_
    rw [Happening.outstanding_snoc, if_pos settles]

/-- At the end of every run, the directory counts the open sessions of each channel, and whoever has
connected is served by a circuit of its own: it is open exactly as long as its wallet is alive, and
until then it writes what is published to its channel. With settings that make sense, the limit is
positive (`idle_pos_of_check`). -/
theorem wallets_in_step (capacity limit : Nat) (limits : Limits) (sweepers : List Sweeper)
    (positive : 0 < limits.idle.nanos) (run : List Happening) :
    let board := swept capacity limit limits sweepers
    let t : List Happening.Entry := Machine.transcript happen board run
    let s := Machine.after happen board run
    s.wallets = t.filterMap (·.arrival?) ∧ (s.wallets.map (·.1)).Nodup ∧
      (∀ k, s.bridge.hub.directory.members k =
        (s.sessions.filter fun x => x.isOpen ∧ x.channel = k).length) ∧
      ∀ i a number channel, t[i]? = some (a, .connected number channel) →
        ∃ c, s.circuit? number = some c ∧ c.session.channel = channel ∧
          Served capacity.nextPowerOfTwo limits.idle number channel (t.drop (i + 1)) c := by
  intro board t s
  have recorded : Recorded capacity.nextPowerOfTwo limits.idle t s :=
    recorded capacity limit limits sweepers positive run
  have numbers : s.wallets.map (·.1) = s.sessions.map (·.number) := by
    rw [Switchboard.wallets, List.map_map]
    rfl
  refine ⟨recorded.wallets, numbers ▸ recorded.inStep.numbers.distinct, recorded.inStep.members,
    fun i a number channel at_i => ?_⟩
  obtain ⟨c, found, rfl, rfl, follows⟩ := recorded.follows at_i rfl
  exact ⟨c, found, rfl, served_of_follows follows⟩

/-- A wallet that reads a message and sends a frame, good or not, stays connected for longer than
the limit, and one that is still as long as the limit does not. -/
theorem wallets_in_step_kept_awake :
    let board := swept 4 1000 ⟨.ofSeconds 5, 1000, .ofSeconds 10⟩ []
    let m := Message.new "pay.request" "inv-1" .epoch
    let nine : Happening := .advance (.ofSeconds 9)
    let awake := [.connect "inv-1", .publish "inv-1" m, nine, .read 0, .frame 0 [] .epoch, nine]
    let still := [.connect "inv-1", .publish "inv-1" m, nine, .read 0, .advance (.ofSeconds 1)]
    (∃ c, (Machine.after happen board awake).circuit? 0 = some c ∧ c.session.isOpen = true ∧
      (c.written ((Machine.transcript happen board awake).drop 1)).map (·.route) =
        ["pay.request"]) ∧
    ∃ c, (Machine.after happen board still).circuit? 0 = some c ∧ c.session.isOpen = false := by
  intro board m nine awake still
  have positive : 0 < (Span.ofSeconds 10).nanos := by decide
  constructor
  · obtain ⟨-, -, -, served⟩ :=
      wallets_in_step 4 1000 ⟨.ofSeconds 5, 1000, .ofSeconds 10⟩ [] positive awake
    obtain ⟨c, found, -, served⟩ := served 0 (.connect "inv-1") 0 "inv-1" rfl
    have isOpen := served.isOpen.mpr (by decide +kernel)
    have row := served.written (by decide +kernel) isOpen
    rw [served.settled (nine, .nothing) rfl rfl, List.append_nil] at row
    refine ⟨c, found, isOpen, ?_⟩
    rw [row]
    decide +kernel
  · obtain ⟨-, -, -, served⟩ :=
      wallets_in_step 4 1000 ⟨.ofSeconds 5, 1000, .ofSeconds 10⟩ [] positive still
    obtain ⟨c, found, -, served⟩ := served 0 (.connect "inv-1") 0 "inv-1" rfl
    refine ⟨c, found, Bool.eq_false_iff.mpr (mt served.isOpen.mp ?_)⟩
    decide +kernel

end Switchboard

end PaymentRelay
