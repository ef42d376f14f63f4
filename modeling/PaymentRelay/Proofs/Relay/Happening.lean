import PaymentRelay.Proofs.Machine
import PaymentRelay.Proofs.Relay.Circuit

/-
  What happens at a switchboard.

  Wallets connect, send frames and pings, read, hang up and get lost; messages are published, by
  errands of clients or by anybody else; everything settles, and the clock moves on. Any of these
  may happen at any moment, but for the clock: it moves on when everything has settled. Each of them
  keeps sessions and members in step and changes every circuit by itself (`InStep.turn`,
  `Circuit.undergo`), and a wallet that connects has a circuit of its own.
-/

namespace PaymentRelay

/-- Something that happens at a switchboard. -/
inductive Happening where
  /-- A wallet connects. -/
  | connect (channel : String)
  /-- An errand of a client, with what is made afresh for it. -/
  | errand (e : Errand) (stamp : Stamp) (head : Bool)
  /-- Somebody else publishes a message. -/
  | publish (channel : String) (m : Message)
  /-- A frame of a wallet, and the time it comes in. -/
  | frame (number : Nat) (bytes : List UInt8) (now : Timestamp)
  | ping (number : Nat) (content : List UInt8)
  | hangUp (number : Nat)
  /-- The connection of a session is lost. -/
  | cut (number : Nat)
  /-- The wallet of a session reads. -/
  | read (number : Nat)
  | settle
  | advance (span : Span)

namespace Happening

/-- What can be seen of it. -/
inductive Seen where
  | nothing
  /-- The wallet is connected to a channel, as the session with this number. -/
  | connected (number : Nat) (channel : String)
  /-- The message was published to the channel. -/
  | sent (channel : String) (m : Message)
  /-- What the wallet finds, if anything. -/
  | found (o : Option Outgoing)

/-- Something that happened, with what was seen of it. -/
abbrev Entry := Happening × Seen

/-- How far the clock moves on. -/
def span : Happening → Span
  | .advance span => span
  | _ => ⟨0⟩

/-- The wallet that has connected, with its channel. -/
def Entry.arrival? : Entry → Option (Nat × String)
  | (_, .connected number channel) => some (number, channel)
  | _ => none

end Happening

namespace Switchboard

/-- Something happens at a switchboard. -/
def happen : Machine Switchboard Happening Happening.Seen := fun s a =>
  match a with
  | .connect channel => ((s.connect channel).1, .connected (s.connect channel).2 channel)
  | .errand e stamp head =>
    let s' := (s.carryOut e stamp head).1
    let m := (Socket.dispatch e stamp).message
    (s', if s'.bridge.hub.published = s.bridge.hub.published then .nothing else .sent m.channel m)
  | .publish channel m =>
    match s.bridge.hub.publish channel m with
    | (hub, .ok _) => (s.withHub hub, .sent channel m)
    | (hub, .error _) => (s.withHub hub, .nothing)
  | .frame number bytes now => (s.frame number bytes now, .nothing)
  | .ping number content => (s.ping number content, .nothing)
  | .hangUp number => (s.hangUp number, .nothing)
  | .cut number => (s.cut number, .nothing)
  | .read number => ((s.read number).1, .found (s.read number).2)
  | .settle => (s.settle.1, .nothing)
  | .advance span => ((s.settle.1.advance span).1, .nothing)

end Switchboard

/-- What becomes of a circuit at some moment. -/
def Circuit.undergo (capacity : Nat) (idle : Span) (now : Instant) (c : Circuit) :
    Happening.Entry → Circuit
  | (.errand .., .sent channel m) | (.publish .., .sent channel m) => c.given capacity channel m
  | (.frame number _ _, _) => c.atOpen number (·.touch now)
  | (.ping number content, _) => c.atOpen number (·.put (.pong content) now)
  | (.hangUp number, _) => c.dismiss (fun x => x.number = number) [.close]
  | (.cut number, _) => c.dismiss (fun x => x.number = number) []
  | (.read number, _) => c.read number
  | (.settle, _) => c.writeOut now
  | (.advance span, _) =>
    (c.writeOut now).dismiss (fun x => x.lastTraffic.after idle ≤ now.after span) [.close]
  | _ => c

namespace Switchboard

variable {s s' : Switchboard}

/-- What a turn does to a switchboard in step. -/
structure Turn (s : Switchboard) (e : Happening.Entry) (s' : Switchboard) : Prop where
  inStep : s'.InStep
  limits : s'.limits = s.limits
  capacity : s'.bridge.hub.capacity = s.bridge.hub.capacity
  now : s'.bridge.now = s.bridge.now.after e.1.span
  wallets : s'.wallets = s.wallets ++ e.arrival?.toList
  circuits : ∀ number c, s.circuit? number = some c → s'.circuit? number =
    some (c.undergo s.bridge.hub.capacity s.limits.idle s.bridge.now e)
  /-- A wallet that connects begins without traffic. -/
  arrives : ∀ number channel, e.arrival? = some (number, channel) → ∃ peer,
    s'.circuit? number = some ⟨.new number peer channel s'.bridge.now, []⟩
  /-- A wallet reads what was written first. -/
  reads : ∀ number, e.1 = .read number →
    e.2 = .found ((s.circuit? number).bind fun c => c.session.unread.head?)

theorem after_zero (t : Instant) : t.after ⟨0⟩ = t := by
  obtain ⟨nanos⟩ := t
  simp [Instant.after]

/-- Where nobody comes, nobody reads and no time passes, a turn is what it makes of the circuits. -/
theorem Yields.turn {g : Circuit → Circuit} {e : Happening.Entry} (yields : s.Yields g s')
    (now : s'.bridge.now = s.bridge.now.after e.1.span)
    (undergo : ∀ c, g c = c.undergo s.bridge.hub.capacity s.limits.idle s.bridge.now e)
    (nobody : e.arrival? = none)
    (reads : ∀ number, e.1 = .read number →
      e.2 = .found ((s.circuit? number).bind fun c => c.session.unread.head?)) : s.Turn e s' where
  inStep := yields.inStep
  limits := yields.limits
  capacity := yields.capacity
  now := now
  wallets := by
    rw [yields.wallets, nobody]
    exact (List.append_nil _).symm
  circuits number c found := by
    rw [yields.circuits, found, Option.map_some, undergo]
  arrives number channel arrived := by
    rw [nobody] at arrived
    cases arrived
  reads := reads

theorem InStep.circuit?_connect (inStep : s.InStep) (channel : String) (number : Nat) :
    (s.connect channel).1.circuit? number = (s.circuit? number).or
      (if number = s.nextSession then
        some ⟨.new number s.bridge.hub.nextId channel s.bridge.now, []⟩
      else none) := by
  have waiting (id : Nat) : (s.connect channel).1.bridge.hub.waiting id =
      s.bridge.hub.waiting id := Hub.waiting_join channel
  have unused : s.bridge.hub.waiting s.bridge.hub.nextId = [] :=
    Hub.waiting_of_missing (inStep.sound.peer?_of_le (Nat.le_refl _))
  have sessions : (s.connect channel).1.sessions =
      s.sessions ++ [.new s.nextSession s.bridge.hub.nextId channel s.bridge.now] := rfl
  rw [circuit?, circuit?, Switchboard.session?, Switchboard.session?, sessions, List.find?_append,
    List.find?_singleton]
  simp only [waiting]
  cases s.sessions.find? fun x => x.number = number with
  | some x => rfl
  | none =>
    by_cases new : number = s.nextSession
    · simp [new, Session.new, unused]
    · simp [new, Session.new, Ne.symm new]

/-- A wallet that connects. -/
theorem InStep.turn_connect (inStep : s.InStep) (channel : String) :
    s.Turn (.connect channel, .connected s.nextSession channel) (s.connect channel).1 where
  inStep := inStep.connect channel
  limits := rfl
  capacity := rfl
  now := (after_zero _).symm
  wallets := by
    simp [Switchboard.wallets, Switchboard.connect, Session.new, Happening.Entry.arrival?]
  circuits number c found := by
    rw [inStep.circuit?_connect, found]
    rfl
  arrives number channel' same := by
    cases same
    have missing : s.circuit? s.nextSession = none := by
      rw [circuit?, Switchboard.session?, List.find?_eq_none.mpr fun x hx => ?_, Option.map_none]
      have below := inStep.numbers.below _ (List.mem_map_of_mem hx)
      simpa using Nat.ne_of_lt below
    refine ⟨s.bridge.hub.nextId, ?_⟩
    rw [inStep.circuit?_connect, missing, Option.none_or, if_pos rfl]
    rfl
  reads number same := by cases same

/-- An errand publishes its message, or nobody notices anything. -/
theorem InStep.turn_errand (inStep : s.InStep) (e : Errand) (stamp : Stamp) (head : Bool) :
    s.Turn (.errand e stamp head, (s.happen (.errand e stamp head)).2)
      (s.carryOut e stamp head).1 := by
  obtain ⟨bridge, jobs, eq, publishes⟩ := s.carryOut_cases e stamp head
  have now : bridge.now = s.bridge.now.after ⟨0⟩ := publishes.now.trans (after_zero _).symm
  simp only [happen, eq]
  rcases publishes.hub with same | delivered
  · have quiet : s.Beside { s with bridge, jobs } :=
      ⟨bridge, jobs, rfl, .of_hub_eq same publishes.now⟩
    rw [if_pos (by rw [same])]
    exact (inStep.yields_beside quiet).turn now (fun _ => rfl) rfl nofun
  · have one_more : bridge.hub.published ≠ s.bridge.hub.published := by
      rw [delivered]
      exact Nat.succ_ne_self _
    rw [if_neg one_more]
    exact (inStep.yields_delivered _ _ delivered).turn now (fun _ => rfl) rfl nofun

theorem InStep.turn_publish (inStep : s.InStep) (channel : String) (m : Message) :
    s.Turn (.publish channel m, (s.happen (.publish channel m)).2)
      (s.happen (.publish channel m)).1 := by
  rcases s.bridge.hub.publish_eq_or channel m with ⟨e, refused⟩ | ⟨n, taken⟩
  · simp only [happen, refused]
    exact (inStep.yields_beside (beside_withHub (.refl _))).turn (after_zero _).symm
      (fun _ => rfl) rfl nofun
  · simp only [happen, taken]
    have yields : s.Yields _ (s.withHub (s.bridge.hub.delivered channel m)) :=
      inStep.yields_delivered channel m rfl
    exact yields.turn (after_zero _).symm (fun _ => rfl) rfl nofun

/-- Whatever happens keeps sessions and members in step, and does to the circuits what it does. -/
theorem InStep.turn (inStep : s.InStep) (a : Happening) :
    s.Turn (a, (s.happen a).2) (s.happen a).1 := by
  have zero := (after_zero s.bridge.now).symm
  cases a with
  | connect channel => exact inStep.turn_connect channel
  | errand e stamp head => exact inStep.turn_errand e stamp head
  | publish channel m => exact inStep.turn_publish channel m
  | frame number bytes now =>
    have touched := inStep.yields_atOpen number (f := (·.touch s.bridge.now))
      fun x => ⟨rfl, rfl, rfl, rfl⟩
    have beside := s.beside_frame number bytes now
    refine (touched.trans (touched.inStep.yields_beside beside)).turn ?_ (fun _ => rfl) rfl nofun
    exact (beside.now.trans (congrArg Bridge.now (s.atOpen_rest _ _).1)).trans zero
  | ping number content =>
    refine (inStep.yields_atOpen number (f := (·.put (.pong content) s.bridge.now))
      fun x => ⟨rfl, rfl, rfl, rfl⟩).turn ?_ (fun _ => rfl) rfl nofun
    exact (congrArg Bridge.now (s.atOpen_rest _ _).1).trans zero
  | hangUp number =>
    have ended := inStep.yields_dismiss (fun x => x.number = number) [.close]
    simp only [happen, inStep.hangUp_eq]
    exact ended.turn zero (fun _ => rfl) rfl nofun
  | cut number =>
    have ended := inStep.yields_dismiss (fun x => x.number = number) []
    simp only [happen, inStep.cut_eq]
    exact ended.turn zero (fun _ => rfl) rfl nofun
  | read number =>
    refine (inStep.yields_read number).turn ?_ (fun _ => rfl) rfl fun n same => ?_
    · rw [inStep.sessions_read]
      exact zero
    · cases same
      exact congrArg _ (s.snd_read number)
  | settle =>
    exact inStep.yields_settle.turn (inStep.now_settle.trans zero) (fun _ => rfl) rfl nofun
  | advance span =>
    obtain ⟨yields, now⟩ := inStep.yields_advance span
    simp only [happen]
    exact yields.turn now (fun _ => rfl) rfl nofun

end Switchboard

end PaymentRelay
