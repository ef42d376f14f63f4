import PaymentRelay.Proofs.Relay.InStep

/-
  Circuits.

  A circuit is a session with what waits for its peer. What is done to a switchboard in step leaves
  it in step and changes every circuit by itself (`Switchboard.Yields`): traffic concerns the
  session that it comes from, a message waits for the peers of its channel, settling writes what
  waits (`InStep.yields_settle`), and the clock ends the sessions that have been idle. The clock
  moves on only when there is nothing left to be written (`InStep.yields_advance`).
-/

namespace PaymentRelay

/-- A session with what waits for its peer. -/
structure Circuit where
  session : Session
  waiting : List Message

namespace Circuit

/-- Something is done to the session with a number if it is open. -/
def atOpen (number : Nat) (f : Session → Session) (c : Circuit) : Circuit :=
  if c.session.isOpen = true ∧ c.session.number = number then { c with session := f c.session }
  else c

/-- The session ends, if it is open and a condition holds of it. -/
def dismiss (ends : Session → Bool) (last : List Outgoing) (c : Circuit) : Circuit :=
  if c.session.isOpen && ends c.session then ⟨c.session.finish last, []⟩ else c

/-- A message waits, if the session is open and on its channel. -/
def given (capacity : Nat) (channel : String) (m : Message) (c : Circuit) : Circuit :=
  if c.session.isOpen = true ∧ c.session.channel = channel then
    { c with waiting := enqueue capacity c.waiting m }
  else c

/-- What waits is written to the wallet. -/
def writeOut (now : Instant) (c : Circuit) : Circuit :=
  if c.session.isOpen then ⟨Switchboard.sentTo now c.waiting c.session, []⟩ else c

/-- What was written, and what has ended, leaves nothing to write. -/
theorem writeOut_dismiss_writeOut (now now' : Instant) (ends : Session → Bool)
    (last : List Outgoing) (c : Circuit) :
    ((c.writeOut now).dismiss ends last).writeOut now' = (c.writeOut now).dismiss ends last := by
  obtain ⟨x, waiting⟩ := c
  cases isOpen : x.isOpen with
  | false => simp [writeOut, dismiss, isOpen]
  | true =>
    have stays : (Switchboard.sentTo now waiting x).isOpen = true := isOpen
    simp only [writeOut, dismiss, isOpen, if_true, stays, Bool.true_and]
    cases ends (Switchboard.sentTo now waiting x) with
    | true => rfl
    | false => simp [stays, Switchboard.sentTo_nil]

/-- The wallet of the session with a number reads. -/
def read (number : Nat) (c : Circuit) : Circuit :=
  if c.session.number = number then
    { c with session := { c.session with unread := c.session.unread.tail } }
  else c

end Circuit

/-! ## Lookups -/

namespace Switchboard

variable {s s' s'' : Switchboard} {number : Nat} {x : Session} {c : Circuit}
  {g g' : Circuit → Circuit}

/-- The circuit of the session with a number. -/
def circuit? (s : Switchboard) (number : Nat) : Option Circuit :=
  (s.session? number).map fun x => ⟨x, s.bridge.hub.waiting x.peer⟩

/-- The sessions that there have been, with their channels. -/
def wallets (s : Switchboard) : List (Nat × String) :=
  s.sessions.map fun x => (x.number, x.channel)

theorem circuit?_map {f : Session → Session} (sessions : s'.sessions = s.sessions.map f)
    (numbers : ∀ x, (f x).number = x.number)
    (each : ∀ x ∈ s.sessions,
      (⟨f x, s'.bridge.hub.waiting (f x).peer⟩ : Circuit) = g ⟨x, s.bridge.hub.waiting x.peer⟩)
    (number : Nat) : s'.circuit? number = (s.circuit? number).map g := by
  have same : (fun x : Session => decide (x.number = number)) ∘ f =
      fun x => decide (x.number = number) := by
    funext x
    rw [Function.comp_apply, numbers]
  rw [circuit?, circuit?, session?, session?, sessions, List.find?_map, same, Option.map_map,
    Option.map_map]
  exact Option.map_congr fun x found => each x (List.mem_of_find?_eq_some found)

/-- A switchboard in step comes to another one, and each of its circuits comes to what a function
makes of it. -/
structure Yields (s : Switchboard) (g : Circuit → Circuit) (s' : Switchboard) : Prop where
  inStep : s'.InStep
  limits : s'.limits = s.limits
  capacity : s'.bridge.hub.capacity = s.bridge.hub.capacity
  wallets : s'.wallets = s.wallets
  circuits : ∀ number, s'.circuit? number = (s.circuit? number).map g

theorem Yields.trans (first : s.Yields g s') (second : s'.Yields g' s'') :
    s.Yields (g' ∘ g) s'' where
  inStep := second.inStep
  limits := second.limits.trans first.limits
  capacity := second.capacity.trans first.capacity
  wallets := second.wallets.trans first.wallets
  circuits number := by rw [second.circuits, first.circuits, Option.map_map]

/-- Where the members stay, it is enough to look at one session after another. -/
theorem InStep.yields (inStep : s.InStep) (same : s.bridge.hub.SameMembers s'.bridge.hub)
    (limits : s'.limits = s.limits) (nextSession : s'.nextSession = s.nextSession)
    {f : Session → Session} (sessions : s'.sessions = s.sessions.map f)
    (moves : ∀ x : Session, x.Moves (f x))
    (each : ∀ x ∈ s.sessions,
      g ⟨x, s.bridge.hub.waiting x.peer⟩ = ⟨f x, s'.bridge.hub.waiting x.peer⟩) :
    s.Yields g s' where
  inStep := inStep.moves same sessions nextSession moves
  limits := limits
  capacity := same.capacity
  wallets := by
    rw [wallets, sessions, List.map_map]
    refine List.map_congr_left fun x _ => ?_
    rw [Function.comp_apply, (moves x).number, (moves x).channel]
  circuits := circuit?_map sessions (fun x => (moves x).number) fun x hx => by
    rw [each x hx, (moves x).peer]

/-! ## One thing after another -/

theorem InStep.yields_beside (inStep : s.InStep) (beside : s.Beside s') : s.Yields id s' := by
  obtain ⟨bridge, jobs, rfl, beside⟩ := beside
  exact inStep.yields beside.hub.members rfl rfl (List.map_id _).symm .refl
    fun x _ => congrArg (Circuit.mk x) (beside.hub.waiting x.peer).symm

theorem InStep.yields_later (inStep : s.InStep) (span : Span) : s.Yields id (s.later span) :=
  inStep.yields (.refl _) rfl rfl (List.map_id _).symm .refl fun _ _ => rfl

theorem InStep.yields_atOpen (inStep : s.InStep) (number : Nat) {f : Session → Session}
    (moves : ∀ x : Session, x.Moves (f x)) :
    s.Yields (Circuit.atOpen number f) (s.atOpen number f) := by
  obtain ⟨bridge, limits, nextSession⟩ := s.atOpen_rest number f
  refine inStep.yields (bridge ▸ .refl _) limits nextSession (inStep.sessions_atOpen moves)
    (fun x => ?_) fun x _ => ?_
  · split
    · exact moves x
    · exact .refl x
  · rw [bridge, Circuit.atOpen]
    dsimp only
    split <;> rfl

/-- What waits for the peers of open sessions is written. -/
theorem InStep.yields_writeAll (inStep : s.InStep) :
    s.Yields (Circuit.writeOut s.bridge.now) s.writeAll := by
  rw [inStep.writeAll_eq]
  refine inStep.yields (s.bridge.hub.requeued_drain _).members rfl rfl rfl (fun x => ?_)
    fun x hx => ?_
  · unfold caughtUp
    split
    · exact ⟨rfl, rfl, rfl, rfl⟩
    · exact .refl x
  · dsimp only
    rw [withHub_hub, Hub.waiting_drain, Circuit.writeOut, caughtUp]
    simp only [inStep.mem_peers _ hx, decide_eq_true_eq]
    by_cases isOpen : x.isOpen = true
    · by_cases nothing : s.bridge.hub.waiting x.peer = [] <;> simp [isOpen, nothing]
    · simp [isOpen]

/-- A message waits for the peers of its channel. -/
theorem InStep.yields_delivered (inStep : s.InStep) (channel : String) (m : Message)
    {bridge : Bridge} {jobs : List Job} (hub : bridge.hub = s.bridge.hub.delivered channel m) :
    s.Yields (Circuit.given s.bridge.hub.capacity channel m) { s with bridge, jobs } := by
  refine inStep.yields (hub ▸ (s.bridge.hub.requeued_delivered channel m).members) rfl rfl
    (List.map_id _).symm .refl fun x hx => ?_
  dsimp only
  rw [hub, Circuit.given]
  cases isOpen : x.isOpen with
  | true =>
    obtain ⟨p, found, same⟩ := inStep.peer?_of_isOpen hx isOpen
    rw [Hub.waiting_delivered found, same]
    by_cases mine : x.channel = channel <;> simp [mine]
  | false =>
    have missing := inStep.peer?_of_closed hx isOpen
    have missing' : (s.bridge.hub.delivered channel m).peer? x.peer = none := by
      rw [Hub.peer?_delivered, missing]
      rfl
    rw [Hub.waiting_of_missing missing, Hub.waiting_of_missing missing']
    simp

theorem InStep.yields_dismiss (inStep : s.InStep) (ends : Session → Bool)
    (last : List Outgoing) :
    s.Yields (Circuit.dismiss ends last) (s.dismiss ends last) where
  inStep := inStep.dismiss ends last
  limits := rfl
  capacity := (Hub.fixed_without _ _).1
  wallets := by
    rw [wallets, Switchboard.dismiss, List.map_map]
    refine List.map_congr_left fun x _ => ?_
    rw [Function.comp_apply]
    split <;> rfl
  circuits := by
    refine circuit?_map rfl (fun x => by split <;> rfl) fun x hx => ?_
    rw [Switchboard.dismiss, Circuit.dismiss]
    dsimp only
    have peer : (if x.isOpen && ends x then x.finish last else x).peer = x.peer := by
      split <;> rfl
    rw [withHub_hub, peer, Hub.waiting_without]
    simp only [inStep.mem_peers _ hx]
    split <;> rfl

/-- A session without what was written first. -/
def shortened (number : Nat) (x : Session) : Session :=
  if x.number = number then { x with unread := x.unread.tail } else x

theorem moves_shortened (number : Nat) (x : Session) : x.Moves (shortened number x) := by
  unfold shortened
  split
  · exact ⟨rfl, rfl, rfl, rfl⟩
  · exact .refl x

theorem InStep.sessions_read (inStep : s.InStep) (number : Nat) :
    (s.read number).1 = { s with sessions := s.sessions.map (shortened number) } := by
  have same (nothing : ∀ x ∈ s.sessions, x.number = number → x.unread = []) :
      s.sessions.map (shortened number) = s.sessions := by
    refine (List.map_congr_left fun x hx => ?_).trans (List.map_id _)
    rw [shortened]
    split
    · next own =>
      have empty := nothing x hx own
      obtain ⟨_, _, _, _, _, unread⟩ := x
      cases empty
      rfl
    · rfl
  cases found : s.session? number with
  | none =>
    have missing := List.find?_eq_none.mp found
    simp only [read, found, same fun x hx own => absurd (decide_eq_true own) (missing x hx)]
  | some x =>
    have hx := List.mem_of_find?_eq_some found
    have own : x.number = number := by simpa using List.find?_some found
    have only (y) (hy : y ∈ s.sessions) (same : y.number = number) : y = x :=
      List.inj_on_of_nodup_map inStep.numbers.distinct hy hx (same.trans own.symm)
    cases unread : x.unread with
    | nil =>
      simp only [read, found, unread, same fun y hy own => (only y hy own).symm ▸ unread]
    | cons o rest =>
      simp only [read, found, unread, update, own]
      congr 1
      refine List.map_congr_left fun y hy => ?_
      rw [shortened]
      split
      · next same => rw [only y hy same, unread, List.tail_cons, own]
      · rfl

/-- The wallet of a session reads what was written first. -/
theorem InStep.yields_read (inStep : s.InStep) (number : Nat) :
    s.Yields (Circuit.read number) (s.read number).1 := by
  rw [inStep.sessions_read]
  refine inStep.yields (.refl _) rfl rfl rfl (moves_shortened number) fun x _ => ?_
  rw [Circuit.read, shortened]
  dsimp only
  split <;> rfl

theorem snd_read (s : Switchboard) (number : Nat) :
    (s.read number).2 = (s.circuit? number).bind fun c => c.session.unread.head? := by
  cases found : s.session? number with
  | none => simp only [read, circuit?, found, Option.map_none, Option.bind_none]
  | some x =>
    cases unread : x.unread <;>
      simp only [read, circuit?, found, unread, Option.map_some, Option.bind_some,
        List.head?_nil, List.head?_cons]

/-- A frame is traffic of its session, and its reply concerns the streams alone. -/
theorem beside_frame (s : Switchboard) (number : Nat) (bytes : List UInt8) (now : Timestamp) :
    (s.atOpen number (·.touch s.bridge.now)).Beside (s.frame number bytes now) := by
  unfold atOpen frame
  cases s.open? number with
  | none => exact .refl s
  | some x =>
    dsimp only
    split
    · exact beside_reply _ x _
    · exact .refl _

theorem InStep.now_writeAll (inStep : s.InStep) : s.writeAll.bridge.now = s.bridge.now := by
  rw [inStep.writeAll_eq]
  rfl

theorem InStep.yields_settle (inStep : s.InStep) :
    s.Yields (Circuit.writeOut s.bridge.now) s.settle.1 :=
  have written := inStep.yields_writeAll
  written.trans (written.inStep.yields_beside s.beside_settle)

theorem InStep.now_settle (inStep : s.InStep) : s.settle.1.bridge.now = s.bridge.now :=
  s.beside_settle.now.trans inStep.now_writeAll

/-- When everything has settled, the clock moves on, and the sessions that have been idle end. -/
theorem InStep.yields_advance (inStep : s.InStep) (span : Span) :
    s.Yields (fun c => (c.writeOut s.bridge.now).dismiss
        (fun x => x.lastTraffic.after s.limits.idle ≤ s.bridge.now.after span) [.close])
      (s.settle.1.advance span).1 ∧
      (s.settle.1.advance span).1.bridge.now = s.bridge.now.after span := by
  obtain ⟨s₁, s₂, first, second, third⟩ := s.settle.1.beside_advance span
  have settled := inStep.yields_settle
  have later := settled.trans (settled.inStep.yields_later span)
  have calls := later.trans (later.inStep.yields_beside first)
  have now : s₁.bridge.now = s.bridge.now.after span :=
    first.now.trans (congrArg (·.after span) inStep.now_settle)
  have idle := calls.inStep.yields_dismiss
    (fun x => decide (x.lastTraffic.after s₁.limits.idle ≤ s₁.bridge.now)) [.close]
  rw [← calls.inStep.finishIdle_eq, calls.limits, now] at idle
  have ended := calls.trans idle
  have answered := ended.trans (ended.inStep.yields_beside second)
  have written := answered.trans answered.inStep.yields_writeAll
  have all := written.trans (written.inStep.yields_beside third)
  refine ⟨?_, ?_⟩
  · -- The sessions that are left have been written everything before the clock moved on.
    convert all using 1
    funext c
    exact (Circuit.writeOut_dismiss_writeOut _ _ _ _ c).symm
  · rw [third.now, answered.inStep.now_writeAll, second.now, calls.inStep.finishIdle_eq]
    exact now

end Switchboard

end PaymentRelay
