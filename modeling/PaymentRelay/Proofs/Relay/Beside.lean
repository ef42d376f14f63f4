import PaymentRelay.Proofs.Bridge.Refusal
import PaymentRelay.Proofs.Relay.Board

/-
  What calls leave alone.

  To wait for replies, to sweep and to end calls is a matter of the bridge. Of the hub it changes
  what waits in the streams (`Hub.Restreamed`), and nothing that a wallet could notice
  (`Switchboard.Beside`): neither the sessions, nor their peers, nor the clock. So what settling
  does to the wallets is what it writes to them (`beside_settle`), and what the clock does is to end
  the idle sessions before that (`beside_advance`). An errand is at most a message for its channel
  (`carryOut_cases`).
-/

namespace PaymentRelay

/-! ## The hub -/

namespace Hub

variable {h h' h'' : Hub}

/-- A hub that differs in what waits in its streams alone. -/
def Restreamed (h h' : Hub) : Prop :=
  ∃ streams, h' = { h with streams } ∧ streams.map (·.id) = h.streams.map (·.id)

theorem Restreamed.refl (h : Hub) : h.Restreamed h := ⟨h.streams, rfl, rfl⟩

theorem Restreamed.trans (first : h.Restreamed h') (second : h'.Restreamed h'') :
    h.Restreamed h'' := by
  obtain ⟨_, rfl, ids⟩ := first
  obtain ⟨streams, rfl, ids'⟩ := second
  exact ⟨streams, rfl, ids'.trans ids⟩

theorem restreamed_map {f : Stream → Stream} (hf : ∀ s, (f s).id = s.id) :
    h.Restreamed { h with streams := h.streams.map f } := by
  refine ⟨_, rfl, ?_⟩
  rw [List.map_map]
  exact List.map_congr_left fun s _ => hf s

theorem restreamed_spread (h : Hub) (m : Message) : h.Restreamed (h.spread m) :=
  restreamed_map fun _ => rfl

theorem restreamed_receiveReply (h : Hub) (s : Stream) : h.Restreamed (h.receiveReply s).1 := by
  unfold receiveReply
  split
  · exact .refl h
  · exact restreamed_map fun t => by split <;> rfl

theorem restreamed_reply (h : Hub) (p : Peer) (m : Message) : h.Restreamed (h.reply p m).1 := by
  rcases h.reply_cases p m with ⟨-, same⟩ | ⟨-, sent⟩
  · rw [same]
    exact .refl h
  · rw [sent]
    exact h.restreamed_spread _

/-- A message is refused, or delivered to its channel. -/
theorem publish_eq_or (h : Hub) (channel : String) (m : Message) :
    (∃ e, h.publish channel m = (h, .error e)) ∨
      ∃ n, h.publish channel m = (h.delivered channel m, .ok n) :=
  (h.publish_cases channel m).imp
    (fun ⟨⟨e, refused⟩, same⟩ => ⟨e, Prod.ext same refused⟩)
    fun ⟨⟨n, taken⟩, delivered⟩ => ⟨n, Prod.ext delivered taken⟩

end Hub

/-! ## The bridge -/

namespace Bridge

variable {b b' b'' : Bridge}

/-- A bridge at the same moment whose hub differs in its streams alone. -/
structure Beside (b b' : Bridge) : Prop where
  hub : b.hub.Restreamed b'.hub
  now : b'.now = b.now

theorem Beside.refl (b : Bridge) : b.Beside b := ⟨.refl _, rfl⟩

theorem Beside.trans (first : b.Beside b') (second : b'.Beside b'') : b.Beside b'' :=
  ⟨first.hub.trans second.hub, second.now.trans first.now⟩

theorem Beside.of_hub_eq (hub : b'.hub = b.hub) (now : b'.now = b.now) : b.Beside b' :=
  ⟨hub ▸ .refl _, now⟩

theorem beside_listen (b : Bridge) : b.Beside b.listen := by
  unfold listen
  split
  · exact .refl b
  · next s _ =>
    have read := b.hub.restreamed_receiveReply s
    split
    · next answer =>
      rw [answer] at read
      exact ⟨read, rfl⟩
    · exact .refl b

theorem beside_listenAll (b : Bridge) : b.Beside b.listenAll := by
  have all (ms : List Message) (b : Bridge) : b.Beside (ms.foldl (fun b _ => b.listen) b) := by
    induction ms generalizing b with
    | nil => exact .refl b
    | cons m rest ih => exact (beside_listen b).trans (ih b.listen)
  unfold listenAll
  split
  · exact .refl b
  · exact all _ b

theorem beside_sweepDue (b : Bridge) : b.Beside b.sweepDue := by
  have all (sweepers : List Sweeper) (b : Bridge) : b.Beside (sweepers.foldl
      (fun b s => if s.isDue b.now then (b.sweep sweepGrace).1 else b) b) := by
    induction sweepers generalizing b with
    | nil => exact .refl b
    | cons s rest ih =>
      have first : b.Beside (if s.isDue b.now then (b.sweep sweepGrace).1 else b) := by
        split <;> exact .of_hub_eq rfl rfl
      exact first.trans (ih _)
  have sweeping : b.Beside
      { b with sweepers := b.sweepers.map fun s => if s.isDue b.now then s.advance b.now else s } :=
    .of_hub_eq rfl rfl
  exact sweeping.trans (all _ _)

theorem beside_poll (b : Bridge) (number : Nat) (branch : Branch) :
    b.Beside (b.poll number branch).1 := by
  unfold poll
  split
  · exact .refl b
  · split <;> exact .of_hub_eq rfl rfl

theorem beside_pollFully (b : Bridge) (number : Nat) : b.Beside (b.pollFully number).1 := by
  unfold pollFully
  have first := b.beside_poll number .reply
  split
  · next looked =>
    rw [looked] at first
    exact first
  · next b₁ looked =>
    rw [looked] at first
    have second := first.trans (b₁.beside_poll number .deadline)
    split
    · next looked =>
      rw [looked] at second
      exact second
    · next b₂ looked =>
      rw [looked] at second
      have third := second.trans (b₂.beside_poll number .cancellation)
      split
      · next looked =>
        rw [looked] at third
        exact third
      · next b₃ looked =>
        rw [looked] at third
        exact third.trans (b₃.beside_poll number .reply)

theorem beside_pollEach (b : Bridge) (numbers : List Nat) :
    b.Beside (b.pollEach numbers).1 := by
  induction numbers generalizing b with
  | nil => exact .refl b
  | cons n rest ih =>
    have bridge : (b.pollEach (n :: rest)).1 = ((b.pollFully n).1.pollEach rest).1 := by
      simp only [pollEach]
      split <;> rfl
    rw [bridge]
    exact (b.beside_pollFully n).trans (ih _)

theorem beside_settle (b : Bridge) : b.Beside b.settle.1 :=
  (b.beside_listenAll.trans (beside_sweepDue _)).trans (beside_pollEach _ _)

theorem beside_advance (b : Bridge) (span : Span) :
    Beside { b with now := b.now.after span } (b.advance span).1 :=
  (beside_pollEach _ _).trans (beside_settle _)

/-- A bridge at the same moment, after a message was delivered to its channel, or was refused. -/
structure Publishes (b : Bridge) (m : Message) (b' : Bridge) : Prop where
  hub : b'.hub = b.hub ∨ b'.hub = b.hub.delivered m.channel m
  now : b'.now = b.now

theorem publishes_send (b : Bridge) (m : Message) : b.Publishes m (b.send m.channel m).1 := by
  unfold send
  rcases b.hub.publish_eq_or m.channel m with ⟨e, refused⟩ | ⟨n, taken⟩
  · rw [refused]
    exact ⟨.inl rfl, rfl⟩
  · rw [taken]
    exact ⟨.inr rfl, rfl⟩

theorem publishes_start (b : Bridge) (d : Dial) (fresh : String) {m : Message}
    (channel : d.channel = m.channel) (filled : d.filled fresh = m) :
    b.Publishes m (b.start d fresh).1 := by
  rw [start_eq, channel, filled]
  split
  · exact ⟨.inl rfl, rfl⟩
  · split
    · exact ⟨.inl rfl, rfl⟩
    · rcases b.hub.publish_eq_or m.channel m with ⟨e, refused⟩ | ⟨n, taken⟩
      · rw [refused]
        exact ⟨.inl rfl, rfl⟩
      · rw [taken]
        exact ⟨.inr rfl, rfl⟩

end Bridge

/-! ## The switchboard -/

/-- The message of an errand. -/
def Dispatch.message : Dispatch → Message
  | .call _ m => m
  | .notice m => m

namespace Switchboard

variable {s s' s'' : Switchboard}

/-- A switchboard that differs in its calls and in what waits in the streams of its hub alone. -/
def Beside (s s' : Switchboard) : Prop :=
  ∃ bridge jobs, s' = { s with bridge, jobs } ∧ s.bridge.Beside bridge

theorem Beside.refl (s : Switchboard) : s.Beside s := ⟨s.bridge, s.jobs, rfl, .refl _⟩

theorem Beside.trans (first : s.Beside s') (second : s'.Beside s'') : s.Beside s'' := by
  obtain ⟨_, _, rfl, beside⟩ := first
  obtain ⟨bridge, jobs, rfl, beside'⟩ := second
  exact ⟨bridge, jobs, rfl, beside.trans beside'⟩

theorem Beside.now (beside : s.Beside s') : s'.bridge.now = s.bridge.now := by
  obtain ⟨_, _, rfl, beside⟩ := beside
  exact beside.now

theorem beside_withHub {hub : Hub} (restreamed : s.bridge.hub.Restreamed hub) :
    s.Beside (s.withHub hub) :=
  ⟨{ s.bridge with hub }, s.jobs, rfl, restreamed, rfl⟩

theorem beside_reply (s : Switchboard) (x : Session) (m : Message) : s.Beside (s.reply x m) := by
  unfold reply
  split
  · exact beside_withHub (s.bridge.hub.restreamed_reply _ m)
  · exact .refl s

theorem beside_respond (s : Switchboard) (outcomes : List (Nat × Outcome)) :
    s.Beside (s.respond outcomes).1 := by
  induction outcomes generalizing s with
  | nil => exact .refl s
  | cons o rest ih =>
    have board : (s.respond (o :: rest)).1 =
        (respond { s with jobs := s.jobs.filter fun j => j.number ≠ o.1 } rest).1 := by
      simp only [respond]
      split <;> rfl
    rw [board]
    exact Beside.trans ⟨s.bridge, _, rfl, .refl _⟩ (ih _)

/-- Of what settles, the wallets only notice what is written to them. -/
theorem beside_settle (s : Switchboard) : s.writeAll.Beside s.settle.1 :=
  Beside.trans ⟨_, s.writeAll.jobs, rfl, s.writeAll.bridge.beside_settle⟩ (beside_respond _ _)

/-- The switchboard at a later moment. -/
def later (s : Switchboard) (span : Span) : Switchboard :=
  { s with bridge := { s.bridge with now := s.bridge.now.after span } }

/-- When the clock moves on, idle sessions are ended, and then everything settles. -/
theorem beside_advance (s : Switchboard) (span : Span) :
    ∃ s₁ s₂, (s.later span).Beside s₁ ∧ s₁.finishIdle.Beside s₂ ∧
      s₂.writeAll.Beside (s.advance span).1 :=
  ⟨{ s with bridge := (s.bridge.advance span).1 }, _,
    ⟨_, s.jobs, rfl, s.bridge.beside_advance span⟩, beside_respond _ _, beside_settle _⟩

/-! ## Errands -/

/-- The message of an errand has its correlation id already. -/
theorem filled_dispatch {e : Errand} {q : Question} {m : Message} {stamp : Stamp} {d : Dial}
    (dispatched : Socket.dispatch e stamp = .call q m) (same : d.message = m) :
    d.filled stamp.correlation = m := by
  have own : m.correlation = stamp.correlation := by
    cases e <;> cases dispatched <;> rfl
  rw [Dial.filled, same]
  split
  · rw [← own]
  · rfl

/-- An errand is a message for its channel, or none if the message is refused, and concerns the
calls. -/
theorem carryOut_cases (s : Switchboard) (e : Errand) (stamp : Stamp) (head : Bool) :
    ∃ bridge jobs, (s.carryOut e stamp head).1 = { s with bridge, jobs } ∧
      s.bridge.Publishes (Socket.dispatch e stamp).message bridge := by
  cases dispatched : Socket.dispatch e stamp with
  | notice m =>
    refine ⟨_, s.jobs, ?_, s.bridge.publishes_send m⟩
    simp only [carryOut, dispatched, notify]
  | call q m =>
    have publishes := s.bridge.publishes_start ⟨.background, m.channel, m, s.limits.reply⟩
      stamp.correlation rfl (filled_dispatch dispatched rfl)
    simp only [carryOut, dispatched, call]
    split
    · next started =>
      rw [started] at publishes
      exact ⟨_, _, rfl, publishes⟩
    · next refused =>
      rw [refused] at publishes
      exact ⟨_, s.jobs, rfl, publishes⟩

end Switchboard

end PaymentRelay
