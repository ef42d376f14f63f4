import PaymentRelay.Proofs.Hub.Delivery
import PaymentRelay.Proofs.Hub.Lookup
import PaymentRelay.Proofs.Hub.Members
import PaymentRelay.Proofs.Http.Errand
import PaymentRelay.Proofs.Relay.Frame
import PaymentRelay.Proofs.Wire.Envelope
import PaymentRelay.Relay.Basic

/-
  Proofs are handed on and forgotten.

  A proof is published to the channel of its payment reference, under the id of its transaction
  (`Socket.Announces`). The hub refuses a message that is too large, and one for which there is
  nobody; only the former is a failure of the proof. So a proof that is not too large is taken, and
  every peer on its channel has it as its newest message, while nothing else is different: no call
  starts and none ends (`Relay.proofs_reach_their_channel`).
-/

namespace PaymentRelay

/-- A peer with one more message to read, after as many of the others as there is room for. -/
def Peer.given (capacity : Nat) (p : Peer) (m : Message) : Peer :=
  { p with unread := p.unread.drop (p.unread.length + 1 - capacity) ++ [m] }

namespace Hub

variable {h : Hub} {k : String} {m : Message}

theorem deliver_eq (room : 0 < h.capacity) :
    h.deliver k m = h.peers.map fun p => if p.channel = k then p.given h.capacity m else p := by
  have given (p : Peer) : { p with unread := enqueue h.capacity p.unread m } =
      p.given h.capacity m := by
    rw [Peer.given, enqueue_eq room]
  rw [deliver]
  simp only [given]

theorem deliver_of_nobody (nobody : h.reach k = 0) : h.deliver k m = h.peers := by
  have away : ∀ p ∈ h.peers, p.channel ≠ k := by simpa [reach] using nobody
  exact (List.map_congr_left fun p hp => if_neg (away p hp)).trans (List.map_id _)

/-- A message that is not too large is delivered to whoever is there. -/
theorem Counted.publish_of_fits (counted : h.Counted) (fits : m.size ≤ h.limit) :
    (h.reach k = 0 ∧ h.publish k m = (h, .error (.channelNotFound k))) ∨
      ∃ n, h.publish k m = (h.delivered k m, .ok n) := by
  have answer := counted.publish_answer k m
  rw [if_neg (Nat.not_lt.mpr fits)] at answer
  rcases h.publish_cases k m with ⟨⟨e, refused⟩, same⟩ | ⟨⟨n, taken⟩, delivered⟩
  · by_cases nobody : h.reach k = 0
    · rw [if_pos nobody] at answer
      exact .inl ⟨nobody, Prod.ext same answer⟩
    · rw [if_neg nobody, refused] at answer
      cases answer
  · exact .inr ⟨n, Prod.ext delivered taken⟩

end Hub

namespace Socket

/-- A message hands a proof on. -/
structure Announces (m : Message) (args : ProofArgs) (p : Envelope) : Prop where
  route : m.route = "proof.create"
  channel : m.channel = args.reference
  correlation : m.correlation = args.txId
  headers : m.headers = Dict.empty.insert "x-tx-id" args.txId
  body : m.bind Envelope.record.decoder = .ok p

variable {args : ProofArgs} {p : Envelope} {stamp : Stamp}

/-- The message of a proof. -/
def proofMessage (args : ProofArgs) (p : Envelope) (stamp : Stamp) : Message :=
  { compose proofRoute args.reference args.txId p.terms stamp.now with
    headers := Dict.empty.insert txIdHeader args.txId }

theorem announces_proofMessage : Announces (proofMessage args p stamp) args p where
  route := rfl
  channel := rfl
  correlation := rfl
  headers := rfl
  body := p.ofJson_terms

end Socket

namespace Bridge

variable {b : Bridge} {k : String} {m : Message}

/-- A notice that is too large is not sent. -/
theorem send_of_large (large : b.hub.limit < m.size) :
    b.send k m = (b, .error (.transport (.tooLarge m.size b.hub.limit))) := by
  have refused : b.hub.publish k m = (b.hub, .error (.tooLarge m.size b.hub.limit)) := by
    simp only [Hub.publish, Hub.checkSize, if_pos large]
  simp only [send, refused, CallError.ofBus]

/-- Any other notice is sent to whoever is there, and that nobody is there is no failure. -/
theorem send_of_fits (counted : b.hub.Counted) (fits : m.size ≤ b.hub.limit) :
    ∃ sent published, b.send k m =
        ({ b with hub := { b.hub with peers := b.hub.deliver k m, published } }, sent) ∧
      Socket.concludeNotice sent = .ok .taken := by
  rcases counted.publish_of_fits (k := k) fits with ⟨nobody, refused⟩ | ⟨n, taken⟩
  · refine ⟨.error (.channelNotFound k), b.hub.published, ?_, rfl⟩
    simp only [send, refused, Hub.deliver_of_nobody nobody, CallError.ofBus]
  · refine ⟨.ok (), b.hub.published + 1, ?_, rfl⟩
    simp only [send, taken, Hub.delivered]

end Bridge

namespace Relay

open Socket (proofMessage)

variable {s : Switchboard} {q : Http.Request} {args : ProofArgs} {p : Envelope} {stamp : Stamp}

/-- A proof is answered by what comes of sending its message. -/
theorem request_proof {bridge : Bridge} {sent : Except CallError Unit}
    (accepted : Http.Verdict.of true q = .errand (.proof args p))
    (sending : s.bridge.send args.reference (proofMessage args p stamp) = (bridge, sent)) :
    (sockets s).request q stamp = (sockets { s with bridge },
      now (.toErrand (.proof args p) false (Socket.concludeNotice sent))) := by
  have verdict : Http.Verdict.of (sockets s).isServing q = .errand (.proof args p) := accepted
  have notified : s.carryOut (.proof args p) stamp q.isHead = ({ s with bridge },
      .inl (.toErrand (.proof args p) false (Socket.concludeNotice sent))) := by
    have dispatched : Socket.dispatch (.proof args p) stamp =
      .notice (proofMessage args p stamp) := rfl
    have channel : (proofMessage args p stamp).channel = args.reference := rfl
    simp only [Switchboard.carryOut, dispatched, Switchboard.notify, channel, sending]
  rw [request, verdict]
  simp only [carryOut, notified]

/-- A proof whose message is not too large is taken, whoever is there. -/
theorem request_proof_of_fits (counted : s.bridge.hub.Counted)
    (accepted : Http.Verdict.of true q = .errand (.proof args p))
    (fits : (proofMessage args p stamp).size ≤ s.bridge.hub.limit) :
    ∃ s', (sockets s).request q stamp = (sockets s', now (.empty 201)) := by
  obtain ⟨sent, published, sending, taken⟩ :=
    Bridge.send_of_fits (k := args.reference) counted fits
  rw [request_proof accepted sending, taken]
  exact ⟨_, rfl⟩

/-- In every state of a hub that has run, a proof fails if its message is larger than the limit, and
then the relay is as before. Else it is taken, and every peer on the channel of its payment
reference has one more message, after those for which there is room before it. The message is under
the id of the transaction, and its body is the proof. Nothing else changes in either case: neither
the calls that wait, nor the registry, nor the replies. -/
theorem proofs_reach_their_channel (capacity limit : Nat) (acts : List Hub.Act) (s : Switchboard)
    (hub : s.bridge.hub = Hub.act.after (.new capacity limit) acts) (args : ProofArgs)
    (p : Envelope) (stamp : Stamp) :
    ∃ m : Message, Socket.Announces m args p ∧ Socket.dispatch (.proof args p) stamp = .notice m ∧
      (limit < m.size →
        (∃ f, Socket.concludeNotice (s.bridge.send m.channel m).2 = .error f) ∧
        ∀ q, Http.Verdict.of true q = .errand (.proof args p) →
          (sockets s).request q stamp =
            (sockets s, now (.json 500 (.text "Internal Server Error")))) ∧
      (m.size ≤ limit →
        Socket.concludeNotice (s.bridge.send m.channel m).2 = .ok .taken ∧
        ∃ published,
          let bridge := { s.bridge with hub := { s.bridge.hub with
            published
            peers := s.bridge.hub.peers.map fun x =>
              if x.channel = args.reference then x.given capacity.nextPowerOfTwo m else x } }
          (s.bridge.send m.channel m).1 = bridge ∧
          ∀ q, Http.Verdict.of true q = .errand (.proof args p) →
            (sockets s).request q stamp = (sockets { s with bridge }, now (.empty 201))) := by
  have kept := hub ▸ Hub.kept_after capacity limit acts
  have capacity_eq : s.bridge.hub.capacity = capacity.nextPowerOfTwo := by
    rw [hub, (Hub.sound_new capacity limit).capacity_after acts]
    rfl
  have room : 0 < s.bridge.hub.capacity := capacity_eq ▸ Hub.capacity_pos capacity limit
  have channel : (proofMessage args p stamp).channel = args.reference := rfl
  refine ⟨proofMessage args p stamp, Socket.announces_proofMessage, rfl, fun large => ?_,
    fun fits => ?_⟩
  · have sending := Bridge.send_of_large (k := args.reference) (kept.limited ▸ large)
    rw [channel, sending]
    exact ⟨⟨_, rfl⟩, fun q accepted => request_proof accepted sending⟩
  · obtain ⟨sent, published, sending, taken⟩ :=
      Bridge.send_of_fits (k := args.reference) kept.counted (kept.limited ▸ fits)
    rw [Hub.deliver_eq room, capacity_eq] at sending
    rw [channel, sending]
    refine ⟨taken, published, rfl, fun q accepted => ?_⟩
    rw [request_proof accepted sending, taken]
    rfl

/-- A proof that reaches the only wallet there is, and one that is too large for the hub. -/
theorem proofs_reach_their_channel_wired :
    let args : ProofArgs := ⟨"tx-1", "inv-1"⟩
    let p := Envelope.unsigned "p"
    (∃ m bridge, ((Switchboard.wired 1000).bridge.send "inv-1" m).1 = bridge ∧
      m.bind Envelope.record.decoder = .ok p ∧
      bridge.hub.peers = [Peer.given (Nat.nextPowerOfTwo 4) ⟨1, "inv-1", []⟩ m]) ∧
    ∃ m f, Socket.Announces m args p ∧
      Socket.concludeNotice ((Switchboard.wired 10).bridge.send "inv-1" m).2 = .error f := by
  intro args p
  let stamp : Stamp := ⟨"c-1", "e-1", .epoch⟩
  have joined (limit : Nat) : (Switchboard.wired limit).bridge.hub =
      Hub.act.after (.new 4 limit) [.subscribe, .join "inv-1"] := rfl
  constructor
  · obtain ⟨m, announces, notice, -, fits⟩ :=
      proofs_reach_their_channel 4 1000 _ (.wired 1000) (joined 1000) args p stamp
    obtain rfl : proofMessage args p stamp = m := Dispatch.notice.inj notice
    obtain ⟨-, published, sent, -⟩ := fits (by decide +kernel)
    exact ⟨_, _, sent, announces.body, rfl⟩
  · obtain ⟨m, announces, notice, large, -⟩ :=
      proofs_reach_their_channel 4 10 _ (.wired 10) (joined 10) args p stamp
    obtain rfl : proofMessage args p stamp = m := Dispatch.notice.inj notice
    obtain ⟨⟨f, failed⟩, -⟩ := large (by decide +kernel)
    exact ⟨_, f, announces, failed⟩

end Relay

end PaymentRelay
