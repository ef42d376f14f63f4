import PaymentRelay.Proofs.Failure.Answer
import PaymentRelay.Proofs.Relay.Requests

/-
  Shares that differ in the ids that were drawn for their calls, and in timestamps.

  A relation pairs the ids of two runs. What comes in must mean the same calls (`SameCalls`), and
  what goes out is the same but for paired ids (`Renamed`). Whether a message is within the limit is
  up to its size, so ids and timestamps have to take as much room (`Message.Alike.size`), as they do
  where they are made in one way. No response tells an id or a time
  (`Socket.answer_callFailure`, `Socket.toErrand_reply`). So alike steps take alike shares to alike
  shares, and what is seen of them is alike (`Share.Alike.step`).
-/

namespace PaymentRelay

/-- Two texts take as much room on the wire. -/
def SameWidth (x y : String) : Prop := (Json.text x).size = (Json.text y).size

instance (x y : String) : Decidable (SameWidth x y) := inferInstanceAs (Decidable (_ = _))

/-- Two correlation ids that mean the same calls, where the relation pairs the ids of calls. -/
def SameCalls (F : String → String → Prop) (x y : String) : Prop :=
  ∀ id id', F id id' → (x = id ↔ y = id')

/-- Two correlation ids that are the same, but for those that the relation pairs. -/
def Renamed (F : String → String → Prop) (x y : String) : Prop := x = y ∨ F x y

/-- Two messages that differ in their correlation ids, which are related, and in their timestamps,
and take as much room. -/
structure Message.Alike (R : String → String → Prop) (m m' : Message) : Prop where
  route : m.route = m'.route
  channel : m.channel = m'.channel
  app : m.app = m'.app
  headers : m.headers = m'.headers
  body : m.body = m'.body
  correlation : R m.correlation m'.correlation
  width : SameWidth m.correlation m'.correlation
  clock : SameWidth m.timestamp.text m'.timestamp.text

/-! ## Sizes -/

/-- The size of an object is up to the names and the sizes of its members. -/
theorem Json.size_memberChars {xs ys : List (String × Json)}
    (same : List.Forall₂ (fun x y => x.1 = y.1 ∧ x.2.size = y.2.size) xs ys) :
    Utf8.size (memberChars xs) = Utf8.size (memberChars ys) := by
  induction same with
  | nil => rfl
  | @cons x y xs ys first rest ih =>
    obtain ⟨key, value⟩ := x
    obtain ⟨key', value'⟩ := y
    obtain ⟨rfl, size⟩ := first
    have size : Utf8.size (chars value) = Utf8.size (chars value') := size
    cases rest with
    | nil => simp only [memberChars, Utf8.size_append, Utf8.size, size]
    | cons => simp only [memberChars, Utf8.size_append, Utf8.size, size, ih]

/-- The members of a message on the wire. -/
def Message.members (m : Message) : List (String × Json) :=
  [("key", .text m.route), ("channelId", .text m.channel), ("appId", .text m.app),
    ("correlationId", .text m.correlation), ("headers", .ofDict (m.headers.map .text)),
    ("body", m.body), ("timestamp", .text m.timestamp.text)]

theorem Message.size_eq (m : Message) :
    m.size = Utf8.size ('\x7b' :: Json.memberChars m.members ++ ['\x7d']) := rfl

/-- Messages that are alike are of one size. -/
theorem Message.Alike.size {R : String → String → Prop} {m m' : Message} (same : m.Alike R m') :
    m.size = m'.size := by
  have members : List.Forall₂ (fun x y : String × Json => x.1 = y.1 ∧ x.2.size = y.2.size)
      m.members m'.members := by
    simp only [Message.members, same.route, same.channel, same.app, same.headers, same.body,
      List.forall₂_cons, and_self, List.forall₂_nil_left_iff, true_and, and_true]
    exact ⟨same.width, same.clock⟩
  simp only [Message.size_eq, List.cons_append, Utf8.size, Utf8.size_append,
    Json.size_memberChars members]

/-! ## What is alike -/

/-- What a wallet finds is alike. -/
inductive Outgoing.Alike (F : String → String → Prop) : Outgoing → Outgoing → Prop
  | message {m m' : Message} (same : m.Alike (Renamed F) m') : Alike F (.message m) (.message m')
  | pong (content : List UInt8) : Alike F (.pong content) (.pong content)
  | close : Alike F .close .close

namespace Office

/-- The same is seen, but for ids and timestamps. -/
inductive Event.Alike (F : String → String → Prop) : Event → Event → Prop
  | response (client : Nat) (r : Http.Response) : Alike F (.response client r) (.response client r)
  | connected (client : Nat) : Alike F (.connected client) (.connected client)
  | received (n : Nat) {m m' : Message} (same : m.Alike (Renamed F) m') :
      Alike F (.received n m) (.received n m')
  | read (n : Nat) {o o' : Outgoing} (same : o.Alike F o') : Alike F (.read n o) (.read n o')

/-- A peer does the same, but for ids and timestamps. -/
inductive PeerAct.Alike (F : String → String → Prop) : PeerAct → PeerAct → Prop
  | leave : Alike F .leave .leave
  | reply {m m' : Message} (same : m.Alike (SameCalls F) m') : Alike F (.reply m) (.reply m')
  | receive : Alike F .receive .receive

/-- A wallet does the same, but for ids and timestamps. Its frames are compared as the replies that
they are, if they are any. -/
inductive LineAct.Alike (limit : Nat) (channel : String) (F : String → String → Prop) :
    LineAct → LineAct → Prop
  | frame {bytes bytes' : List UInt8} {now now' : Timestamp}
      (same : Option.Rel (Message.Alike (SameCalls F)) (Frame.read? limit channel now bytes)
        (Frame.read? limit channel now' bytes')) :
      Alike limit channel F (.frame bytes now) (.frame bytes' now')
  | ping (content : List UInt8) : Alike limit channel F (.ping content) (.ping content)
  | hangUp : Alike limit channel F .hangUp .hangUp
  | cut : Alike limit channel F .cut .cut
  | read : Alike limit channel F .read .read

/-- The same happens, but for ids and timestamps. The ids that are drawn are paired. -/
inductive Step.Alike (limit : Nat) (F : String → String → Prop) : Step → Step → Prop
  | request (client : Nat) (q : Http.Request) {s s' : Stamp}
      (clock : SameWidth s.now.text s'.now.text)
      (drawn : Option.Rel (fun id id' => F id id' ∧ SameWidth id id')
        (Step.request client q s).fresh? (Step.request client q s').fresh?) :
      Alike limit F (.request client q s) (.request client q s')
  | join (channel : String) : Alike limit F (.join channel) (.join channel)
  | peer (channel : String) (n : Nat) {act act' : PeerAct} (same : act.Alike F act') :
      Alike limit F (.peer channel n act) (.peer channel n act')
  | line (channel : String) (n : Nat) {act act' : LineAct} (same : act.Alike limit channel F act') :
      Alike limit F (.line channel n act) (.line channel n act')
  | advance (span : Span) : Alike limit F (.advance span) (.advance span)

end Office

/-- Messages that differ in ids and timestamps go to the wallets in the same way. -/
inductive Dispatch.Alike (F : String → String → Prop) : Dispatch → Dispatch → Prop
  | call (question : Question) {m m' : Message} (drawn : F m.correlation m'.correlation)
      (same : m.Alike (Renamed F) m') : Alike F (.call question m) (.call question m')
  | notice {m m' : Message} (same : m.Alike (Renamed F) m') : Alike F (.notice m) (.notice m')

/-- Sessions that differ in ids and timestamps of what was written. -/
structure Session.Alike (F : String → String → Prop) (x x' : Session) : Prop where
  isOpen : x.isOpen = x'.isOpen
  lastTraffic : x.lastTraffic = x'.lastTraffic
  unread : List.Forall₂ (Outgoing.Alike F) x.unread x'.unread

/-- Requests that wait under paired ids. -/
structure Wait.Alike (F : String → String → Prop) (w w' : Wait) : Prop where
  client : w.client = w'.client
  correlation : F w.call.correlation w'.call.correlation
  channel : w.call.channel = w'.call.channel
  deadline : w.call.deadline = w'.call.deadline
  errand : w.job.errand = w'.job.errand
  question : w.job.question = w'.job.question
  head : w.job.head = w'.job.head

/-- Shares that differ in ids and timestamps. -/
structure Share.Alike (F : String → String → Prop) (s s' : Share) : Prop where
  channel : s.channel = s'.channel
  capacity : s.capacity = s'.capacity
  limit : s.limit = s'.limit
  limits : s.limits = s'.limits
  now : s.now = s'.now
  peers : List.Forall₂ (Option.Rel (List.Forall₂ (Message.Alike (Renamed F)))) s.peers s'.peers
  lines : List.Forall₂ (Session.Alike F) s.lines s'.lines
  waits : List.Forall₂ (Wait.Alike F) s.waits s'.waits

/-- The shares are alike, and so is what is seen. -/
structure Share.Follows (F : String → String → Prop) (x x' : Share × List Office.Event) : Prop where
  shares : x.1.Alike F x'.1
  events : List.Forall₂ (Office.Event.Alike F) x.2 x'.2

/-! ## Responses -/

namespace Socket

/-- The id of an error is not told to the client. -/
theorem answer_callFailure (id id' description : String) {err err' : CallError}
    (same : err.isChannelNotFound = err'.isChannelNotFound) :
    (callFailure id description err).answer = (callFailure id' description err').answer := by
  rw [callFailure, callFailure, same]
  split <;> rfl

theorem answer_payeeFailure (id id' : String) {m m' : Message} (body : m.body = m'.body) :
    (payeeFailure id m).answer = (payeeFailure id' m').answer := by
  have same : read m ErrorRecord.record.decoder = read m' ErrorRecord.record.decoder := by
    simp only [read, Message.bind, body]
  rw [payeeFailure, payeeFailure, same]
  split <;> rfl

/-- The response to a question is up to the route and the body of its reply. -/
theorem toErrand_reply (e : Errand) (head : Bool) (id id' : String) (q : Question)
    {m m' : Message} (route : m.route = m'.route) (body : m.body = m'.body) :
    Http.Response.toErrand e head (conclude id q (.ok m)) =
      Http.Response.toErrand e head (conclude id' q (.ok m')) := by
  have same : read m q.answer = read m' q.answer := by simp only [read, Message.bind, body]
  simp only [conclude, route, same]
  split
  · rfl
  · split
    · exact Http.Response.toErrand_error e head (answer_payeeFailure id id' body)
    · rfl

end Socket

/-! ## Shares -/

section
variable {α β : Type} {R : α → β → Prop} {xs : List α} {ys : List β}

/-- Related lists have related members at each position. -/
theorem forall₂_getElem? (same : List.Forall₂ R xs ys) (n : Nat) : Option.Rel R xs[n]? ys[n]? := by
  induction same generalizing n with
  | nil => exact .none
  | cons first _ ih =>
    cases n with
    | zero => exact .some first
    | succ n => exact ih n

theorem forall₂_set (same : List.Forall₂ R xs ys) (n : Nat) {x : α} {y : β} (value : R x y) :
    List.Forall₂ R (xs.set n x) (ys.set n y) := by
  induction same generalizing n with
  | nil => exact .nil
  | cons first rest ih =>
    cases n with
    | zero => exact .cons value rest
    | succ n => exact .cons first (ih n)

theorem forall₂_any (same : List.Forall₂ R xs ys) {p : α → Bool} {q : β → Bool}
    (agree : ∀ x y, R x y → p x = q y) : xs.any p = ys.any q := by
  induction same with
  | nil => rfl
  | cons first _ ih => rw [List.any_cons, List.any_cons, agree _ _ first, ih]

theorem forall₂_snoc (same : List.Forall₂ R xs ys) {x : α} {y : β} (last : R x y) :
    List.Forall₂ R (xs ++ [x]) (ys ++ [y]) :=
  List.rel_append same (.cons last .nil)

end

namespace Share

open Office (PeerAct LineAct)

section
variable {F R : String → String → Prop} {s s' : Share} {m m' : Message}

theorem forall₂_enqueue {q q' : List Message} (same : List.Forall₂ (Message.Alike R) q q')
    (last : m.Alike R m') (capacity : Nat) :
    List.Forall₂ (Message.Alike R) (enqueue capacity q m) (enqueue capacity q' m') := by
  rw [enqueue, enqueue, same.length_eq]
  exact List.forall₂_drop _ (forall₂_snoc same last)

/-- Calls that end alike in alike shares are answered alike. -/
theorem Alike.close (same : s.Alike F s') {ends ends' : Call → Bool} {f f' : Call → Outcome}
    (agree : ∀ w w', Wait.Alike F w w' → ends w.call = ends' w'.call)
    (answers : ∀ w w', Wait.Alike F w w' →
      w.job.respond (f w.call) = w'.job.respond (f' w'.call)) :
    Follows F (s.close ends f) (s'.close ends' f') where
  shares := { same with
    waits := List.rel_filter (fun w w' h => by simp [agree w w' h]) same.waits }
  events := by
    refine List.rel_map (fun w w' h => ?_) (List.rel_filter (fun w w' h => ?_) same.waits)
    · rw [h.client, answers w w' h]
      exact .response ..
    · simp [agree w w' h]

theorem Alike.expire (same : s.Alike F s') : Follows F s.expire s'.expire := by
  refine same.close (fun w w' h => by rw [h.deadline, same.now]) fun w w' h => ?_
  simp only [Job.respond, Bridge.timedOut, h.errand, h.question, h.head, Socket.conclude]
  exact Http.Response.toErrand_error _ _ (Socket.answer_callFailure _ _ _ rfl)

/-- A reply that means the same calls ends the same calls. -/
theorem Alike.hear (same : s.Alike F s') (reply : m.Alike (SameCalls F) m') :
    Follows F (s.hear m) (s'.hear m') := by
  have stamped : (m.stamped s.channel).Alike (SameCalls F) (m'.stamped s'.channel) :=
    { reply with channel := same.channel }
  rw [Share.hear, Share.hear, stamped.size, same.limit]
  split
  · exact ⟨same, .nil⟩
  · refine same.close (fun w w' h => decide_eq_decide.mpr ?_) fun w w' h => ?_
    · have calls := stamped.correlation _ _ h.correlation
      have channel : (m.stamped s.channel).channel = w.call.channel ↔
          (m'.stamped s'.channel).channel = w'.call.channel := by
        rw [stamped.channel, h.channel]
      exact and_congr calls channel
    · simp only [Job.respond, h.errand, h.question, h.head]
      exact Socket.toErrand_reply _ _ _ _ _ reply.route reply.body

theorem Alike.refusal? (same : s.Alike F s') (alike : m.Alike R m') :
    s.refusal? m = s'.refusal? m' := by
  have peers : s.peers.any (·.isSome) = s'.peers.any (·.isSome) :=
    forall₂_any same.peers fun q q' h => by cases h <;> rfl
  have lines : s.lines.any (·.isOpen) = s'.lines.any (·.isOpen) :=
    forall₂_any same.lines fun x x' h => h.isOpen
  have served : isServed s.peers s.lines = isServed s'.peers s'.lines := by
    rw [isServed, peers, lines, isServed]
  rw [Share.refusal?, Share.refusal?, alike.size, same.limit, same.channel, served]

theorem Alike.publish (same : s.Alike F s') (alike : m.Alike (Renamed F) m') :
    (s.publish m).Alike F (s'.publish m') where
  channel := same.channel
  capacity := same.capacity
  limit := same.limit
  limits := same.limits
  now := same.now
  peers := by
    refine List.rel_map (fun q q' h => ?_) same.peers
    cases h with
    | none => exact .none
    | some h =>
      rw [same.capacity]
      exact .some (forall₂_enqueue h alike _)
  lines := by
    refine List.rel_map (fun x x' h => ?_) same.lines
    rw [h.isOpen, same.now]
    split
    · exact ⟨h.isOpen, rfl, forall₂_snoc h.unread (.message alike)⟩
    · exact h
  waits := same.waits

theorem Alike.await (same : s.Alike F s') (drawn : F m.correlation m'.correlation) (client : Nat)
    (e : Errand) (question : Question) (id id' : String) (head : Bool) :
    (s.await client e question m id head).Alike F (s'.await client e question m' id' head) :=
  { same with
    waits := forall₂_snoc same.waits ⟨rfl, drawn, same.channel, by
      rw [same.now, same.limits], rfl, rfl, rfl⟩ }

/-- What is made of an errand differs in what was made afresh for it. -/
theorem dispatch_alike {client : Nat} {q : Http.Request} {e : Errand} {stamp stamp' : Stamp}
    (verdict : Http.Verdict.of true q = .errand e)
    (clock : SameWidth stamp.now.text stamp'.now.text)
    (drawn : Option.Rel (fun id id' => F id id' ∧ SameWidth id id')
      (Office.Step.request client q stamp).fresh? (Office.Step.request client q stamp').fresh?) :
    (Socket.dispatch e stamp).Alike F (Socket.dispatch e stamp') := by
  simp only [Office.Step.fresh?, verdict] at drawn
  cases e with
  | proof a p => exact .notice ⟨rfl, rfl, rfl, rfl, rfl, .inl rfl, rfl, clock⟩
  | _ =>
    obtain ⟨paired, width⟩ : F stamp.correlation stamp'.correlation ∧
        SameWidth stamp.correlation stamp'.correlation := by
      cases drawn with
      | some both => exact both
    exact .call _ paired ⟨rfl, rfl, rfl, rfl, rfl, .inr paired, width, clock⟩

theorem Alike.carryOut (same : s.Alike F s') {e : Errand} {stamp stamp' : Stamp}
    (dispatch : (Socket.dispatch e stamp).Alike F (Socket.dispatch e stamp')) (client : Nat)
    (head : Bool) :
    Follows F (s.carryOut client e stamp head) (s'.carryOut client e stamp' head) := by
  unfold Share.carryOut
  generalize Socket.dispatch e stamp = d at dispatch
  generalize Socket.dispatch e stamp' = d' at dispatch
  cases dispatch with
  | notice alike =>
    simp only [same.refusal? alike]
    split
    · exact ⟨same, .cons (.response ..) .nil⟩
    · exact ⟨same.publish alike, .cons (.response ..) .nil⟩
  | call question drawn alike =>
    simp only [same.refusal? alike]
    split
    · next why _ =>
      have answer := Http.Response.toErrand_error e head (Socket.answer_callFailure stamp.errorId
        stamp'.errorId question.callDescription (Eq.refl (CallError.ofBus why).isChannelNotFound))
      simp only [Socket.conclude, answer]
      exact ⟨same, .cons (.response ..) .nil⟩
    · exact ((same.publish alike).await drawn ..).expire

theorem Alike.request (same : s.Alike F s') {client : Nat} {q : Http.Request}
    {stamp stamp' : Stamp} (clock : SameWidth stamp.now.text stamp'.now.text)
    (drawn : Option.Rel (fun id id' => F id id' ∧ SameWidth id id')
      (Office.Step.request client q stamp).fresh? (Office.Step.request client q stamp').fresh?) :
    Follows F (s.request client q stamp) (s'.request client q stamp') := by
  unfold Share.request
  cases verdict : Http.Verdict.of true q with
  | respond r => exact ⟨same, .cons (.response ..) .nil⟩
  | errand e => exact same.carryOut (dispatch_alike verdict clock drawn) client q.isHead
  | connect c =>
    exact ⟨{ same with lines := forall₂_snoc same.lines ⟨rfl, same.now, .nil⟩ },
      .cons (.connected ..) .nil⟩

theorem Alike.peerAct (same : s.Alike F s') (n : Nat) {unread unread' : List Message}
    (queue : List.Forall₂ (Message.Alike (Renamed F)) unread unread') {act act' : PeerAct}
    (acts : act.Alike F act') :
    Follows F (s.peerAct n unread act) (s'.peerAct n unread' act') := by
  cases acts with
  | leave => exact ⟨{ same with peers := forall₂_set same.peers n .none }, .nil⟩
  | reply reply => exact same.hear reply
  | receive =>
    cases queue with
    | nil => exact ⟨same, .nil⟩
    | cons first rest =>
      exact ⟨{ same with peers := forall₂_set same.peers n (.some rest) },
        .cons (.received n first) .nil⟩

theorem Alike.put (same : s.Alike F s') (n : Nat) {x x' : Session} (line : x.Alike F x') :
    (s.put n x).Alike F (s'.put n x') :=
  { same with lines := forall₂_set same.lines n line }

theorem Alike.lineAct (same : s.Alike F s') (n : Nat) {x x' : Session} (line : x.Alike F x')
    {act act' : LineAct} (acts : act.Alike s.limits.frame s.channel F act') :
    Follows F (s.lineAct n x act) (s'.lineAct n x' act') := by
  cases acts with
  | @frame bytes bytes' now now' reads =>
    simp only [Share.lineAct, ← line.isOpen, ← same.limits, ← same.channel, ← same.now]
    generalize Frame.read? s.limits.frame s.channel now bytes = r at reads
    generalize Frame.read? s.limits.frame s.channel now' bytes' = r' at reads
    have touched : (s.put n (x.touch s.now)).Alike F (s'.put n (x'.touch s.now)) :=
      same.put n ⟨line.isOpen, rfl, line.unread⟩
    split
    · cases reads with
      | none => exact ⟨touched, .nil⟩
      | some reply => exact touched.hear reply
    · exact ⟨same, .nil⟩
  | ping content =>
    simp only [Share.lineAct, ← line.isOpen, ← same.now]
    split
    · exact ⟨same.put n ⟨line.isOpen, rfl, forall₂_snoc line.unread (.pong content)⟩, .nil⟩
    · exact ⟨same, .nil⟩
  | hangUp =>
    simp only [Share.lineAct, ← line.isOpen]
    split
    · exact ⟨same.put n ⟨rfl, line.lastTraffic, forall₂_snoc line.unread .close⟩, .nil⟩
    · exact ⟨same, .nil⟩
  | cut =>
    simp only [Share.lineAct, ← line.isOpen]
    split
    · exact ⟨same.put n ⟨rfl, line.lastTraffic, List.rel_append line.unread .nil⟩, .nil⟩
    · exact ⟨same, .nil⟩
  | read =>
    obtain ⟨number, peer, channel, isOpen, lastTraffic, unread⟩ := x
    obtain ⟨number', peer', channel', isOpen', lastTraffic', unread'⟩ := x'
    have written : List.Forall₂ (Outgoing.Alike F) unread unread' := line.unread
    cases written with
    | nil => exact ⟨same, .nil⟩
    | cons first rest =>
      exact ⟨same.put n ⟨line.isOpen, line.lastTraffic, rest⟩, .cons (.read n first) .nil⟩

theorem Alike.advance (same : s.Alike F s') (span : Span) :
    Follows F (s.act (.advance span)) (s'.act (.advance span)) := by
  refine Alike.expire { same with now := ?_, lines := ?_ }
  · rw [same.now]
  · refine List.rel_map (fun x x' h => ?_) same.lines
    have idle (x : Session) (limit : Span) (now : Instant) : x.isIdle limit now =
        (x.isOpen && decide (x.lastTraffic.after limit ≤ now)) := rfl
    simp only [Switchboard.cleared, idle, h.isOpen, h.lastTraffic, same.limits, same.now]
    split
    · exact ⟨rfl, h.lastTraffic, forall₂_snoc h.unread .close⟩
    · exact h

/-- Alike steps of alike shares are seen alike, and leave them alike. -/
theorem Alike.act (same : s.Alike F s') {a a' : Office.Step} (steps : a.Alike s.limits.frame F a')
    (mine : a.Concerns s.channel) : Follows F (s.act a) (s'.act a') := by
  cases steps with
  | request client q clock drawn => exact same.request clock drawn
  | join c => exact ⟨{ same with peers := forall₂_snoc same.peers (.some .nil) }, .nil⟩
  | peer c n acts =>
    have there := forall₂_getElem? same.peers n
    simp only [Share.act]
    generalize s.peers[n]? = p at there
    generalize s'.peers[n]? = p' at there
    cases there with
    | none => exact ⟨same, .nil⟩
    | some there =>
      cases there with
      | none => exact ⟨same, .nil⟩
      | some queue => exact same.peerAct n queue acts
  | line c n acts =>
    obtain rfl : c = s.channel := mine
    have there := forall₂_getElem? same.lines n
    simp only [Share.act]
    generalize s.lines[n]? = x at there
    generalize s'.lines[n]? = x' at there
    cases there with
    | none => exact ⟨same, .nil⟩
    | some line => exact same.lineAct n line acts
  | advance span => exact same.advance span

/-- Alike steps concern the same invoices. -/
theorem concerns_alike {limit : Nat} {a a' : Office.Step} (steps : a.Alike limit F a')
    (k : String) : a.Concerns k ↔ a'.Concerns k := by
  cases steps <;> rfl

theorem Alike.step (same : s.Alike F s') {a a' : Office.Step}
    (steps : a.Alike s.limits.frame F a') : Follows F (s.step a) (s'.step a') := by
  simp only [Share.step, ← same.channel, ← concerns_alike steps]
  split
  · next mine => exact same.act steps mine
  · exact ⟨same, .nil⟩

end

end Share

end PaymentRelay
