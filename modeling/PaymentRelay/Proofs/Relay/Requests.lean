import PaymentRelay.Proofs.Relay.Separation

/-
  Steps of clients, as the shares of invoices have them, and runs.

  A request that is neither refused nor answered at once is about the invoice that its errand or
  its wallet names (`Http.Verdict.invoice_of`). Its message goes to the channel of that invoice, and
  whether anybody takes it is decided there (`Filed.publish_refused`, `Filed.publish_taken`). Its
  call is under an id that nobody has used, so that it waits in the share of the invoice and in no
  other.

  So every step of the office is a step of every share (`Filed.comes`), and what an invoice is told
  in a run is what its share tells (`Filed.transcript`).
-/

namespace PaymentRelay

/-- The invoice of an errand. -/
def Errand.invoice : Errand → String
  | .terms a => a.paymentId
  | .payment a _ => a.paymentId
  | .proof a _ => a.reference

namespace Http.Verdict

/-- The invoice that a verdict leads to. -/
def invoice? : Verdict → Option String
  | .respond _ => none
  | .errand e => some e.invoice
  | .connect channel => some channel

section
variable {q : Request} {k : String}

theorem invoice_headOnly (v : Verdict) : v.headOnly.invoice? = v.invoice? := by
  cases v <;> rfl

theorem invoice_ofErrand {e : Errand} (h : (ofErrand e).invoice? = some k) : e.invoice = k := by
  unfold ofErrand at h
  split at h
  · exact Option.some.inj h
  · cases h

theorem invoice_withText {α : Type} {read : Except String α} {next : α → Verdict}
    (h : (withText read next).invoice? = some k) :
    ∃ a, read.toOption = some a ∧ (next a).invoice? = some k := by
  cases read with
  | ok a => exact ⟨a, rfl, h⟩
  | error message => cases h

theorem invoice_withBody {α : Type} {d : Decoder α} {next : α → Verdict}
    (h : (withBody q d next).invoice? = some k) : ∃ a, (next a).invoice? = some k := by
  unfold withBody at h
  split at h
  · next a _ => exact ⟨a, h⟩
  · cases h

theorem invoice_terms {id : String} (h : (terms id).invoice? = some k) :
    (Endpoint.segment "paymentID" id).toOption = some k := by
  obtain ⟨a, read, h⟩ := invoice_withText h
  rw [read, ← invoice_ofErrand h]
  rfl

theorem invoice_payment {id : String} (h : (payment q id).invoice? = some k) :
    (Endpoint.segment "paymentID" id).toOption = some k := by
  obtain ⟨a, read, h⟩ := invoice_withText h
  obtain ⟨slip, h⟩ := invoice_withBody h
  rw [read, ← invoice_ofErrand h]
  rfl

theorem invoice_proof {txId : String} (h : (proof q txId).invoice? = some k) :
    q.reference.toOption = some k := by
  obtain ⟨_, _, h⟩ := invoice_withText h
  obtain ⟨reference, read, h⟩ := invoice_withText h
  obtain ⟨envelope, h⟩ := invoice_withBody h
  rw [read, ← invoice_ofErrand h]
  rfl

theorem invoice_wallet {channel : String} (h : (wallet q channel).invoice? = some k) :
    (Endpoint.segment "channelKey" channel).toOption = some k := by
  unfold wallet at h
  split at h
  · cases h
  · obtain ⟨a, read, h⟩ := invoice_withText h
    rw [read, ← Option.some.inj h]

/-- What a request leads to is about the invoice of the request. -/
theorem invoice_of (h : (of true q).invoice? = some k) : q.invoice? = some k := by
  unfold of at h
  unfold Request.invoice?
  cases path : Endpoint.ofPath? true q.path with
  | none =>
    simp only [path] at h
    cases h
  | some p =>
    simp only [path] at h
    have h : (atEndpoint q p).invoice? = some k := by
      split at h
      · rwa [invoice_headOnly] at h
      · exact h
    cases p with
    | health =>
      simp only [atEndpoint] at h
      split at h <;> cases h
    | payment id =>
      simp only [atEndpoint] at h
      split at h
      · exact invoice_terms h
      · split at h
        · exact invoice_payment h
        · cases h
    | proofs txId =>
      simp only [atEndpoint] at h
      split at h
      · exact invoice_proof h
      · cases h
    | wallets channel =>
      simp only [atEndpoint] at h
      split at h
      · exact invoice_wallet h
      · cases h

end

end Http.Verdict

/-! ## Messages -/

/-- The id that a step draws: that of a call. -/
def Office.Step.fresh? : Office.Step → Option String
  | .request _ q stamp =>
    match Http.Verdict.of true q with
    | .errand (.terms _) | .errand (.payment ..) => some stamp.correlation
    | _ => none
  | _ => none

/-- A question goes to the channel of the invoice under the id that was drawn. -/
theorem Socket.dispatch_call {e : Errand} {stamp : Stamp} {question : Question} {m : Message}
    (h : Socket.dispatch e stamp = .call question m) :
    m.channel = e.invoice ∧ m.correlation = stamp.correlation := by
  cases e with
  | proof a p => cases h
  | _ =>
    cases h
    exact ⟨rfl, rfl⟩

theorem Socket.dispatch_notice {e : Errand} {stamp : Stamp} {m : Message}
    (h : Socket.dispatch e stamp = .notice m) : m.channel = e.invoice := by
  cases e with
  | proof a p =>
    cases h
    rfl
  | _ => cases h

/-- A correlation id is free that no call in flight has. -/
theorem Bridge.Sound.free {b : Bridge} (sound : b.Sound) {id : String}
    (unused : ∀ c ∈ b.calls, c.correlation ≠ id) : b.registry.isPending id = false := by
  rw [Registry.isPending, Option.isSome_eq_false_iff, Option.isNone_iff_eq_none, Registry.entry?,
    List.find?_eq_none]
  intro e he
  obtain ⟨c, hc, _, same, _⟩ := sound.owned e he
  simpa [← same] using unused c hc

namespace Office

section
variable {used : List String} {o : Office} {c k : String} {m : Message}

/-- Whether a message is refused is a matter of its channel. -/
theorem Filed.publish_answer (filed : o.Filed used) :
    (o.board.bridge.hub.publish k m).2 =
      match (o.share k).refusal? m with
      | some why => .error why
      | none => .ok (o.board.bridge.hub.reach k) := by
  have answer := filed.housed.seated.counted.publish_answer k m
  have served : o.board.bridge.hub.reach k = 0 ↔
      isServed (o.share k).peers (o.share k).lines = false :=
    filed.housed.seated.reach_eq_zero k
  rw [answer, Share.refusal?]
  by_cases large : o.board.bridge.hub.limit < m.size
  · rw [if_pos large, if_pos (show (o.share k).limit < m.size from large)]
    rfl
  · rw [if_neg large, if_neg (show ¬ (o.share k).limit < m.size from large)]
    by_cases nobody : o.board.bridge.hub.reach k = 0
    · rw [if_pos nobody, if_pos (served.mp nobody)]
      rfl
    · rw [if_neg nobody, if_neg (fun none => nobody (served.mpr none))]

theorem Filed.publish_refused (filed : o.Filed used) {why : BusError}
    (refused : (o.share k).refusal? m = some why) :
    o.board.bridge.hub.publish k m = (o.board.bridge.hub, .error why) := by
  have answer := filed.publish_answer (k := k) (m := m)
  rw [refused] at answer
  rcases Hub.publish_cases o.board.bridge.hub k m with ⟨_, same⟩ | ⟨⟨n, ok⟩, _⟩
  · exact Prod.ext same answer
  · rw [ok] at answer
    cases answer

theorem Filed.publish_taken (filed : o.Filed used) (taken : (o.share k).refusal? m = none) :
    ∃ n, o.board.bridge.hub.publish k m = (o.board.bridge.hub.delivered k m, .ok n) := by
  have answer := filed.publish_answer (k := k) (m := m)
  rw [taken] at answer
  rcases Hub.publish_cases o.board.bridge.hub k m with ⟨⟨e, failed⟩, _⟩ | ⟨_, delivered⟩
  · rw [failed] at answer
    cases answer
  · exact ⟨_, Prod.ext delivered answer⟩

/-- The office when a message was published to a channel and written to its sessions. -/
def served (o : Office) (c : String) (m : Message) : Office :=
  { o with board := { o.board.withHub (o.board.bridge.hub.served o.board.sessions c m) with
      sessions := o.board.sessions.map (Switchboard.written c m o.board.bridge.now) } }

theorem Housed.served (housed : o.Housed) (c : String) (m : Message) : (o.served c m).Housed := by
  refine ⟨housed.seated.served c m _, ?_, housed.listening⟩
  have numbers : (o.served c m).board.sessions.map (·.number) =
      o.board.sessions.map (·.number) := by
    rw [Office.served, List.map_map]
    refine List.map_congr_left fun x _ => ?_
    rw [Function.comp_apply, Switchboard.written]
    split <;> rfl
  rw [numbers]
  exact housed.numbers

/-- A message that is published is seen by its channel alone. -/
theorem Housed.share_served (housed : o.Housed) (c : String) (m : Message) (k : String) :
    (o.served c m).share k = if c = k then (o.share k).publish m else o.share k := by
  show Share.mk k _ _ _ _ (queues (o.board.bridge.hub.served o.board.sessions c m) o.joined k)
    (lines (o.board.sessions.map _) k) _ = _
  rw [housed.seated.queues_served, lines_written]
  split <;> rfl

/-- What was published is written when everything settles. -/
theorem Housed.writeAll_served (housed : o.Housed) {s : Switchboard}
    (hub : s.bridge.hub = o.board.bridge.hub.delivered c m)
    (now : s.bridge.now = o.board.bridge.now) (sessions : s.sessions = o.board.sessions) :
    s.writeAll = { s.withHub (o.board.bridge.hub.served o.board.sessions c m) with
      sessions := o.board.sessions.map (Switchboard.written c m o.board.bridge.now) } := by
  have numbers : (s.sessions.map (·.number)).Nodup := sessions ▸ housed.numbers.distinct
  have peers : (s.sessions.map (·.peer)).Nodup :=
    sessions ▸ (List.nodup_append.mp housed.seated.ids.distinct).1
  rw [Switchboard.writeAll_of_delivered c m numbers peers, hub, now, sessions]
  · rfl
  · intro x hx isOpen
    have drained := housed.seated.drained x (sessions ▸ hx) isOpen
    rw [hub, Hub.peer?_delivered, drained]
    refine ⟨_, rfl, ?_⟩
    by_cases mine : x.channel = c <;>
      simp [mine, enqueue_nil housed.seated.sound.capacity]

theorem Filed.served (filed : o.Filed used) (c : String) (m : Message) :
    (o.served c m).Filed used where
  housed := filed.housed.served c m
  ready := filed.ready.withHub (filed.housed.unread rfl rfl)
  booked := filed.booked

/-- Settling writes what was published, and does nothing else. -/
theorem Filed.comes_delivered (filed : o.Filed used) (c : String) (m : Message) :
    let o' := o.withHub (o.board.bridge.hub.delivered c m)
    Comes used (o'.settled o'.board.settle) fun k =>
      (if c = k then (o.share k).publish m else o.share k, []) := by
  intro o'
  have served := filed.served c m
  have settle : o'.settled o'.board.settle =
      (o.served c m).settled (o.served c m).board.settle := by
    have written : o'.board.writeAll = (o.served c m).board :=
      filed.housed.writeAll_served rfl rfl rfl
    rw [Switchboard.settle, written, Switchboard.settle, served.housed.writeAll]
    rfl
  have settled := served.settle
  rw [settle]
  exact ⟨settled.filed, fun k => (settled.shares k).trans (filed.housed.share_served c m k),
    settled.told⟩

/-! ## Requests -/

variable {client : Nat} {q : Http.Request} {stamp : Stamp} {e : Errand}

/-- A request that is answered at once changes nothing. -/
theorem Filed.comes_respond (filed : o.Filed used) {r : Http.Response}
    (verdict : Http.Verdict.of true q = .respond r) :
    Comes used (o.act (.request client q stamp)) fun k =>
      (o.share k).step (.request client q stamp) := by
  have act : o.act (.request client q stamp) = (o, [(q.invoice?, .response client r)]) := by
    simp only [Office.act, Office.request, Relay.request, Relay.isServing, verdict, Relay.now]
  rw [act]
  refine .of_step filed (fun k (mine : q.invoice? = some k) => ?_)
    fun k (other : q.invoice? ≠ some k) => ⟨rfl, by simp [Office.told, other]⟩
  have share : (o.share k).act (.request client q stamp) =
      (o.share k, [.response client r]) := by
    simp only [Share.act, Share.request, verdict]
  rw [share]
  exact ⟨rfl, by simp [Office.told, mine]⟩

/-- A wallet that connects has a session on its channel. -/
theorem Filed.comes_connect (filed : o.Filed used)
    (verdict : Http.Verdict.of true q = .connect c) :
    Comes used (o.act (.request client q stamp)) fun k =>
      (o.share k).step (.request client q stamp) := by
  have invoice : q.invoice? = some c := Http.Verdict.invoice_of (by rw [verdict]; rfl)
  have act : o.act (.request client q stamp) =
      ({ o with board := (o.board.connect c).1 }, [(some c, .connected client)]) := by
    simp only [Office.act, Office.request, Relay.request, Relay.isServing, verdict, invoice]
  have seated := filed.housed.seated
  have filed' : Filed used { o with board := (o.board.connect c).1 } := by
    refine ⟨⟨seated.connect _ c _, ?_, filed.housed.listening⟩,
      filed.ready.withHub (filed.housed.unread rfl rfl), filed.booked⟩
    have more := filed.housed.numbers.one_more
    simpa [Switchboard.connect, Session.new] using more
  have share (k) : Office.share { o with board := (o.board.connect c).1 } k = { o.share k with
      lines := if c = k then (o.share k).lines ++ [.new 0 0 k o.board.bridge.now]
        else (o.share k).lines } := by
    show Share.mk k _ _ _ _ (queues (o.board.bridge.hub.join c).1 o.joined k)
      (lines (o.board.sessions ++ [_]) k) _ = _
    rw [seated.queues_connect c k, lines_connect]
    rfl
  rw [act]
  refine .of_step filed' (fun k (mine : q.invoice? = some k) => ?_)
    fun k (other : q.invoice? ≠ some k) => ?_
  · obtain rfl : c = k := Option.some.inj (invoice.symm.trans mine)
    simp only [Share.act, Share.request, verdict]
    exact ⟨(share c).trans (by rw [if_pos rfl]; rfl), by simp [Office.told]⟩
  · have apart : c ≠ k := fun eq => other (invoice.trans (congrArg some eq))
    exact ⟨(share k).trans (by rw [if_neg apart]), by simp [Office.told, apart]⟩

/-- What the relay makes of an errand is what the switchboard makes of it. -/
theorem act_errand (client : Nat) (stamp : Stamp) (verdict : Http.Verdict.of true q = .errand e) :
    o.act (.request client q stamp) =
      match o.board.carryOut e stamp q.isHead with
      | (board, .inl r) => ({ o with board }, [(some e.invoice, .response client r)])
      | (board, .inr number) =>
        ({ o with
            board, asked := Function.update o.asked number (some e.invoice, client) }, []) := by
  have invoice : q.invoice? = some e.invoice := Http.Verdict.invoice_of (by rw [verdict]; rfl)
  simp only [Office.act, Office.request, Relay.request, Relay.isServing, verdict, Relay.carryOut,
    invoice]
  rcases o.board.carryOut e stamp q.isHead with ⟨board, r | number⟩ <;> rfl

/-- An errand whose message is refused is answered at once. -/
theorem Filed.comes_refused {o' : Office} (filed' : o'.Filed used)
    (shares : ∀ k, o'.share k = o.share k) (verdict : Http.Verdict.of true q = .errand e)
    {r : Http.Response}
    (share : (o.share e.invoice).carryOut client e stamp q.isHead =
      (o.share e.invoice, [.response client r])) :
    Comes used (o', [(some e.invoice, .response client r)]) fun k =>
      (o.share k).step (.request client q stamp) := by
  have invoice : q.invoice? = some e.invoice := Http.Verdict.invoice_of (by rw [verdict]; rfl)
  refine .of_step filed' (fun k (mine : q.invoice? = some k) => ?_)
    fun k (other : q.invoice? ≠ some k) => ⟨shares k, ?_⟩
  · obtain rfl : e.invoice = k := Option.some.inj (invoice.symm.trans mine)
    simp only [Share.act, Share.request, verdict, share]
    exact ⟨shares _, by simp [Office.told]⟩
  · have apart : e.invoice ≠ k := fun eq => other (invoice.trans (congrArg some eq))
    simp [Office.told, apart]

/-- A notice is published to the channel of its invoice, and answered at once. -/
theorem Filed.comes_notice (filed : o.Filed used) (verdict : Http.Verdict.of true q = .errand e)
    (dispatch : Socket.dispatch e stamp = .notice m) :
    Comes used (o.step (.request client q stamp)) fun k =>
      (o.share k).step (.request client q stamp) := by
  have channel := Socket.dispatch_notice dispatch
  have act := act_errand (o := o) client stamp verdict
  simp only [Switchboard.carryOut, dispatch, Switchboard.notify, Bridge.send, channel] at act
  cases refusal : (o.share e.invoice).refusal? m with
  | some why =>
    rw [filed.publish_refused refusal] at act
    rw [step_eq act fun _ => Step.noConfusion]
    refine Comes.settle (Filed.comes_refused filed (fun _ => rfl) verdict ?_)
    simp only [Share.carryOut, dispatch, refusal]
  | none =>
    obtain ⟨reached, published⟩ := filed.publish_taken refusal
    have act : o.act (.request client q stamp) =
        (o.withHub (o.board.bridge.hub.delivered e.invoice m), [(some e.invoice, .response client
          (.toErrand e false (Socket.concludeNotice (.ok ()))))]) := by
      rw [published] at act
      exact act
    rw [step_eq act fun _ => Step.noConfusion]
    have invoice : q.invoice? = some e.invoice := Http.Verdict.invoice_of (by rw [verdict]; rfl)
    have settled := filed.comes_delivered e.invoice m
    refine .of_step settled.filed (fun k (mine : q.invoice? = some k) => ?_)
      fun k (other : q.invoice? ≠ some k) => ?_
    · obtain rfl : e.invoice = k := Option.some.inj (invoice.symm.trans mine)
      have same : (o.share e.invoice).act (.request client q stamp) =
          ((o.share e.invoice).publish m, [.response client
            (.toErrand e false (Socket.concludeNotice (.ok ())))]) := by
        simp only [Share.act, Share.request, verdict, Share.carryOut, dispatch, refusal]
      rw [same, told_append, settled.told]
      exact ⟨(settled.shares _).trans (if_pos rfl), by simp [Office.told]⟩
    · have apart : e.invoice ≠ k := fun eq => other (invoice.trans (congrArg some eq))
      rw [told_append, settled.told]
      exact ⟨(settled.shares k).trans (if_neg apart), by simp [Office.told, apart]⟩

/-! ## Calls -/

theorem Filed.mono (filed : o.Filed used) (id : String) : o.Filed (id :: used) :=
  ⟨filed.housed, filed.ready, filed.booked.numbers, filed.booked.own,
    fun c hc => List.mem_cons_of_mem _ (filed.booked.known c hc)⟩

/-- The office when a call was started and its message published. -/
def rung (o : Office) (client : Nat) (e : Errand) (question : Question) (m : Message)
    (stamp : Stamp) (head : Bool) : Office where
  board :=
    { o.board with
      bridge := o.board.bridge.dialled m o.board.limits.reply
        (o.board.bridge.hub.delivered m.channel m)
      jobs := o.board.jobs ++ [⟨o.board.bridge.nextCall, e, question, stamp.errorId, head⟩] }
  joined := o.joined
  asked := Function.update o.asked o.board.bridge.nextCall (some m.channel, client)

/-- The office when the message was written as well, and nobody has looked. -/
def dialled (o : Office) (client : Nat) (e : Errand) (question : Question) (m : Message)
    (stamp : Stamp) (head : Bool) : Office where
  board :=
    { o.board with
      bridge := o.board.bridge.dialled m o.board.limits.reply
        (o.board.bridge.hub.served o.board.sessions m.channel m)
      jobs := o.board.jobs ++ [⟨o.board.bridge.nextCall, e, question, stamp.errorId, head⟩]
      sessions := o.board.sessions.map (Switchboard.written m.channel m o.board.bridge.now) }
  joined := o.joined
  asked := Function.update o.asked o.board.bridge.nextCall (some m.channel, client)

/-- The call that was started, as it is known. -/
theorem opened_dial (b : Bridge) (m : Message) (timeout : Span) :
    b.opened (Bridge.dial m timeout) m.correlation =
      ⟨b.nextCall, m.correlation, m.channel, b.registry.slots.length, b.now, b.now.after timeout,
        .background, .waiting⟩ := by
  rw [Bridge.opened, Bridge.correlation_dial]
  rfl

theorem Filed.asked_dialled (filed : o.Filed used) (x : Option String × Nat) {c : Call}
    (hc : c ∈ o.board.bridge.calls) :
    Function.update o.asked o.board.bridge.nextCall x c.number = o.asked c.number :=
  Function.update_of_ne (Nat.ne_of_lt (filed.ready.calm.sound.counted c hc)) ..

theorem Filed.booked_dialled (filed : o.Filed used) (client : Nat) (e : Errand)
    (question : Question) (m : Message) (stamp : Stamp) (head : Bool) :
    Booked (m.correlation :: used) (o.dialled client e question m stamp head).board.bridge.calls
      (o.dialled client e question m stamp head).board.jobs
      (o.dialled client e question m stamp head).asked := by
  have cases (c) (hc : c ∈ (o.dialled client e question m stamp head).board.bridge.calls) :
      c ∈ o.board.bridge.calls ∨ c = ⟨o.board.bridge.nextCall, m.correlation, m.channel,
        o.board.bridge.registry.slots.length, o.board.bridge.now,
        o.board.bridge.now.after o.board.limits.reply, .background, .waiting⟩ := by
    rw [← opened_dial]
    simpa [Office.dialled, Bridge.dialled] using hc
  refine ⟨?_, fun c hc => ?_, fun c hc => ?_⟩
  · simp [Office.dialled, Bridge.dialled, opened_dial, filed.booked.numbers]
  · rcases cases c hc with old | rfl
    · exact (congrArg _ (filed.asked_dialled _ old)).trans (filed.booked.own c old)
    · simp [Office.dialled]
  · rcases cases c hc with old | rfl
    · exact List.mem_cons_of_mem _ (filed.booked.known c old)
    · exact List.mem_cons_self ..

theorem Filed.share_dialled (filed : o.Filed used) (client : Nat) (e : Errand)
    (question : Question) (m : Message) (stamp : Stamp) (head : Bool) (k : String) :
    (o.dialled client e question m stamp head).share k =
      if m.channel = k then
        ((o.share k).publish m).await client e question m stamp.errorId head
      else o.share k := by
  have lengths : o.board.bridge.calls.length = o.board.jobs.length := by
    simpa using congrArg List.length filed.booked.numbers
  have old : ((o.board.bridge.calls.zip o.board.jobs).filter fun w => w.1.channel = k).map
      (Wait.of (Function.update o.asked o.board.bridge.nextCall (some m.channel, client))) =
      (o.share k).waits := by
    refine List.map_congr_left fun w hw => ?_
    have there := (List.of_mem_zip (List.mem_of_mem_filter hw)).1
    rw [Wait.of, filed.asked_dialled _ there]
    rfl
  have waits : waits (o.dialled client e question m stamp head).board.bridge.calls
      (o.dialled client e question m stamp head).board.jobs
      (o.dialled client e question m stamp head).asked k =
      (o.share k).waits ++ if m.channel = k then [⟨client, ⟨0, m.correlation, k, 0,
          o.board.bridge.now, o.board.bridge.now.after o.board.limits.reply, .background,
          .waiting⟩, ⟨0, e, question, stamp.errorId, head⟩⟩]
        else [] := by
    rw [← old]
    simp only [PaymentRelay.waits, Office.dialled, Bridge.dialled, opened_dial,
      List.zip_append lengths, List.filter_append, List.map_append]
    congr 1
    by_cases mine : m.channel = k <;> simp [mine, Wait.of]
  have served := filed.housed.share_served m.channel m k
  have parts : (o.dialled client e question m stamp head).share k =
      { (o.served m.channel m).share k with
        waits := PaymentRelay.waits (o.dialled client e question m stamp head).board.bridge.calls
          (o.dialled client e question m stamp head).board.jobs
          (o.dialled client e question m stamp head).asked k } := rfl
  rw [parts, waits, served]
  split
  · rfl
  · rw [List.append_nil]

/-- In an office that has settled no call is due. -/
theorem Filed.share_expire (filed : o.Filed used) (k : String) :
    (o.share k).close (fun c => c.deadline ≤ o.board.bridge.now) Bridge.timedOut =
      (o.share k, []) := by
  have early (w) (hw : w ∈ (o.share k).waits) : ¬ w.call.deadline ≤ o.board.bridge.now := by
    obtain ⟨v, hv, rfl⟩ := List.mem_map.mp hw
    have there := (List.of_mem_zip (List.mem_of_mem_filter hv)).1
    exact (Bridge.prospect_eq_none_iff.mp (filed.ready.quiet v.1 there)).2.1
  have none : ((o.share k).waits.filter fun w => w.call.deadline ≤ o.board.bridge.now) = [] := by
    simpa using early
  have all : ((o.share k).waits.filter fun w => !decide (w.call.deadline ≤ o.board.bridge.now)) =
      (o.share k).waits := by
    simpa using early
  simp only [Share.close, none, all, List.map_nil]

/-- An id that nobody has used is free. -/
theorem Filed.free (filed : o.Filed used) {id : String} (unused : id ∉ used) :
    o.board.bridge.registry.isPending id = false :=
  filed.ready.calm.sound.free fun c hc same => unused (same ▸ filed.booked.known c hc)

/-- Where the entry was withdrawn, everything is in order. -/
theorem Filed.withdrawn (filed : o.Filed used)
    (free : o.board.bridge.registry.isPending m.correlation = false) :
    Filed used { o with board := { o.board with
      bridge := o.board.bridge.refused m o.board.limits.reply } } :=
  ⟨⟨filed.housed.seated, filed.housed.numbers, filed.housed.listening⟩,
    filed.ready.refused _ free, filed.booked⟩

/-- What comes of a question is decided by its channel. -/
theorem Filed.act_call (filed : o.Filed used) (client : Nat) {question : Question}
    (verdict : Http.Verdict.of true q = .errand e)
    (dispatch : Socket.dispatch e stamp = .call question m)
    (free : o.board.bridge.registry.isPending m.correlation = false) :
    o.act (.request client q stamp) =
      match (o.share e.invoice).refusal? m with
      | some why =>
        ({ o with board := { o.board with
            bridge := o.board.bridge.refused m o.board.limits.reply } },
          [(some e.invoice, .response client (.toErrand e q.isHead
            (Socket.conclude stamp.errorId question (.error (.ofBus why)))))])
      | none => (o.rung client e question m stamp q.isHead, []) := by
  obtain ⟨channel, correlation⟩ := Socket.dispatch_call dispatch
  have start : o.board.bridge.start ⟨.background, m.channel, m, o.board.limits.reply⟩
      stamp.correlation = _ :=
    correlation ▸ Bridge.start_dial o.board.limits.reply free
  have act := act_errand (o := o) client stamp verdict
  rw [channel] at start
  simp only [Switchboard.carryOut, dispatch, Switchboard.call, channel, start] at act
  cases refusal : (o.share e.invoice).refusal? m with
  | some why =>
    rw [filed.publish_refused refusal] at act
    exact act
  | none =>
    obtain ⟨reached, published⟩ := filed.publish_taken refusal
    rw [published] at act
    simp only [rung, channel]
    exact act

/-- Settling writes the message, and then the call is looked at with the others. -/
theorem Filed.comes_rung (filed : o.Filed used) (client : Nat) (e : Errand) (question : Question)
    (stamp : Stamp) (head : Bool)
    (free : o.board.bridge.registry.isPending m.correlation = false) :
    let o' := o.rung client e question m stamp head
    Comes (m.correlation :: used) (o'.settled o'.board.settle) fun k =>
      ((o.dialled client e question m stamp head).share k).close
        (fun c => c.deadline ≤ o.board.bridge.now) Bridge.timedOut := by
  intro o'
  have served := filed.housed.served m.channel m
  have housed : (o.dialled client e question m stamp head).Housed :=
    ⟨served.seated, served.numbers, served.listening⟩
  have written : o'.board.writeAll = (o.dialled client e question m stamp head).board :=
    filed.housed.writeAll_served (s := o'.board) (c := m.channel) rfl rfl rfl
  have silent : Bridge.unread { o.board.bridge with
      hub := o.board.bridge.hub.served o.board.sessions m.channel m } = [] :=
    filed.housed.unread rfl rfl
  obtain ⟨filed', shares⟩ := Bridge.Closes.filed
    (filed.ready.closes_dialled o.board.limits.reply free silent) housed
    (filed.booked_dialled client e question m stamp head) fun _ => ⟨rfl, rfl⟩
  rw [Switchboard.settle, written]
  exact ⟨filed', fun k => congrArg Prod.fst (shares k), fun k => congrArg Prod.snd (shares k)⟩

/-- A question is published to the channel of its invoice, and its request waits there. -/
theorem Filed.comes_call (filed : o.Filed used) {question : Question}
    (verdict : Http.Verdict.of true q = .errand e)
    (dispatch : Socket.dispatch e stamp = .call question m) (unused : stamp.correlation ∉ used) :
    Comes (stamp.correlation :: used) (o.step (.request client q stamp)) fun k =>
      (o.share k).step (.request client q stamp) := by
  obtain ⟨channel, correlation⟩ := Socket.dispatch_call dispatch
  have free : o.board.bridge.registry.isPending m.correlation = false :=
    filed.free (correlation ▸ unused)
  have invoice : q.invoice? = some e.invoice := Http.Verdict.invoice_of (by rw [verdict]; rfl)
  have act := filed.act_call client verdict dispatch free
  cases refusal : (o.share e.invoice).refusal? m with
  | some why =>
    rw [refusal] at act
    rw [step_eq act fun _ => Step.noConfusion]
    refine Comes.settle
      (Filed.comes_refused (o := o) ((filed.withdrawn free).mono _) (fun _ => rfl) verdict ?_)
    simp only [Share.carryOut, dispatch, refusal]
  | none =>
    rw [refusal] at act
    rw [step_eq act fun _ => Step.noConfusion, ← correlation]
    have settled := filed.comes_rung client e question stamp q.isHead free
    have share (k) := filed.share_dialled client e question m stamp q.isHead k
    refine .of_step settled.filed (fun k (mine : q.invoice? = some k) => ?_)
      fun k (other : q.invoice? ≠ some k) => ?_
    · obtain rfl : e.invoice = k := Option.some.inj (invoice.symm.trans mine)
      have same : (o.share e.invoice).act (.request client q stamp) =
          ((o.dialled client e question m stamp q.isHead).share e.invoice).close
            (fun c => c.deadline ≤ o.board.bridge.now) Bridge.timedOut := by
        rw [share, if_pos channel]
        simp only [Share.act, Share.request, verdict, Share.carryOut, dispatch, refusal]
        rfl
      rw [same]
      exact ⟨settled.shares _, settled.told _⟩
    · have apart : m.channel ≠ k := fun eq =>
        other (invoice.trans (congrArg some (channel.symm.trans eq)))
      have same : ((o.dialled client e question m stamp q.isHead).share k).close
          (fun c => c.deadline ≤ o.board.bridge.now) Bridge.timedOut = (o.share k, []) := by
        rw [share, if_neg apart, filed.share_expire]
      exact ⟨(settled.shares k).trans (congrArg Prod.fst same),
        (settled.told k).trans (congrArg Prod.snd same)⟩

/-! ## Runs -/

theorem Filed.comes_request (filed : o.Filed used)
    (fresh : ∀ id, (Step.request client q stamp).fresh? = some id → id ∉ used) :
    Comes ((Step.request client q stamp).fresh?.toList ++ used)
      (o.step (.request client q stamp)) fun k => (o.share k).step (.request client q stamp) := by
  cases verdict : Http.Verdict.of true q with
  | respond r =>
    have undrawn : (Step.request client q stamp).fresh? = none := by
      simp only [Step.fresh?, verdict]
    rw [undrawn, step_eq rfl fun _ => Step.noConfusion]
    exact (filed.comes_respond verdict).settle
  | connect c =>
    have undrawn : (Step.request client q stamp).fresh? = none := by
      simp only [Step.fresh?, verdict]
    rw [undrawn, step_eq rfl fun _ => Step.noConfusion]
    exact (filed.comes_connect verdict).settle
  | errand e =>
    cases e with
    | proof a p =>
      have undrawn : (Step.request client q stamp).fresh? = none := by
        simp only [Step.fresh?, verdict]
      rw [undrawn]
      exact filed.comes_notice verdict rfl
    | _ =>
      have drawn : (Step.request client q stamp).fresh? = some stamp.correlation := by
        simp only [Step.fresh?, verdict]
      rw [drawn]
      exact filed.comes_call verdict rfl (fresh _ drawn)

theorem Filed.comes_peer (filed : o.Filed used) (c : String) (n : Nat) (act : PeerAct) :
    Comes used (o.step (.peer c n act)) fun k => (o.share k).step (.peer c n act) := by
  by_cases there : ∃ id p, (peersOf o.joined c)[n]? = some id ∧
      o.board.bridge.hub.peer? id = some p
  · obtain ⟨id, p, hid, found⟩ := there
    cases act with
    | leave =>
      rw [step_eq rfl fun _ => Step.noConfusion]
      exact (filed.comes_leave hid found).settle
    | reply m => exact filed.comes_reply m hid found
    | receive =>
      rw [step_eq rfl fun _ => Step.noConfusion]
      exact (filed.comes_receive hid found).settle
  · rw [step_eq rfl fun _ => Step.noConfusion]
    refine (filed.comes_absent act fun id hid => ?_).settle
    exact Option.eq_none_iff_forall_ne_some.mpr fun p found => there ⟨id, p, hid, found⟩

theorem Filed.comes_atLine (filed : o.Filed used) (c : String) (n : Nat) (act : LineAct) :
    Comes used (o.step (.line c n act)) fun k => (o.share k).step (.line c n act) := by
  by_cases there : ∃ x, (linesOf o.board.sessions c)[n]? = some x ∧ (x.isOpen = true ∨ act = .read)
  · obtain ⟨x, hx, isOpen | rfl⟩ := there
    · cases act with
      | frame bytes now => exact filed.comes_frame hx isOpen bytes now
      | ping content =>
        rw [step_eq rfl fun _ => Step.noConfusion]
        exact (filed.comes_ping hx isOpen content).settle
      | hangUp =>
        rw [step_eq rfl fun _ => Step.noConfusion]
        exact (filed.comes_hangUp hx isOpen).settle
      | cut =>
        rw [step_eq rfl fun _ => Step.noConfusion]
        exact (filed.comes_cut hx isOpen).settle
      | read =>
        rw [step_eq rfl fun _ => Step.noConfusion]
        exact (filed.comes_read hx).settle
    · rw [step_eq rfl fun _ => Step.noConfusion]
      exact (filed.comes_read hx).settle
  · rw [step_eq rfl fun _ => Step.noConfusion]
    refine (filed.comes_closed fun x hx => ⟨?_, fun read => there ⟨x, hx, .inr read⟩⟩).settle
    exact Bool.eq_false_iff.mpr fun isOpen => there ⟨x, hx, .inl isOpen⟩

/-- Every step of an office is a step of the share of every invoice. -/
theorem Filed.comes (filed : o.Filed used) (a : Step)
    (fresh : ∀ id, a.fresh? = some id → id ∉ used) :
    Comes (a.fresh?.toList ++ used) (o.step a) fun k => (o.share k).step a := by
  cases a with
  | request client q stamp => exact filed.comes_request fresh
  | join c =>
    rw [step_eq rfl fun _ => Step.noConfusion]
    exact (filed.comes_join c).settle
  | peer c n act => exact filed.comes_peer c n act
  | line c n act => exact filed.comes_atLine c n act
  | advance span => exact filed.comes_advance span

/-- What an invoice is told in a run in which no id is drawn twice is what its share does. -/
theorem Filed.transcript (filed : o.Filed used) {steps : List Step}
    (fresh : (steps.filterMap Step.fresh?).Nodup)
    (unused : ∀ id ∈ steps.filterMap Step.fresh?, id ∉ used) (k : String) :
    (step.transcript o steps).map (fun x => (x.1, told k x.2)) =
      Share.step.transcript (o.share k) steps := by
  induction steps generalizing used o with
  | nil => rfl
  | cons a rest ih =>
    have drawn : (a :: rest).filterMap Step.fresh? =
        a.fresh?.toList ++ rest.filterMap Step.fresh? := by
      rw [List.filterMap_cons]
      cases a.fresh? <;> rfl
    rw [drawn] at fresh unused
    obtain ⟨_, later, apart⟩ := List.nodup_append.mp fresh
    have comes := filed.comes a fun id h => unused id (by simp [h])
    have next := ih comes.filed later fun id hid => ?_
    · rw [Machine.transcript, List.map_cons, next, comes.shares k, comes.told k]
      rfl
    · rw [List.mem_append, not_or]
      exact ⟨fun first => apart _ first _ hid rfl, unused id (List.mem_append_right _ hid)⟩

theorem filed_new (capacity limit : Nat) (limits : Limits) (sweepers : List Sweeper) :
    (Office.new capacity limit limits sweepers).Filed [] := by
  have sound : (Hub.new capacity limit).subscribe.1.Sound :=
    Hub.sound_act (Hub.sound_new capacity limit) .subscribe
  have counted : (Hub.new capacity limit).subscribe.1.Counted :=
    (Hub.kept_new capacity limit).counted.congr rfl rfl
  have bridge : (Bridge.new (.new capacity limit) true).Sound := Bridge.sound_new _ _
  have silent := Bridge.unread_new capacity limit
  have bridge' : (Office.new capacity limit limits sweepers).board.bridge.Sound :=
    ⟨bridge.registry, bridge.distinct, bridge.counted, bridge.held, bridge.owned, bridge.answered,
      bridge.resolved⟩
  exact ⟨⟨⟨sound, counted, .nil, nofun, nofun⟩, .nil, ⟨_, rfl, rfl⟩⟩,
    ⟨⟨bridge', nofun, nofun, nofun, .inl silent⟩, nofun, silent, nofun⟩, rfl, nofun, nofun⟩

end

end Office

end PaymentRelay
