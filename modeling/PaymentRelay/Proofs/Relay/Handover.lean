import PaymentRelay.Proofs.Bridge.Refusal
import PaymentRelay.Proofs.Relay.Answers
import PaymentRelay.Proofs.Wallet.Inquiry
import PaymentRelay.Proofs.Wire.PassThrough

/-
  What is handed on between payers and payees.

  A payment is handed on as the object that was posted, but for a mode or a memo that is null
  (`posted_object`): to every peer on the channel of its invoice and every wallet that is connected
  there (`payment_reaches`), unless the request is answered with an error and nobody is reached
  (`payment_taken_or_refused`), or to the wallet over HTTP (`payment_submitted`). The
  acknowledgement goes back in the same way (`acknowledgement_handed_back`).
-/

namespace PaymentRelay

/-! ## Inquiries -/

/-- A payment is submitted in one request. -/
theorem Payd.run_submit (client : Exchange → Except Failure Json) (w : Payd) (invoice : String)
    (payment : Slip) :
    ((w.submit invoice payment).run client).1 =
      [⟨.post, w.paymentsUrl invoice, 204, some payment.encode.canonical⟩] := by
  have last (r : Except Failure Json) :
      ((Lookup.andThen (fun _ => .done (.ok Slip.empty)) (.done r)).run client).1 = [] := by
    cases r <;> rfl
  exact congrArg (List.cons _) (last _)

namespace Relay

section
variable {s : Switchboard} {q : Http.Request} {stamp : Stamp} {args : PaymentArgs} {slip : Slip}

/-- An errand for the wallet over HTTP is answered with what comes of an inquiry. -/
theorem request_payd {e : Errand} (w : Payd) (accepted : Http.Verdict.of false q = .errand e) :
    (payd w).request q stamp =
      (payd w, .answer ((w.lookupFor e stamp.now).map (.toErrand e q.isHead))) := by
  simp only [request, isServing, accepted, carryOut]

/-! ## Payments -/

/-- A slip carries the object that its text begins with. -/
theorem carries_of_ofLeading {title : String} {cs : List Symbol}
    (decoded : (Slip.decoder title).ofLeading cs = .ok slip) :
    ∃ o, Decoder.json.ofLeading cs = .ok (.ofDict o) ∧ slip.Carries o := by
  obtain ⟨o, read, holds, values⟩ := Slip.holds_of_ofLeading decoded
  exact ⟨o, read, holds.carries values⟩

/-- A payment that was accepted carries the object that its body begins with. -/
theorem posted_object {serving : Bool}
    (accepted : Http.Verdict.of serving q = .errand (.payment args slip)) :
    ∃ o, Decoder.json.ofLeading (Utf8.symbols q.body) = .ok (.ofDict o) ∧ slip.Carries o :=
  carries_of_ofLeading (Http.Verdict.brings_of_payment accepted).value

/-- A payment whose acknowledgement is waited for is the last message of every peer on the channel,
and is written last to every wallet that is connected there. -/
theorem payment_reaches {s' : Switchboard} {call : Nat} (capacity : 0 < s.bridge.hub.capacity)
    (accepted : Http.Verdict.of true q = .errand (.payment args slip))
    (taken : (sockets s).request q stamp = (sockets s', .wait call)) :
    (∀ id p, s.bridge.hub.peer? id = some p → p.channel = args.paymentId →
      ∃ p', s'.bridge.hub.peer? id = some p' ∧
        p'.unread.getLast? = some (paymentMessage args slip stamp)) ∧
    ∀ number x p, s.Connected number x p → x.channel = args.paymentId →
      ∃ y, (s'.write x).session? number = some y ∧
        y.unread.getLast? = some (.message (paymentMessage args slip stamp)) := by
  refine ⟨fun id p found joined => ?_, fun number x p connected joined => ?_⟩
  · obtain ⟨⟨n, published⟩, -⟩ := publish_of_payment accepted taken
    exact (Hub.publish_reached published found joined capacity).2
  · exact (payment_written connected joined capacity accepted taken).2

/-- A payment is waited for; or it is answered with an error and nobody is reached, for its id is
taken or its message cannot be published. -/
theorem payment_taken_or_refused
    (accepted : Http.Verdict.of true q = .errand (.payment args slip)) :
    (∃ s', (sockets s).request q stamp = (sockets s', .wait s.bridge.nextCall)) ∨
    ∃ s' r, (sockets s).request q stamp = (sockets s', now r) ∧ 400 ≤ r.status ∧
      s'.bridge.hub = s.bridge.hub ∧
      (s.bridge.registry.isPending stamp.correlation = true ∨
        ∃ e, (s.bridge.hub.publish args.paymentId (paymentMessage args slip stamp)).2 =
          .error e) := by
  have asks : Socket.dispatch (.payment args slip) stamp =
      .call .payment (paymentMessage args slip stamp) := rfl
  have taken := request_asked (s := s) accepted asks
  have dial : Bridge.dial (paymentMessage args slip stamp) s.limits.reply =
      ⟨.background, (paymentMessage args slip stamp).channel, paymentMessage args slip stamp,
        s.limits.reply⟩ := rfl
  rw [← dial] at taken
  -- The job has no context of its own, so only a taken id or the bus can stand in its way.
  cases free : s.bridge.registry.isPending stamp.correlation with
  | true =>
    have pending : s.bridge.registry.isPending
        ((Bridge.dial (paymentMessage args slip stamp) s.limits.reply).correlation
          stamp.correlation) = true := by
      rw [← free]
      exact congrArg _ (Bridge.correlation_dial (paymentMessage args slip stamp) s.limits.reply)
    rw [Bridge.start_of_pending rfl pending] at taken
    exact .inr ⟨s, _, taken, Job.status_of_error _ _, rfl, .inl rfl⟩
  | false =>
    have started : s.bridge.start (Bridge.dial (paymentMessage args slip stamp) s.limits.reply)
        stamp.correlation = _ :=
      Bridge.start_dial (m := paymentMessage args slip stamp) s.limits.reply free
    have channel : (paymentMessage args slip stamp).channel = args.paymentId := rfl
    rw [channel] at started
    rcases published : s.bridge.hub.publish args.paymentId (paymentMessage args slip stamp) with
      ⟨hub, e | n⟩
    · rw [published] at started
      rw [started] at taken
      exact .inr ⟨_, _, taken, Job.status_of_error _ _, rfl, .inr ⟨e, rfl⟩⟩
    · rw [published] at started
      rw [started] at taken
      exact .inl ⟨_, taken⟩

/-- The wallet over HTTP is sent the payment in one request. -/
theorem payment_submitted (w : Payd) (client : Exchange → Except Failure Json)
    (accepted : Http.Verdict.of false q = .errand (.payment args slip)) :
    ∃ i, (payd w).request q stamp = (payd w, .answer i) ∧ (i.run client).1 =
      [⟨.post, w.paymentsUrl args.paymentId, 204, some slip.encode.canonical⟩] := by
  refine ⟨_, request_payd w accepted, ?_⟩
  rw [Inquiry.run_map, Payd.lookupFor, Inquiry.run_map]
  exact Payd.run_submit client w args.paymentId slip

/-! ## Acknowledgements -/

/-- An acknowledgement is handed back as the object that the wallet replied, but for a mode or a memo
that is null. -/
theorem acknowledgement_handed_back {j : Job} {m : Message} {ack : Slip}
    (asks : j.question = .payment) (whole : j.head = false) (route : m.route = "payment.ack")
    (bound : m.bind Slip.acknowledgement = .ok ack) :
    j.respond (.ok m) = .json 201 ack.encode ∧
      ∃ o, m.body.canonical = .ofDict o ∧ ack.Carries o := by
  obtain ⟨-, o, body, holds, values⟩ := Slip.holds_of_ofJson bound
  refine ⟨?_, o, body, holds.carries values⟩
  rw [j.respond_eq_full, whole]
  exact (j.classified (.ok m)).acknowledgement asks m ack rfl route bound

end

/-! ## Without loss -/

/-- Payments and acknowledgements pass through without loss. An object is one of them when its mode
and its memo are texts, null or absent, and nothing else is; it is written as it was read, but for a
mode or a memo that is null, and no member twice. So a payment that was accepted reaches every peer
on the channel of its invoice, and every wallet that is connected there, with the object that was
posted, or it is answered with an error and reaches nobody; the wallet over HTTP is sent that object;
and a payment whose acknowledgement can be read is answered with the object that the wallet
replied. -/
theorem slips_pass_through :
    (∀ d : Decoder Slip, d = Slip.payment ∨ d = Slip.acknowledgement →
      (∀ o : Dict Json, (Json.ofDict o).canonical = .ofDict o →
        ((∃ slip, d.ofJson (.ofDict o) = .ok slip) ↔ Slip.Admits o) ∧
        ∀ slip, d.ofJson (.ofDict o) = .ok slip → slip.Carries o) ∧
      (∀ cs o, Decoder.json.ofLeading cs = .ok (.ofDict o) →
        (Document.read cs).1.unrepeated = true →
        ((∃ slip, d.ofLeading cs = .ok slip) ↔ Slip.Admits o)) ∧
      (∀ cs slip, d.ofLeading cs = .ok slip →
        ∃ o, Decoder.json.ofLeading cs = .ok (.ofDict o) ∧ slip.Carries o) ∧
      ∀ j slip, d.ofJson j = .ok slip → ∃ members, j = .object members) ∧
    (∀ (s : Switchboard) (q : Http.Request) (stamp : Stamp) (args : PaymentArgs) (slip : Slip),
      0 < s.bridge.hub.capacity → Http.Verdict.of true q = .errand (.payment args slip) →
      ∃ o m, Decoder.json.ofLeading (Utf8.symbols q.body) = .ok (.ofDict o) ∧
        m.route = "payment" ∧ m.body = .ofDict (Slip.stripped o) ∧
        ((∃ s' call, (sockets s).request q stamp = (sockets s', .wait call) ∧
            (∀ id p, s.bridge.hub.peer? id = some p → p.channel = args.paymentId →
              ∃ p', s'.bridge.hub.peer? id = some p' ∧ p'.unread.getLast? = some m) ∧
            ∀ number x p, s.Connected number x p → x.channel = args.paymentId →
              ∃ y, (s'.write x).session? number = some y ∧
                y.unread.getLast? = some (.message m)) ∨
          ∃ s' r, (sockets s).request q stamp = (sockets s', now r) ∧ 400 ≤ r.status ∧
            s'.bridge.hub = s.bridge.hub ∧
            (s.bridge.registry.isPending stamp.correlation = true ∨
              ∃ e, (s.bridge.hub.publish args.paymentId m).2 = .error e))) ∧
    (∀ (w : Payd) (q : Http.Request) (stamp : Stamp) (args : PaymentArgs) (slip : Slip),
      Http.Verdict.of false q = .errand (.payment args slip) →
      ∃ o, Decoder.json.ofLeading (Utf8.symbols q.body) = .ok (.ofDict o) ∧
        ∀ client, ∃ i, (payd w).request q stamp = (payd w, .answer i) ∧ (i.run client).1 =
          [⟨.post, w.paymentsUrl args.paymentId, 204, some (.ofDict (Slip.stripped o))⟩]) ∧
    ∀ (j : Job) (m : Message) (ack : Slip), j.question = .payment → j.head = false →
      m.route = "payment.ack" → m.bind Slip.acknowledgement = .ok ack →
      j.respond (.ok m) = .json 201 ack.encode ∧
        ∃ o, m.body.canonical = .ofDict o ∧ ack.Carries o := by
  refine ⟨?values, ?sockets, ?payd, fun j m ack => acknowledgement_handed_back⟩
  case values =>
    intro d known
    obtain ⟨title, rfl⟩ : ∃ title, d = Slip.decoder title := by
      rcases known with rfl | rfl
      · exact ⟨_, rfl⟩
      · exact ⟨_, rfl⟩
    refine ⟨fun o canonical => ⟨Slip.ofJson_iff_admits title canonical, fun slip decoded => ?_⟩,
      fun cs o => Slip.ofLeading_iff_admits title, fun cs slip => carries_of_ofLeading,
      fun j slip decoded => (Slip.holds_of_ofJson decoded).1⟩
    obtain ⟨-, o', same, holds, values⟩ := Slip.holds_of_ofJson decoded
    obtain rfl : o' = o := Json.ofDict_injective (same.symm.trans canonical)
    exact holds.carries values
  case sockets =>
    intro s q stamp args slip capacity accepted
    obtain ⟨o, read, carries⟩ := posted_object accepted
    refine ⟨o, paymentMessage args slip stamp, read, rfl, carries.value, ?_⟩
    rcases @payment_taken_or_refused s q stamp args slip accepted with ⟨s', taken⟩ | refused
    · obtain ⟨peers, wallets⟩ := payment_reaches capacity accepted taken
      exact .inl ⟨s', _, taken, peers, wallets⟩
    · exact .inr refused
  case payd =>
    intro w q stamp args slip accepted
    obtain ⟨o, read, carries⟩ := posted_object accepted
    refine ⟨o, read, fun client => ?_⟩
    rw [← carries.value]
    exact payment_submitted w client accepted

/-- A payment with a memo that is null, one that reaches a wallet in either way, and its
acknowledgement. -/
theorem slips_pass_through_served :
    (∃ slip, Slip.payment.ofJson (.ofDict ((Dict.empty.insert "memo" .null).insert "tx" (.text "00")))
        = .ok slip ∧ slip.encode.canonical = .object [("tx", .text "00")]) ∧
    (∃ o m s' p', Decoder.json.ofLeading (Utf8.symbols (Http.Request.nested 1).body) =
        .ok (.ofDict o) ∧ m.body = .ofDict (Slip.stripped o) ∧
      (sockets (.wired 10000)).request (.nested 1) sampleStamp = (sockets s', .wait 0) ∧
      s'.bridge.hub.peer? 1 = some p' ∧ p'.unread.getLast? = some m) ∧
    (∃ o i, Decoder.json.ofLeading (Utf8.symbols (Http.Request.nested 1).body) =
        .ok (.ofDict o) ∧
      (payd ⟨"http://payd", ""⟩).request (.nested 1) sampleStamp =
        (payd ⟨"http://payd", ""⟩, .answer i) ∧
      (i.run fun _ => .ok .null).1 = [⟨.post, "http://payd/api/v1/payments?invoiceID=inv-1", 204,
        some (.ofDict (Slip.stripped o))⟩]) ∧
    (Job.mk 0 (.payment ⟨"inv-1"⟩ (.nested 1)) .payment "e-1" false).respond
        (.ok { Message.new "payment.ack" "inv-1" .epoch with body := .object [] }) =
      .json 201 (.object []) := by
  obtain ⟨values, published, submitted, acknowledged⟩ := slips_pass_through
  have fits : 1 < Source.maxDepth := by decide
  have short : (Slip.nested 1).encode.size ≤ Http.bodyLimit := by decide +kernel
  have small : (paymentMessage ⟨"inv-1"⟩ (.nested 1) sampleStamp).size ≤ 10000 := by decide +kernel
  refine ⟨?_, ?_, ?_, (acknowledged _ _ .empty rfl rfl rfl rfl).1⟩
  · obtain ⟨read, -, -⟩ := values Slip.payment (.inl rfl)
    obtain ⟨iff, carries⟩ := read ((Dict.empty.insert "memo" .null).insert "tx" (.text "00")) rfl
    have admits : Slip.Admits ((Dict.empty.insert "memo" .null).insert "tx" (.text "00")) := by
      rintro key (rfl | rfl) j there
      · simp [Dict.find?_insert, Dict.find?_empty] at there
      · simp [Dict.find?_insert] at there
        exact .inl there.symm
    obtain ⟨slip, decoded⟩ := iff.mpr admits
    exact ⟨slip, decoded, (carries slip decoded).value⟩
  · obtain ⟨o, m, read, -, body, ⟨s', call, taken, peers, -⟩ | ⟨s', r, refused, -⟩⟩ :=
      published (.wired 10000) (.nested 1) sampleStamp ⟨"inv-1"⟩ (.nested 1)
        (Hub.capacity_pos 4 10000) (Http.Verdict.of_nested fits short)
    · obtain ⟨p', there, last⟩ := peers 1 _ (Switchboard.connected_wired 10000).found rfl
      obtain ⟨s'', waits⟩ := request_nested fits short small
      obtain rfl : s'' = s' := Relay.sockets.inj (Prod.mk.inj (waits.symm.trans taken)).1
      exact ⟨o, m, s'', p', read, body, waits, there, last⟩
    · obtain ⟨s'', waits⟩ := request_nested fits short small
      rw [refused] at waits
      cases (Prod.mk.inj waits).2
  · obtain ⟨o, read, posts⟩ := submitted ⟨"http://payd", ""⟩ (.nested 1) sampleStamp ⟨"inv-1"⟩
      (.nested 1) (Http.Verdict.accepts_nested false fits short)
    obtain ⟨i, taken, made⟩ := posts fun _ => .ok .null
    exact ⟨o, i, read, taken, made⟩

end Relay

end PaymentRelay
