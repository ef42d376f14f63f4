import PaymentRelay.Proofs.Failure.Answer
import PaymentRelay.Proofs.Relay.Board
import PaymentRelay.Proofs.Relay.Outbound

/-
  What a payer is told of the end of a call.

  A question that was put to the wallets of an invoice ends in one of four ways: with its answer,
  with an error that a wallet has replied, without any wallet that serves the invoice, or with a
  fault. One lemma for each way says what the socket makes of it (`conclude_answered`,
  `conclude_refused`, `conclude_unserved`, `conclude_failed`), and the mapper of failures says what
  becomes of that. The four have statuses of their own, so the status tells which of them it was
  (`Job.classified`). Every request that asks such a question is answered in this way, whether its
  call could not start or ends later (`Relay.wallet_outcomes_classified`).
-/

namespace PaymentRelay

/-! ## The ends of a call -/

namespace Question

/-- The call has ended with the answer. -/
def Answered (q : Question) (outcome : Outcome) (receipt : Receipt) : Prop :=
  ∃ m, outcome = .ok m ∧ m.route = q.answerRoute ∧ m.bind q.answer = .ok receipt

/-- A wallet has replied an error in place of the answer. -/
def Refused (q : Question) (outcome : Outcome) (r : ErrorRecord) : Prop :=
  ∃ m, outcome = .ok m ∧ m.route = q.errorRoute ∧ m.bind ErrorRecord.record.decoder = .ok r

/-- No wallet serves the invoice. -/
def Unserved (outcome : Outcome) : Prop := ∃ channel, outcome = .error (.channelNotFound channel)

/-- The call has ended in no way that a payer is told of. -/
structure Failed (q : Question) (outcome : Outcome) : Prop where
  unanswered : ∀ receipt, ¬ q.Answered outcome receipt
  served : ¬ Unserved outcome
  unrefused : ∀ r, ¬ q.Refused outcome r

/-- A call ends in one of these four ways. -/
theorem ends (q : Question) (outcome : Outcome) :
    (∃ receipt, q.Answered outcome receipt) ∨ Unserved outcome ∨
      (∃ record, q.Refused outcome record) ∨ q.Failed outcome := by
  by_contra none
  simp only [not_or, not_exists] at none
  obtain ⟨unanswered, served, unrefused, unfailed⟩ := none
  exact unfailed ⟨unanswered, served, unrefused⟩

theorem routes_differ (q : Question) : q.errorRoute ≠ q.answerRoute := by
  cases q <;> decide

/-- Every body answers the question for terms. -/
theorem bind_terms (m : Message) : m.bind terms.answer = .ok (.terms m.body.canonical) := by
  rw [Message.bind, Decoder.ofJson, answer, Decoder.map, Decoder.json, Decoder.toJson?_value]
  rfl

/-- An acknowledgement answers a payment. -/
theorem bind_payment (m : Message) {receipt : Receipt} :
    m.bind payment.answer = .ok receipt ↔
      ∃ ack, m.bind Slip.acknowledgement = .ok ack ∧ receipt = .acknowledgement ack := by
  have mapped : m.bind payment.answer = (m.bind Slip.acknowledgement).map .acknowledgement := rfl
  rw [mapped, Decoder.map_eq_ok_iff]
  exact exists_congr fun ack => and_congr_right fun _ => eq_comm

/-- The status of the answer. -/
def success : Question → Nat
  | terms => 200
  | payment => 201

theorem success_lt (q : Question) : q.success < 400 := by
  cases q <;> decide

theorem status_answer {q : Question} {m : Message} {receipt : Receipt}
    (bound : m.bind q.answer = .ok receipt) :
    (Http.Response.ofReceipt receipt).status = q.success := by
  cases q with
  | terms =>
    rw [bind_terms] at bound
    cases bound
    rfl
  | payment =>
    obtain ⟨ack, -, rfl⟩ := (bind_payment m).mp bound
    rfl

end Question

/-! ## What the socket makes of it -/

namespace Socket

variable {q : Question} {outcome : Outcome} (errorId : String)

theorem conclude_answered {receipt : Receipt} (answered : q.Answered outcome receipt) :
    conclude errorId q outcome = .ok receipt := by
  obtain ⟨m, rfl, route, bound⟩ := answered
  simp only [conclude, route, if_true, read, bound]
  rfl

theorem conclude_unserved (unserved : Question.Unserved outcome) :
    conclude errorId q outcome = .error (.client (invoiceNotFound errorId)) := by
  obtain ⟨channel, rfl⟩ := unserved
  rfl

theorem conclude_refused {r : ErrorRecord} (refused : q.Refused outcome r) :
    conclude errorId q outcome = .error (.client (.ofRecord errorId r)) := by
  obtain ⟨m, rfl, route, bound⟩ := refused
  simp only [conclude, route, q.routes_differ, if_false, if_true, payeeFailure, read, bound]
  rfl

/-- Only who submits a payment asks for an acknowledgement, and only who asks for terms asks for
terms. -/
theorem asked_by {e : Errand} {stamp : Stamp} {m : Message}
    (asks : dispatch e stamp = .call q m) :
    (q = .payment ↔ ∃ args slip, e = .payment args slip) ∧
      (q = .terms ↔ ∃ args, e = .terms args) := by
  cases e with
  | terms args =>
    cases asks
    exact ⟨iff_of_false nofun nofun, iff_of_true rfl ⟨args, rfl⟩⟩
  | payment args slip =>
    cases asks
    exact ⟨iff_of_true rfl ⟨args, slip, rfl⟩, iff_of_false nofun nofun⟩
  | proof args proof => cases asks

/-- Any other end is an internal failure. -/
theorem conclude_failed (failed : q.Failed outcome) :
    ∃ f, f.Internal ∧ conclude errorId q outcome = .error f := by
  -- An error is internal unless the channel was not found; a reply, unless its route is one of the
  -- two that are waited for and its body can be read there.
  cases outcome with
  | error e =>
    have served : e.isChannelNotFound = false := by
      cases e with
      | channelNotFound channel => exact absurd ⟨channel, rfl⟩ failed.served
      | _ => rfl
    refine ⟨.context q.callDescription (.call e), trivial, ?_⟩
    simp only [conclude, callFailure, served, Bool.false_eq_true, if_false]
  | ok m =>
    by_cases answers : m.route = q.answerRoute
    · cases bound : m.bind q.answer with
      | ok receipt => exact absurd ⟨m, rfl, answers, bound⟩ (failed.unanswered receipt)
      | error unread =>
        refine ⟨.context q.answerDescription (.ofBus (.notDecodable unread)), trivial, ?_⟩
        simp only [conclude, answers, if_true, read, bound]
        rfl
    · by_cases refuses : m.route = q.errorRoute
      · cases bound : m.bind ErrorRecord.record.decoder with
        | ok r => exact absurd ⟨m, rfl, refuses, bound⟩ (failed.unrefused r)
        | error unread =>
          refine ⟨.context "failed to bind error response from payee" (.ofBus (.notDecodable unread)),
            trivial, ?_⟩
          simp only [conclude, refuses, q.routes_differ, if_false, if_true, payeeFailure, read,
            bound]
          rfl
      · refine ⟨.unexpectedRoute m.route, trivial, ?_⟩
        simp only [conclude, answers, refuses, if_false]

end Socket

/-! ## What the payer is told -/

/-- The statuses of the codes of wallets; every other code has 400. -/
def ErrorKind.walletStatuses : List (String × Nat) :=
  [("400", 400), ("401", 403), ("403", 401), ("404", 404), ("N0001", 404), ("409", 409),
    ("422", 422)]

theorem ErrorKind.status_ofWalletCode (code : String) :
    (ofWalletCode code).status = (Dict.lookup code walletStatuses).getD 400 := by
  unfold ofWalletCode walletStatuses
  simp only [Dict.lookup]
  split_ifs <;> simp_all [status]

/-- Whatever its code, the error of a wallet is the client's. -/
theorem ErrorKind.walletStatus_clientError (code : String) :
    400 ≤ (Dict.lookup code walletStatuses).getD 400 ∧
      (Dict.lookup code walletStatuses).getD 400 < 500 := by
  unfold walletStatuses
  simp only [Dict.lookup]
  split_ifs <;> decide

/-- What a payer is told of the end of a call: which ends have the status of the answer, which have
that of a client error, and the whole response for each end. -/
structure Http.Classified (question : Question) (outcome : Outcome) (r : Http.Response) : Prop where
  created : question = .payment →
    (r.status = 201 ↔ ∃ m ack, outcome = .ok m ∧ m.route = "payment.ack" ∧
      m.bind Slip.acknowledgement = .ok ack)
  acknowledgement : question = .payment → ∀ m ack, outcome = .ok m → m.route = "payment.ack" →
    m.bind Slip.acknowledgement = .ok ack → r = .json 201 ack.encode
  found : question = .terms →
    (r.status = 200 ↔ ∃ m, outcome = .ok m ∧ m.route = "paymentterms.response")
  terms : question = .terms → ∀ m, outcome = .ok m → m.route = "paymentterms.response" →
    r = .json 200 m.body.canonical
  clientError : (400 ≤ r.status ∧ r.status < 500) ↔
    Question.Unserved outcome ∨ ∃ record, question.Refused outcome record
  unserved : Question.Unserved outcome → r = .json 404 (.text "invoice not found")
  refused : ∀ record, question.Refused outcome record →
    r = .json ((Dict.lookup record.code ErrorKind.walletStatuses).getD 400) (.text record.message)
  failed : question.Failed outcome → r = .json 500 (.text "Internal Server Error")

namespace Job

variable (j : Job) {outcome : Outcome}

/-- The response with its body, also if the client asked for the head alone. -/
def full (outcome : Outcome) : Http.Response :=
  .ofResult (j.errand.conclude (Socket.conclude j.errorId j.question outcome))

theorem respond_eq_full (outcome : Outcome) :
    j.respond outcome = if j.head then (j.full outcome).headOnly else j.full outcome := rfl

theorem full_answered {receipt : Receipt} (answered : j.question.Answered outcome receipt) :
    j.full outcome = .ofReceipt receipt := by
  rw [full, Socket.conclude_answered _ answered]
  rfl

theorem full_unserved (unserved : Question.Unserved outcome) :
    j.full outcome = .json 404 (.text "invoice not found") := by
  rw [full, Socket.conclude_unserved _ unserved]
  rfl

theorem full_refused {record : ErrorRecord} (refused : j.question.Refused outcome record) :
    j.full outcome = .json ((Dict.lookup record.code ErrorKind.walletStatuses).getD 400)
      (.text record.message) := by
  rw [full, Socket.conclude_refused _ refused, ← ErrorKind.status_ofWalletCode]
  rfl

theorem full_failed (failed : j.question.Failed outcome) :
    j.full outcome = .json 500 (.text "Internal Server Error") := by
  obtain ⟨f, hidden, concluded⟩ := Socket.conclude_failed j.errorId failed
  have answer : (Failure.context j.errand.description f).answer = _ := Failure.answer_internal hidden
  rw [full, concluded, Errand.conclude, Failure.describe]
  show Http.Response.json (Failure.context _ f).answer.status (Failure.context _ f).answer.body = _
  rw [answer]
  rfl

/-- The status of an end that is no answer is that of an error, and less than 500 if it is one of the
client's. -/
theorem status_unanswered (unanswered : ∀ receipt, ¬ j.question.Answered outcome receipt) :
    400 ≤ (j.full outcome).status ∧ ((j.full outcome).status < 500 ↔
      Question.Unserved outcome ∨ ∃ record, j.question.Refused outcome record) := by
  rcases j.question.ends outcome with ⟨receipt, answered⟩ | unserved | ⟨record, refused⟩ | failed
  · exact absurd answered (unanswered receipt)
  · rw [j.full_unserved unserved]
    exact ⟨by decide, iff_of_true (by decide) (.inl unserved)⟩
  · obtain ⟨low, high⟩ := ErrorKind.walletStatus_clientError record.code
    rw [j.full_refused refused]
    exact ⟨low, iff_of_true high (.inr ⟨record, refused⟩)⟩
  · rw [j.full_failed failed]
    refine ⟨by decide, iff_of_false (by decide) ?_⟩
    rintro (unserved | ⟨record, refused⟩)
    · exact failed.served unserved
    · exact failed.unrefused record refused

/-- A call without a reply is answered with an error. -/
theorem status_of_error (e : CallError) : 400 ≤ (j.respond (.error e)).status := by
  have unanswered (receipt) : ¬ j.question.Answered (.error e) receipt := by
    rintro ⟨m, ended, -⟩
    cases ended
  have same : (j.respond (.error e)).status = (j.full (.error e)).status := by
    rw [respond_eq_full]
    split <;> rfl
  rw [same]
  exact (j.status_unanswered unanswered).1

theorem status_answered {receipt : Receipt} (answered : j.question.Answered outcome receipt) :
    (j.full outcome).status = j.question.success := by
  rw [j.full_answered answered]
  obtain ⟨m, -, -, bound⟩ := answered
  exact Question.status_answer bound

/-- The status is that of the answer for an answer only. -/
theorem status_success_iff {q : Question} (asks : j.question = q) :
    (j.full outcome).status = q.success ↔ ∃ receipt, q.Answered outcome receipt := by
  subst asks
  refine ⟨fun success => ?_, fun ⟨receipt, answered⟩ => j.status_answered answered⟩
  by_contra unanswered
  have error := (j.status_unanswered (not_exists.mp unanswered)).1
  have low := j.question.success_lt
  omega

theorem status_clientError_iff :
    (400 ≤ (j.full outcome).status ∧ (j.full outcome).status < 500) ↔
      Question.Unserved outcome ∨ ∃ record, j.question.Refused outcome record := by
  by_cases answered : ∃ receipt, j.question.Answered outcome receipt
  · obtain ⟨receipt, m, rfl, route, bound⟩ := answered
    have success := j.status_answered ⟨m, rfl, route, bound⟩
    have low := j.question.success_lt
    -- An answer is below 400, and its route is not that of an error.
    refine iff_of_false (by omega) ?_
    rintro (⟨channel, unserved⟩ | ⟨record, m', same, refused, -⟩)
    · cases unserved
    · cases same
      exact j.question.routes_differ (refused.symm.trans route)
  · obtain ⟨error, iff⟩ := j.status_unanswered (not_exists.mp answered)
    rw [← iff]
    exact and_iff_right error

theorem classified (outcome : Outcome) : Http.Classified j.question outcome (j.full outcome) where
  created asks := by
    refine (j.status_success_iff asks).trans ⟨?_, ?_⟩
    · rintro ⟨receipt, m, ended, route, bound⟩
      obtain ⟨ack, bound, -⟩ := (Question.bind_payment m).mp bound
      exact ⟨m, ack, ended, route, bound⟩
    · rintro ⟨m, ack, ended, route, bound⟩
      exact ⟨.acknowledgement ack, m, ended, route, (Question.bind_payment m).mpr ⟨ack, bound, rfl⟩⟩
  acknowledgement asks m ack ended route bound := by
    have answered : Question.payment.Answered outcome (.acknowledgement ack) :=
      ⟨m, ended, route, (Question.bind_payment m).mpr ⟨ack, bound, rfl⟩⟩
    exact j.full_answered (asks ▸ answered)
  found asks := by
    refine (j.status_success_iff asks).trans ⟨?_, ?_⟩
    · rintro ⟨receipt, m, ended, route, -⟩
      exact ⟨m, ended, route⟩
    · rintro ⟨m, ended, route⟩
      exact ⟨_, m, ended, route, Question.bind_terms m⟩
  terms asks m ended route := by
    have answered : Question.terms.Answered outcome (.terms m.body.canonical) :=
      ⟨m, ended, route, Question.bind_terms m⟩
    exact j.full_answered (asks ▸ answered)
  clientError := j.status_clientError_iff
  unserved := j.full_unserved
  refused _ := j.full_refused
  failed := j.full_failed

end Job

/-! ## Requests -/

/-- A call that is started has the next number. -/
theorem Bridge.number_of_start {b b' : Bridge} {d : Dial} {fresh : String} {number : Nat}
    (started : b.start d fresh = (b', .ok number)) : number = b.nextCall := by
  rcases b.start_cases d fresh with ⟨e, eq⟩ | ⟨-, e, eq⟩ | ⟨-, -, peers, published, -, eq⟩
  · rw [eq] at started
    cases started
  · rw [eq] at started
    cases started
  · rw [eq] at started
    cases started
    rfl

/-- The job that was filed last is the one that is answered, if no earlier one has its number. -/
theorem Switchboard.mem_respond_filed {s : Switchboard} {jobs : List Job} {j : Job}
    (filed : s.jobs = jobs ++ [j]) (own : ∀ k ∈ jobs, k.number ≠ j.number)
    {outcomes : List (Nat × Outcome)} (distinct : (outcomes.map (·.1)).Nodup) {outcome : Outcome}
    (ended : (j.number, outcome) ∈ outcomes) :
    (j.number, j.respond outcome) ∈ (s.respond outcomes).2 := by
  have found : s.jobs.find? (fun k => k.number = j.number) = some j := by
    rw [filed, List.find?_append, List.find?_eq_none.mpr (by simpa using own)]
    simp
  rw [respond_eq s distinct]
  refine List.mem_filterMap.mpr ⟨(j.number, outcome), ended, ?_⟩
  rw [found]
  rfl

namespace Relay

variable {s : Switchboard} {q : Http.Request} {stamp : Stamp} {e : Errand} {question : Question}
  {m : Message}

/-- A request that asks a question is answered at once if its call cannot start; else its job is
filed under the number of its call. -/
theorem request_asked (accepted : Http.Verdict.of true q = .errand e)
    (asks : Socket.dispatch e stamp = .call question m) :
    let j : Job := ⟨s.bridge.nextCall, e, question, stamp.errorId, q.isHead⟩
    (sockets s).request q stamp =
      match s.bridge.start ⟨.background, m.channel, m, s.limits.reply⟩ stamp.correlation with
      | (b, .error failure) => (sockets { s with bridge := b }, now (j.respond (.error failure)))
      | (b, .ok _) => (sockets { s with bridge := b, jobs := s.jobs ++ [j] }, .wait j.number) := by
  intro j
  rw [request_call accepted asks, Switchboard.call]
  rcases started : s.bridge.start ⟨.background, m.channel, m, s.limits.reply⟩ stamp.correlation with
    ⟨b, failure | number⟩
  · rfl
  · obtain rfl : number = j.number := Bridge.number_of_start started
    rfl

/-- Every request that asks a question is answered as its call ends: at once if the call cannot
start, and else when it is among the calls that have ended. What the payer is told is classified,
whatever the end of the call; those who ask for the head alone are told the same without a body. -/
theorem wallet_outcomes_classified (accepted : Http.Verdict.of true q = .errand e)
    (asks : Socket.dispatch e stamp = .call question m) :
    let j : Job := ⟨s.bridge.nextCall, e, question, stamp.errorId, q.isHead⟩
    ((question = .payment ↔ ∃ args slip, e = .payment args slip) ∧
      (question = .terms ↔ ∃ args, e = .terms args)) ∧
    (match s.bridge.start ⟨.background, m.channel, m, s.limits.reply⟩ stamp.correlation with
      | (b, .error failure) => (sockets s).request q stamp =
          (sockets { s with bridge := b }, now (j.respond (.error failure)))
      | (b, .ok _) =>
        ∃ s', s'.bridge = b ∧ (sockets s).request q stamp = (sockets s', .wait j.number) ∧
          ((∀ k ∈ s.jobs, k.number ≠ j.number) →
            ∀ outcomes, (outcomes.map (·.1)).Nodup → ∀ outcome, (j.number, outcome) ∈ outcomes →
              (j.number, j.respond outcome) ∈ (s'.respond outcomes).2)) ∧
    ∀ outcome, ∃ r, Http.Classified question outcome r ∧
      j.respond outcome = if q.isHead then r.headOnly else r := by
  intro j
  have taken := request_asked (s := s) accepted asks
  refine ⟨Socket.asked_by asks, ?_,
    fun outcome => ⟨j.full outcome, j.classified outcome, j.respond_eq_full outcome⟩⟩
  rcases started : s.bridge.start ⟨.background, m.channel, m, s.limits.reply⟩ stamp.correlation with
    ⟨b, failure | number⟩
  · rw [started] at taken
    exact taken
  · rw [started] at taken
    exact ⟨_, rfl, taken, fun own outcomes distinct outcome ended =>
      Switchboard.mem_respond_filed rfl own distinct ended⟩

/-- A wallet that does not know who pays, which it says with a code of 403. -/
theorem wallet_outcomes_classified_unknown :
    let record : ErrorRecord := ⟨"", "403", "", "who are you"⟩
    let reply : Message :=
      { Message.new "payment.error" "inv-1" .epoch with body := ErrorRecord.record.encode record }
    Http.Verdict.of true (.nested 1) = .errand (.payment ⟨"inv-1"⟩ (.nested 1)) ∧
      (Job.mk 0 (.payment ⟨"inv-1"⟩ (.nested 1)) .payment "e-1" false).respond (.ok reply) =
        .json 401 (.text "who are you") := by
  intro record reply
  have accepted := Http.Verdict.of_nested (n := 1) (by decide) (by decide +kernel)
  have refused : Question.payment.Refused (.ok reply) record := ⟨reply, rfl, rfl, rfl⟩
  have asks : Socket.dispatch (.payment ⟨"inv-1"⟩ (.nested 1)) sampleStamp =
      .call .payment (paymentMessage ⟨"inv-1"⟩ (.nested 1) sampleStamp) := rfl
  obtain ⟨-, -, classified⟩ := wallet_outcomes_classified (s := .wired 10000) accepted asks
  obtain ⟨r, told, respond⟩ := classified (.ok reply)
  exact ⟨accepted, respond.trans (told.refused record refused)⟩

end Relay

end PaymentRelay
