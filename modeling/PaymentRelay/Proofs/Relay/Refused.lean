import PaymentRelay.Proofs.Http.Refused
import PaymentRelay.Proofs.Relay.Handover
import PaymentRelay.Proofs.Relay.Notice

/-
  A request that is refused changes nothing.

  An errand is checked when it is read of a request, so that whatever a wallet may stand behind a
  relay, it only hears of errands that leave no field empty (`Http.Verdict.emptyFields_of_errand`).
  The relays without sockets serve an errand as any service does in front of a store
  (`Relay.noop_serves`, `Relay.payd_serves`).

  So the relay that serves wallets over sockets is the same after a request that it refuses, with
  all that waits in it (`Relay.refused_requests_change_nothing`). A body counts by the value that it
  begins with: text after it is ignored, and the request is taken (`Relay.trailing_text_taken`).
-/

namespace PaymentRelay

namespace Http.Verdict

/-- An errand that goes on to a wallet leaves no field empty. -/
theorem emptyFields_of_errand {serving : Bool} {q : Request} {e : Errand}
    (accepted : of serving q = .errand e) : e.emptyFields = [] :=
  Errand.check_eq_ok_iff.mp (errand_cases accepted).1

end Http.Verdict

namespace Relay

section
variable {r : Relay} {q : Http.Request} {e : Errand} {stamp : Stamp}

/-- A request that is answered at once changes nothing. -/
theorem request_of_respond {response : Http.Response}
    (refused : Http.Verdict.of r.isServing q = .respond response) :
    r.request q stamp = (r, now response) := by
  rw [request, refused]

/-- An errand of a request is carried out if it leaves no field empty, and else it is answered with
what is wrong with it. -/
theorem request_of_ofErrand (read : Http.Verdict.of r.isServing q = .ofErrand e) :
    r.request q stamp =
      if e.emptyFields = [] then r.carryOut e stamp q.isHead
      else (r, now (.ofFailure (.validation (Violations.ofChecks e.checks)))) := by
  rw [request, read, Http.Verdict.ofErrand, Errand.check_eq]
  by_cases filled : e.emptyFields = []
  · simp only [if_pos filled]
  · simp only [if_neg filled]

/-! ## Relays as services -/

/-- Without a wallet, the store gives its fixed answers. -/
theorem noop_serves (read : Http.Verdict.of false q = .ofErrand e) (whole : q.isHead = false) :
    noop.request q stamp =
      (noop, now (.ofResult (e.serve (m := Id) fun e => .ok (Noop.answer e)))) := by
  have read : Http.Verdict.of noop.isServing q = .ofErrand e := read
  rw [request_of_ofErrand read, Errand.serve, Errand.check_eq, whole]
  split <;> rfl

/-- The store that looks things up at a wallet over HTTP, and notes the requests that it makes. -/
def lookupStore (w : Payd) (client : Exchange → Except Failure Json) (now : Timestamp)
    (e : Errand) : StateM (List Exchange) (Except Failure Receipt) :=
  fun made =>
    let (more, result) := (w.lookupFor e now).run client
    (result, made ++ more)

theorem payd_serves {w : Payd} (client : Exchange → Except Failure Json)
    (read : Http.Verdict.of false q = .ofErrand e) (whole : q.isHead = false) :
    ∃ i, (payd w).request q stamp = (payd w, .answer i) ∧
      i.run client =
        let (result, made) := (e.serve (lookupStore w client stamp.now)).run []
        (made, .ofResult result) := by
  have read : Http.Verdict.of (payd w).isServing q = .ofErrand e := read
  rw [request_of_ofErrand read, Errand.serve, Errand.check_eq, whole]
  split
  · refine ⟨_, rfl, ?_⟩
    rw [Inquiry.run_map]
    rfl
  · exact ⟨_, rfl, rfl⟩

/-! ## Nothing changes -/

open Http in
/-- The relay that serves wallets over sockets is the same after a request that it refuses, whatever
waits in it, and answers it at once: a path that leads nowhere is not found; a payment or a proof
whose body holds no value of its type is refused with a text; and a proof with a good body and no
reference is refused for its reference. Just so an errand that leaves fields empty is refused for
these fields, at any service and at any relay, and no store hears of it. -/
theorem refused_requests_change_nothing (s : Switchboard) (q : Request) (stamp : Stamp) :
    let r := sockets s
    ((∀ p : Endpoint, p.IsThere true → q.path ≠ p.path) →
      r.request q stamp = (r, now (.json 404 (.text "Not Found")))) ∧
    (∀ id text, q.method = "POST" → q.path = (Endpoint.payment id).path → Endpoint.IsSegment id →
      Percent.text? (Utf8.bytes id) = some text → (∀ slip, ¬q.Brings Slip.payment slip) →
      ∃ detail, r.request q stamp = (r, now (.json 400 (.text detail)))) ∧
    (∀ txId text, q.method = "POST" → q.path = (Endpoint.proofs txId).path →
      Endpoint.IsSegment txId → Percent.text? (Utf8.bytes txId) = some text →
      q.references.length ≤ 1 →
      ((∀ proof, ¬q.Brings Envelope.record.decoder proof) →
        ∃ detail, r.request q stamp = (r, now (.json 400 (.text detail)))) ∧
      ∀ proof, q.Brings Envelope.record.decoder proof → (∀ ref ∈ q.references, ref = "") →
        r.request q stamp = (r, now (.json 400 (.object [("errors", .object
          [("paymentReference", .array [.text "value cannot be empty"])])])))) ∧
    ∀ e : Errand, e.emptyFields ≠ [] → ∃ v : Violations,
      (∀ field, v.messages? field =
        if field ∈ e.emptyFields then some ["value cannot be empty"] else none) ∧
      (∀ (m : Type → Type) [Monad m] (store : Errand → m (Except Failure Receipt)),
        e.serve store = pure (.error (.validation v))) ∧
      ∀ r : Relay, Verdict.of r.isServing q ≠ .errand e ∧
        (Verdict.of r.isServing q = .ofErrand e →
          r.request q stamp = (r, now (.ofFailure (.validation v)))) := by
  intro r
  refine ⟨fun nowhere => ?_, fun id text post path segment decoded bad => ?_,
    fun txId text post path segment decoded single => ⟨fun bad => ?_, fun proof good empty => ?_⟩,
    fun e left => ⟨Violations.ofChecks e.checks, e.messages?_ofChecks,
      fun m _ store => e.serve_of_empty store left, fun r => ⟨?_, fun read => ?_⟩⟩⟩
  · exact request_of_respond (Verdict.of_nowhere nowhere)
  · obtain ⟨detail, refused⟩ := Verdict.payment_refused decoded bad
    exact ⟨detail, request_of_respond ((Verdict.of_post_payment post path segment).trans refused)⟩
  · obtain ⟨detail, refused⟩ := Verdict.proof_refused decoded single bad
    exact ⟨detail, request_of_respond ((Verdict.of_post_proof post path segment).trans refused)⟩
  · exact request_of_respond ((Verdict.of_post_proof post path segment).trans
      (Verdict.proof_unreferenced segment decoded single good empty))
  · exact fun accepted => left (Verdict.emptyFields_of_errand accepted)
  · rw [request_of_ofErrand read, if_neg left]

end

/-! ## Proofs with and without text after them -/

/-- A request with a proof, and some text after it. -/
def handedIn (query tail : String) : Http.Request where
  method := "POST"
  path := "/api/v1/proofs/tx-1"
  query
  headers := [("content-type", "application/json")]
  body := Utf8.bytes ("\x7b\"payload\":\"p\"\x7d" ++ tail)
  upgradable := false

theorem handedIn_brings {query tail : String} (short : tail = "" ∨ tail = " x") :
    (handedIn query tail).Brings Envelope.record.decoder (.unsigned "p") where
  json := rfl
  short := by
    show (Utf8.bytes _).length ≤ Http.bodyLimit
    rcases short with rfl | rfl <;> decide +kernel
  value := Decoder.toOption_eq_some_iff.mp (by
    show (Envelope.record.decoder.ofLeading (Utf8.symbols (Utf8.bytes _))).toOption = _
    rcases short with rfl | rfl <;> decide +kernel)

theorem segment_tx : Http.Endpoint.IsSegment "tx-1" := ⟨by decide, by decide⟩

theorem text_tx : Percent.text? (Utf8.bytes "tx-1") = some "tx-1" := by decide +kernel

/-- A path that leads nowhere, a payment that is not said to be JSON, and a proof without a
reference. -/
theorem refused_requests_change_nothing_wired :
    let s := Switchboard.wired 10000
    (sockets s).request { handedIn "" "" with path := "/api/v1/proof" } sampleStamp =
      (sockets s, now (.json 404 (.text "Not Found"))) ∧
    (∃ detail, (sockets s).request
        { handedIn "" "" with path := "/api/v1/payment/tx-1", headers := [] } sampleStamp =
      (sockets s, now (.json 400 (.text detail)))) ∧
    (sockets s).request (handedIn "" "") sampleStamp =
      (sockets s, now (.json 400 (.object [("errors",
        .object [("paymentReference", .array [.text "value cannot be empty"])])]))) := by
  intro s
  refine ⟨?_, ?_, ?_⟩
  · refine (refused_requests_change_nothing s _ sampleStamp).1 ?_
    exact Http.Endpoint.ofPath?_eq_none_iff.mp (by decide +kernel)
  · refine (refused_requests_change_nothing s _ sampleStamp).2.1 "tx-1" "tx-1" rfl rfl segment_tx
      text_tx ?_
    exact fun slip good => absurd good.json (by decide)
  · have none : (handedIn "" "").references = [] := by decide +kernel
    refine ((refused_requests_change_nothing s _ sampleStamp).2.2.1 "tx-1" "tx-1" rfl rfl segment_tx
      text_tx (by simp [none])).2 (.unsigned "p") (handedIn_brings (.inl rfl)) (by simp [none])

/-- A body that is not JSON, because text comes after a proof, is taken all the same. -/
theorem trailing_text_taken :
    let q := handedIn "i=inv-1" " x"
    (∀ j, Decoder.json.ofSymbols (Utf8.symbols q.body) ≠ .ok j) ∧
      ∃ s', (sockets (.wired 10000)).request q sampleStamp = (sockets s', now (.empty 201)) := by
  intro q
  constructor
  · intro j whole
    have none : (Decoder.json.ofSymbols (Utf8.symbols q.body)).toOption = none := by decide +kernel
    rw [whole] at none
    cases none
  · have references : q.references = ["inv-1"] := by decide +kernel
    have reference : q.reference = .ok "inv-1" := by
      rw [Http.Request.reference_eq (by simp [references]), references, List.headD_cons]
    have accepted : Http.Verdict.of true q =
        .errand (.proof ⟨"tx-1", "inv-1"⟩ (.unsigned "p")) := by
      rw [Http.Verdict.of_post_proof rfl rfl segment_tx, Http.Verdict.proof, Http.Endpoint.segment,
        text_tx, reference, Http.Verdict.withText, Http.Verdict.withText, Http.Verdict.withBody,
        Http.Request.jsonBody_eq_ok_iff.mpr (handedIn_brings (.inr rfl))]
      rfl
    have counted : (Switchboard.wired 10000).bridge.hub.Counted :=
      (Hub.kept_after 4 10000 [.subscribe, .join "inv-1"]).counted
    have fits : (Socket.proofMessage ⟨"tx-1", "inv-1"⟩ (.unsigned "p") sampleStamp).size ≤
        (Switchboard.wired 10000).bridge.hub.limit := by decide +kernel
    exact request_proof_of_fits counted accepted fits

end Relay

end PaymentRelay
