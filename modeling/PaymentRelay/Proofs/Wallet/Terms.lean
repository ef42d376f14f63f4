import PaymentRelay.Proofs.Failure.Answer
import PaymentRelay.Proofs.Relay.Handover
import PaymentRelay.Proofs.Wire.Envelope
import PaymentRelay.Wallet.Client

/-
  Payment terms that are put together from the answers of a wallet.

  The owner, the destinations and the fees are looked up one after another, and the first lookup
  that fails is what comes of all (`Payd.run_terms`). What was read of the owner comes out of a
  value and may have extensions of any shape; since it is kept field by field
  (`Merchant.keeps_of_ofJson`), the terms around it are read back from their own text
  (`Terms.readsBack`), for which they need three brackets more than the fields of the owner.
-/

namespace PaymentRelay

/-! ## What is read of a wallet -/

/-- A client that answers at once: with a failure of the wallet, or with a value that a text of
integers may have, up to one bracket. -/
structure Payd.Answers (client : Exchange → Except Failure Json) : Prop where
  failure : ∀ x f, client x = .error f → ∃ reason, f = .wallet reason ∨ f = .decode reason
  value : ∀ x j, client x = .ok j → Decoder.Passed (.text (Source.maxDepth - 1)) true j

/-- What is read of a wallet at an address. -/
def Payd.read {α : Type} (client : Exchange → Except Failure Json) (url : String) (d : Decoder α) :
    Except Failure α :=
  (client ⟨.get, url, 200, none⟩).bind fun j => (d.ofJson j).mapError .ofFault

namespace Exchange

variable {x : Exchange} {ending : Ending} {f : Failure} {j : Json}

/-- However an exchange ends, what fails is the wallet or its text. -/
theorem conclude_eq_error (failed : x.conclude ending = .error f) :
    ∃ reason, f = .wallet reason ∨ f = .decode reason := by
  unfold conclude at failed
  split at failed
  · cases failed
    exact ⟨_, .inl rfl⟩
  · cases failed
    exact ⟨_, .inl rfl⟩
  · next status body lost =>
    split at failed
    · cases failed
      exact ⟨_, .inl rfl⟩
    · cases lost with
      | some reason =>
        cases failed
        exact ⟨_, .inl rfl⟩
      | none =>
        replace failed : x.value body = .error f := failed
        unfold value at failed
        split at failed
        · cases failed
        · cases read : Decoder.json.ofSymbols (Utf8.symbols body) with
          | ok j =>
            rw [read] at failed
            cases failed
          | error fault =>
            rw [read] at failed
            cases failed
            exact ⟨_, .inr rfl⟩

/-- What a wallet answers is the value of its text, or null where there is none. -/
theorem conclude_eq_ok (answered : x.conclude ending = .ok j) :
    ∃ body, ending = .response x.expected body none ∧
      (j = .null ∨ Decoder.json.ofSymbols (Utf8.symbols body) = .ok j) := by
  unfold conclude at answered
  split at answered
  · cases answered
  · cases answered
  · next status body lost =>
    split at answered
    · cases answered
    · next expected =>
      obtain rfl : status = x.expected := Decidable.not_not.mp expected
      cases lost with
      | some reason => cases answered
      | none =>
        refine ⟨body, rfl, ?_⟩
        replace answered : x.value body = .ok j := answered
        unfold value at answered
        split at answered
        · cases answered
          exact .inl rfl
        · cases read : Decoder.json.ofSymbols (Utf8.symbols body) with
          | ok j' =>
            rw [read] at answered
            cases answered
            exact .inr rfl
          | error fault =>
            rw [read] at answered
            cases answered

end Exchange

/-- The client that the relay uses answers so, as long as the wallet writes integers and nests its
brackets less deep than it may. -/
theorem Payd.answers_conclude {ending : Exchange → Ending}
    (plain : ∀ x status body lost j, ending x = .response status body lost →
      Decoder.json.ofSymbols (Utf8.symbols body) = .ok j →
      (Document.read (Utf8.symbols body)).1.isIntegral = true ∧ j.depth < Source.maxDepth) :
    Answers fun x => x.conclude (ending x) where
  failure _ _ failed := Exchange.conclude_eq_error failed
  value x j answered := by
    obtain ⟨body, ended, rfl | read⟩ := Exchange.conclude_eq_ok answered
    · exact ⟨rfl, Nat.zero_le _, fun _ => rfl⟩
    · obtain ⟨integral, shallow⟩ := plain _ _ _ _ _ ended read
      have decoded := Decoder.decoded_of_ofSymbols read
      rw [Decoder.json] at decoded
      split at decoded
      · next j' value =>
        cases decoded
        have passed := Decoder.passed_of_toJson? value
        exact ⟨passed.canonical, Nat.le_sub_one_of_lt shallow, fun _ => passed.integral integral⟩
      · cases decoded

namespace Payd

section
variable {α : Type} {client : Exchange → Except Failure Json} {url : String} {d : Decoder α} {a : α}
  {f : Failure}

theorem read_eq_ok_iff :
    read client url d = .ok a ↔
      ∃ j, client ⟨.get, url, 200, none⟩ = .ok j ∧ d.ofJson j = .ok a := by
  unfold read
  cases client ⟨.get, url, 200, none⟩ with
  | error f => simp [Except.bind]
  | ok j => cases decoded : d.ofJson j <;> simp [Except.bind, Except.mapError, decoded]

theorem read_eq_error (failed : read client url d = .error f) :
    client ⟨.get, url, 200, none⟩ = .error f ∨ ∃ fault, f = .ofFault fault := by
  unfold read at failed
  cases answer : client ⟨.get, url, 200, none⟩ with
  | error g =>
    rw [answer] at failed
    cases failed
    exact .inl rfl
  | ok j =>
    rw [answer] at failed
    replace failed : (d.ofJson j).mapError Failure.ofFault = .error f := failed
    cases decoded : d.ofJson j with
    | error fault =>
      rw [decoded] at failed
      cases failed
      exact .inr ⟨fault, rfl⟩
    | ok b =>
      rw [decoded] at failed
      cases failed

/-- A client of the relay is told nothing of what cannot be read of a wallet. -/
theorem internal_of_read (answers : Answers client) (failed : read client url d = .error f) :
    f.Internal := by
  rcases read_eq_error failed with answer | ⟨fault, rfl⟩
  · obtain ⟨reason, rfl | rfl⟩ := answers.failure _ _ answer
    · trivial
    · trivial
  · trivial

end

/-! ## Lookups -/

section
variable (client : Exchange → Except Failure Json) (w : Payd) (invoice : String) (now : Timestamp)

theorem run_owner : (w.owner.run client).2 =
    Failure.describe "failed to read owner from payd"
      (read client w.ownerUrl Merchant.record.decoder) := by
  rw [owner, Lookup.run_describe]
  rfl

theorem run_outputs : ((w.outputs invoice).run client).2 =
    Failure.describe ("failed to read destinations for invoice " ++ invoice)
      ((read client (w.destinationsUrl invoice) (.list Destination.record.decoder)).map
        (List.map Destination.toOutput)) := by
  rw [outputs, Lookup.run_describe, lookup, Lookup.run_one, read]
  cases client ⟨.get, w.destinationsUrl invoice, 200, none⟩ with
  | error f => rfl
  | ok j =>
    show Failure.describe _ (((Decoder.list Destination.record.decoder).ofJson j).map _ |>.mapError _) =
      Failure.describe _ (((Decoder.list Destination.record.decoder).ofJson j).mapError _ |>.map _)
    cases (Decoder.list Destination.record.decoder).ofJson j with
    | error fault => rfl
    | ok ds => rfl

theorem run_fees : (w.fees.run client).2 =
    Failure.describe "failed to read fees from payd"
      (read client w.feesUrl FeeQuote.record.decoder) := by
  rw [fees, Lookup.run_describe]
  rfl

/-- The first lookup that fails is what comes of all. -/
theorem run_terms : ((w.terms invoice now).run client).2 =
    (w.owner.run client).2.bind fun owner =>
      ((w.outputs invoice).run client).2.bind fun outputs =>
        (w.fees.run client).2.bind fun fees =>
          .ok (envelop (w.assemble invoice now owner outputs fees)) := by
  simp only [terms, Lookup.run_andThen, Inquiry.run]

end

end Payd

/-! ## Terms that are read back -/

/-- The owner that a wallet says it has is kept, field by field. -/
theorem Merchant.keeps_of_ofJson {room : Nat} {j : Json} {m : Merchant}
    (passed : Decoder.Passed (.text (room + 2)) true j)
    (decoded : Merchant.record.decoder.ofJson j = .ok m) :
    Merchant.record.fields.Keeps (room + 1) (Merchant.record.parts m) := by
  have alike := (Record.agrees Merchant.agree_fields).ofJson passed.canonical passed.fits
  rw [decoded] at alike
  have integral : (Document.ofJson j).isIntegral = true := by
    rw [Document.isIntegral_ofJson, passed.integral rfl]
  exact Record.keeps_of_decoded Merchant.faithful_fields integral
    (Decoder.toOption_eq_some_iff.mp alike)

theorem Output.readsBack (room : Nat) (o : Output) :
    record.decoder.ReadsBack (room + 1) (record.encode o) o :=
  Record.readsBack (r := record) (a := o)
    ⟨Decoder.readsBack_word _, Decoder.readsBack_text _, Field.keeps_optionalText _, trivial⟩
    (by decide)

theorem Fee.readsBack (room : Nat) (f : Fee) :
    record.decoder.ReadsBack (room + 1) (record.encode f) f :=
  Record.readsBack (r := record) (a := f)
    ⟨Decoder.readsBack_word _, Decoder.readsBack_word _, trivial⟩ (by decide)

theorem FeeQuote.readsBack (room : Nat) (q : FeeQuote) :
    record.decoder.ReadsBack (room + 2) (record.encode q) q :=
  Record.readsBack (r := record) (a := q) ⟨Fee.readsBack _ _, Fee.readsBack _ _, trivial⟩
    (by decide)

/-- Terms are read back, whatever they are for, if what is written of the payee is. -/
theorem Terms.readsBack {room : Nat} {t : Terms} {m : Merchant} (payee : t.beneficiary = some m)
    (kept : Merchant.record.fields.Keeps (room + 1) (Merchant.record.parts m)) :
    record.decoder.ReadsBack (room + 3) (record.encode t) t := by
  refine Record.readsBack (r := record) (a := t) ⟨Decoder.readsBack_text _,
    Decoder.readsBack_seconds _, Decoder.readsBack_seconds _, Decoder.readsBack_text _,
    Decoder.readsBack_text _, ?beneficiary, ?outputs, FeeQuote.readsBack room _, trivial⟩
    (by decide)
  case beneficiary =>
    have back := Record.readsBack kept (by decide)
    show (Field.optional "beneficiary" _ _).Keeps (room + 2) t.beneficiary
    rw [payee]
    exact Field.keeps_optional back nofun
  case outputs =>
    exact Decoder.readsBack_list fun o _ => Output.readsBack room o

/-! ## All or nothing -/

namespace Payd

/-- What terms say that were put together from what was read of a wallet. -/
structure Offers (w : Payd) (invoice : String) (owner : Merchant) (destinations : List Destination)
    (fees : FeeQuote) (t : Terms) : Prop where
  beneficiary : t.beneficiary = some owner
  outputs : t.outputs = destinations.map fun d => ⟨d.satoshis, d.script, none⟩
  fees : t.fees = fees
  expires : t.expires.toInt = t.created.toInt + 86400
  url : t.url = w.publicUrl ++ "/api/v1/payment/" ++ invoice

/-- The failure of the first of three lookups that fails, with a description of what was looked
up. -/
def FirstFailure (invoice : String) (owner : Except Failure Merchant)
    (destinations : Except Failure (List Destination)) (fees : Except Failure FeeQuote)
    (f : Failure) : Prop :=
  (∃ g, owner = .error g ∧ f = .context "failed to read owner from payd" g) ∨
  (∃ m g, owner = .ok m ∧ destinations = .error g ∧
    f = .context ("failed to read destinations for invoice " ++ invoice) g) ∨
  ∃ m ds g, owner = .ok m ∧ destinations = .ok ds ∧ fees = .error g ∧
    f = .context "failed to read fees from payd" g

section
variable {client : Exchange → Except Failure Json} {w : Payd} {invoice : String} {now : Timestamp}
  {m : Merchant} {ds : List Destination} {q : FeeQuote}

theorem assemble_offers :
    w.Offers invoice m ds q (w.assemble invoice now m (ds.map Destination.toOutput) q) where
  beneficiary := rfl
  outputs := rfl
  fees := rfl
  expires := by
    have created : (Int64.ofInt now.toSeconds).toInt = now.toSeconds := by
      have exact := now.toInt_ofInt_toSeconds (show (0 : Int).natAbs ≤ 1000000000 by decide)
      rwa [Int.add_zero] at exact
    have expires := now.toInt_ofInt_toSeconds (show validity.natAbs ≤ 1000000000 by decide)
    show (Int64.ofInt (now.toSeconds + validity)).toInt = (Int64.ofInt now.toSeconds).toInt + 86400
    rw [created, expires]
    rfl
  url := rfl

theorem decoded_assemble {j : Json} {outputs : List Output}
    (passed : Decoder.Passed (.text (Source.maxDepth - 1)) true j)
    (decoded : Merchant.record.decoder.ofJson j = .ok m) :
    Terms.record.decoder.ofString
        (Terms.record.encode (w.assemble invoice now m outputs q)).print =
      .ok (w.assemble invoice now m outputs q) := by
  have kept : Merchant.record.fields.Keeps 125 (Merchant.record.parts m) :=
    Merchant.keeps_of_ofJson passed decoded
  exact (Terms.readsBack rfl kept).print

section
variable (owner : Except Failure Merchant) (destinations : Except Failure (List Destination))
  (fees : Except Failure FeeQuote) (make : Merchant → List Output → FeeQuote → Json)

/-- What comes of three lookups that are made one after another. -/
def inOrder (invoice : String) : Except Failure Json :=
  (Failure.describe "failed to read owner from payd" owner).bind fun m =>
    (Failure.describe ("failed to read destinations for invoice " ++ invoice)
        (destinations.map (List.map Destination.toOutput))).bind fun outputs =>
      (Failure.describe "failed to read fees from payd" fees).bind fun q => .ok (make m outputs q)

theorem inOrder_eq_error_iff {f : Failure} :
    inOrder owner destinations fees make invoice = .error f ↔
      FirstFailure invoice owner destinations fees f := by
  cases owner <;> cases destinations <;> cases fees <;>
    simp [inOrder, FirstFailure, Failure.describe, Except.mapError, Except.bind, Except.map, eq_comm]

theorem inOrder_eq_ok_iff {j : Json} :
    inOrder owner destinations fees make invoice = .ok j ↔
      ∃ m ds q, owner = .ok m ∧ destinations = .ok ds ∧ fees = .ok q ∧
        make m (ds.map Destination.toOutput) q = j := by
  cases owner <;> cases destinations <;> cases fees <;>
    simp [inOrder, Failure.describe, Except.mapError, Except.bind, Except.map]

end

theorem FirstFailure.internal {f : Failure} (answers : Answers client)
    (first : FirstFailure invoice (read client w.ownerUrl Merchant.record.decoder)
      (read client (w.destinationsUrl invoice) (.list Destination.record.decoder))
      (read client w.feesUrl FeeQuote.record.decoder) f) : f.Internal := by
  rcases first with ⟨g, failed, rfl⟩ | ⟨m, g, -, failed, rfl⟩ | ⟨m, ds, g, -, -, failed, rfl⟩
  · exact (internal_of_read answers failed : g.Internal)
  · exact (internal_of_read answers failed : g.Internal)
  · exact (internal_of_read answers failed : g.Internal)

theorem clientError?_of_internal {f : Failure} (hidden : f.Internal) : f.clientError? = none := by
  unfold Failure.Internal at hidden
  unfold Failure.clientError?
  cases root : f.root with
  | client e =>
    rw [root] at hidden
    exact hidden.elim
  | _ => rfl

end

/-- The terms of an invoice are what the wallet says of it, or there are none. They are there if and
only if the owner, the destinations and the fees can be read of what a client answers. Then they are
an unsigned envelope, and its text is read as terms for that owner, with an output for each
destination in order and these fees, which expire a day after they were made and are paid at the
address of the invoice. Otherwise the failure is that of the first lookup that fails; it is no error
of the payer, who is told nothing of it. -/
theorem terms_whole_or_failed {client : Exchange → Except Failure Json} (answers : Answers client)
    (w : Payd) (invoice : String) (now : Timestamp) :
    let owner := read client w.ownerUrl Merchant.record.decoder
    let destinations := read client (w.destinationsUrl invoice) (.list Destination.record.decoder)
    let fees := read client w.feesUrl FeeQuote.record.decoder
    let result := ((w.terms invoice now).run client).2
    ((∃ j, result = .ok j) ↔
      (∃ m, owner = .ok m) ∧ (∃ ds, destinations = .ok ds) ∧ ∃ q, fees = .ok q) ∧
    (∀ m ds q, owner = .ok m → destinations = .ok ds → fees = .ok q → ∃ payload t,
      result = .ok (Envelope.unsigned payload).terms ∧
      Envelope.ofTerms? (Envelope.unsigned payload).terms = some (.unsigned payload) ∧
      (Envelope.unsigned payload).isSigned = false ∧
      Terms.record.decoder.ofString payload = .ok t ∧ w.Offers invoice m ds q t) ∧
    ∀ f, (result = .error f ↔ FirstFailure invoice owner destinations fees f) ∧
      (result = .error f → f.clientError? = none ∧
        ∀ (q : Http.Request) (stamp : Stamp), stamp.now = now →
          Http.Verdict.of false q = .errand (.terms ⟨invoice⟩) →
          ∃ i, (Relay.payd w).request q stamp = (Relay.payd w, .answer i) ∧
            (i.run client).2 =
              let r := Http.Response.json 500 (.text "Internal Server Error")
              if q.isHead then r.headOnly else r) := by
  intro owner destinations fees result
  have sequence : result = inOrder owner destinations fees
      (fun m outputs q => envelop (w.assemble invoice now m outputs q)) invoice := by
    rw [inOrder, ← run_owner, ← run_outputs, ← run_fees]
    exact run_terms client w invoice now
  refine ⟨?succeeds, fun m ds q first second third => ?faithful,
    fun f => ⟨?first, fun failed => ?answer⟩⟩
  case succeeds =>
    rw [sequence]
    simp only [inOrder_eq_ok_iff]
    constructor
    · rintro ⟨j, m, ds, q, first, second, third, -⟩
      exact ⟨⟨m, first⟩, ⟨ds, second⟩, q, third⟩
    · rintro ⟨⟨m, first⟩, ⟨ds, second⟩, q, third⟩
      exact ⟨_, m, ds, q, first, second, third, rfl⟩
  case faithful =>
    obtain ⟨j, answer, decoded⟩ := read_eq_ok_iff.mp first
    refine ⟨_, w.assemble invoice now m (ds.map Destination.toOutput) q, ?_, ?_, rfl,
      decoded_assemble (answers.value _ _ answer) decoded, assemble_offers⟩
    · rw [sequence, inOrder_eq_ok_iff]
      exact ⟨m, ds, q, first, second, third, rfl⟩
    · rw [Envelope.ofTerms?, Envelope.ofJson_terms]
      rfl
  case first =>
    rw [sequence, inOrder_eq_error_iff]
  case answer =>
    have first : FirstFailure invoice owner destinations fees f := by
      rwa [sequence, inOrder_eq_error_iff] at failed
    have hidden : f.Internal := FirstFailure.internal answers first
    refine ⟨clientError?_of_internal hidden, ?_⟩
    rintro q stamp rfl accepted
    refine ⟨_, Relay.request_payd w accepted, ?_⟩
    rw [Inquiry.run_map, lookupFor, Inquiry.run_map]
    have described : (Failure.context (Errand.description (.terms ⟨invoice⟩)) f).answer =
        ⟨500, .text Failure.internalMessage⟩ := Failure.answer_internal hidden
    show Http.Response.toErrand _ _ (Except.map _ result) = _
    rw [failed]
    simp only [Http.Response.toErrand, Errand.conclude, Failure.describe, Except.map,
      Except.mapError, Http.Response.ofResult, Http.Response.ofFailure, described]
    rfl

/-- A wallet that knows one invoice, whose amount it spells with two letters exchanged. -/
def sample (x : Exchange) : Except Failure Json :=
  if x.url = "http://payd/api/v1/owner" then
    .ok (.object [("extensions", .object [("tier", .array [.null])]), ("name", .text "Ada")])
  else if x.url = "http://payd/api/v1/destinations/inv-1" then
    .ok (.array [.object [("satohsis", .number (.natural 18446744073709551615)),
      ("script", .text "76a9")]])
  else if x.url = "http://payd/api/v1/fees" then .ok (.object [])
  else .error (.wallet ("cannot connect to " ++ x.url))

theorem answers_sample : Answers sample where
  failure x f failed := by
    unfold sample at failed
    split_ifs at failed
    cases failed
    exact ⟨_, .inl rfl⟩
  value x j answer := by
    unfold sample at answer
    split_ifs at answer
    · cases answer
      exact ⟨rfl, by decide, fun _ => rfl⟩
    · cases answer
      exact ⟨rfl, by decide, fun _ => rfl⟩
    · cases answer
      exact ⟨rfl, by decide, fun _ => rfl⟩

/-- An invoice that a wallet knows, and one that it does not know. -/
theorem terms_whole_or_failed_sample :
    (∃ payload t,
      ((Payd.terms ⟨"http://payd", ""⟩ "inv-1" .epoch).run sample).2 =
        .ok (Envelope.unsigned payload).terms ∧
      Terms.record.decoder.ofString payload = .ok t ∧
      t.outputs = [⟨18446744073709551615, "76a9", none⟩]) ∧
    ((Payd.terms ⟨"http://payd", ""⟩ "inv-2" .epoch).run sample).2 =
      .error (.context "failed to read destinations for invoice inv-2"
        (.wallet "cannot connect to http://payd/api/v1/destinations/inv-2")) := by
  obtain ⟨m, owner⟩ : ∃ m, read sample "http://payd/api/v1/owner" Merchant.record.decoder = .ok m :=
    ⟨_, rfl⟩
  have fees : read sample "http://payd/api/v1/fees" FeeQuote.record.decoder =
      .ok ⟨.zero, .zero⟩ := rfl
  have known : read sample "http://payd/api/v1/destinations/inv-1"
      (.list Destination.record.decoder) = .ok [⟨"76a9", 18446744073709551615⟩] := rfl
  have unknown : read sample "http://payd/api/v1/destinations/inv-2"
      (.list Destination.record.decoder) =
      .error (.wallet "cannot connect to http://payd/api/v1/destinations/inv-2") := rfl
  obtain ⟨-, whole, -⟩ := terms_whole_or_failed answers_sample ⟨"http://payd", ""⟩ "inv-1" .epoch
  obtain ⟨-, -, failed⟩ := terms_whole_or_failed answers_sample ⟨"http://payd", ""⟩ "inv-2" .epoch
  obtain ⟨payload, t, result, -, -, decoded, offers⟩ := whole _ _ _ owner known fees
  exact ⟨⟨payload, t, result, decoded, offers.outputs⟩,
    (failed _).1.mpr (.inr (.inl ⟨m, _, owner, unknown, rfl⟩))⟩

end Payd

end PaymentRelay
