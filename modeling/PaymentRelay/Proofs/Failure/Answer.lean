import PaymentRelay.Http.Response
import PaymentRelay.Proofs.Dict

/-
  What a failure tells, and to whom.

  The text of a failure, which is for the log, holds every context from the outermost in
  (`text_within`). Its answer, which is for the client, depends on the root alone (`answer_congr`),
  and of a root only on what `Indistinct` relates (`answer_indistinct`): it says nothing of ids,
  codes, titles, paths and contexts. Of a failure that is none of the client's it says nothing at
  all, and only such a failure is answered with 500 (`answer_status_iff_internal`): no client
  error, whatever its kind, is taken for one. The answer to violations is the whole of them
  (`answer_validation`, `Violations.toJson_lists`).
-/

namespace PaymentRelay

/-- No kind of client error has the status of an internal failure. -/
theorem ErrorKind.status_ne_internal (k : ErrorKind) : k.status ≠ 500 := by
  cases k <;> decide

/-- The object of violations has the fields in their order, and under each its messages. -/
theorem Violations.toJson_lists (v : Violations) :
    ∃ errors, v.toJson = .object errors ∧ errors.map (·.1) = v.byField.keys ∧
      ∀ field, Dict.lookup field errors =
        (v.messages? field).map fun messages => .array (messages.map .text) :=
  ⟨_, rfl, Dict.keys_map _ _, fun _ => Dict.find?_map _ _⟩

namespace Failure

/-- The failure wrapped in contexts, given from the outermost in. -/
def within (contexts : List String) (f : Failure) : Failure := contexts.foldr .context f

/-- The root is nothing that a client is told of. -/
def Internal (f : Failure) : Prop :=
  match f.root with
  | .validation _ | .client _ | .record _ | .routeNotFound _ => False
  | _ => True

/-- Roots of which a client is told the same. -/
inductive Indistinct : Failure → Failure → Prop where
  /-- The ids and the codes may differ. -/
  | client {a b : ClientError} (kind : a.kind = b.kind) (detail : a.detail = b.detail) :
    Indistinct (.client a) (.client b)
  /-- The ids, the codes and the titles may differ. -/
  | record {a b : ErrorRecord} (message : a.message = b.message) :
    Indistinct (.record a) (.record b)
  | validation {a b : Violations} (fields : a.byField = b.byField) :
    Indistinct (.validation a) (.validation b)
  /-- The paths may differ. -/
  | routeNotFound (a b : String) : Indistinct (.routeNotFound a) (.routeNotFound b)

/-! ## Contexts -/

section
variable (f : Failure) (contexts : List String)

theorem root_within : (f.within contexts).root = f.root := by
  induction contexts with
  | nil => rfl
  | cons outermost rest ih => exact ih

/-- Every failure is its root in some contexts. -/
theorem eq_root_within : ∃ contexts, f = f.root.within contexts := by
  induction f with
  | context description inner ih =>
    obtain ⟨rest, wrapped⟩ := ih
    exact ⟨description :: rest, congrArg (Failure.context description) wrapped⟩
  | _ => exact ⟨[], rfl⟩

/-- The text runs from the outermost context to the root. -/
theorem text_within : (f.within contexts).text = ": ".intercalate (contexts ++ [f.text]) := by
  induction contexts with
  | nil => exact String.intercalate_singleton.symm
  | cons outermost rest ih =>
    have more : rest ++ [f.text] ≠ [] := List.append_ne_nil_of_right_ne_nil _ (List.cons_ne_nil _ _)
    calc (f.within (outermost :: rest)).text
      _ = outermost ++ ": " ++ (f.within rest).text := rfl
      _ = outermost ++ ": " ++ ": ".intercalate (rest ++ [f.text]) := by rw [ih]
      _ = ": ".intercalate (outermost :: rest ++ [f.text]) :=
        (String.intercalate_cons_of_ne_nil more).symm

end

/-! ## Answers -/

section
variable {f g : Failure}

theorem answer_congr (same : f.root = g.root) : f.answer = g.answer := by
  unfold answer
  rw [same]

theorem clientError?_congr (same : f.root = g.root) : f.clientError? = g.clientError? := by
  unfold clientError?
  rw [same]

theorem answer_indistinct (alike : Indistinct f.root g.root) : f.answer = g.answer := by
  unfold answer
  -- The relation fixes what both roots are, and the answer reads only what it makes equal.
  generalize f.root = r at alike
  generalize g.root = r' at alike
  cases alike with
  | client kind detail =>
    show clientAnswer _ = clientAnswer _
    rw [clientAnswer, clientAnswer, ClientError.status, ClientError.status, kind, detail]
  | record message =>
    show Answer.mk 400 (.text _) = Answer.mk 400 (.text _)
    rw [message]
  | validation fields =>
    show Answer.mk 400 (.object [("errors", _)]) = Answer.mk 400 (.object [("errors", _)])
    rw [Violations.toJson, Violations.toJson, fields]
  | routeNotFound a b => rfl

theorem answer_internal (hidden : f.Internal) : f.answer = ⟨500, .text internalMessage⟩ := by
  unfold Internal at hidden
  unfold answer
  cases root : f.root with
  | validation v | client e | record r | routeNotFound path =>
    rw [root] at hidden
    exact hidden.elim
  | _ => rfl

/-- A failure is answered with 500 when it is none of the client's. -/
theorem answer_status_iff_internal : f.answer.status = 500 ↔ f.Internal := by
  unfold answer Internal
  cases f.root with
  | client e => exact iff_of_false e.kind.status_ne_internal id
  | validation v | record r | routeNotFound path => exact iff_of_false nofun id
  | _ => exact iff_of_true rfl trivial

theorem answer_validation {v : Violations} (root : f.root = .validation v) :
    f.answer = ⟨400, .object [("errors", v.toJson)]⟩ := by
  unfold answer
  rw [root]

end

end Failure

/-- The response to a failure is up to what its client is told. -/
theorem Http.Response.toErrand_error (e : Errand) (head : Bool) {f f' : Failure}
    (same : f.answer = f'.answer) :
    toErrand e head (.error f) = toErrand e head (.error f') := by
  have described (f : Failure) : (Failure.context e.description f).answer = f.answer := rfl
  simp only [toErrand, Errand.conclude, Failure.describe, Except.mapError, ofResult, ofFailure,
    described, same]

namespace Failure

/-- The client learns of a failure what its root discloses, and the log learns all. Contexts of any
depth change the message alone: they stand before it from the outermost in. Failures whose roots
are indistinct get the same response, whatever they carry beside, and so do all that are internal:
a status and a body that are fixed. Violations are answered in full, each field with its
messages. -/
theorem answer_discloses_root :
    (∀ (f : Failure) (contexts : List String),
      (f.within contexts).answer = f.answer ∧
      (f.within contexts).root = f.root ∧
      (f.within contexts).clientError? = f.clientError? ∧
      (f.within contexts).text = ": ".intercalate (contexts ++ [f.text])) ∧
    (∀ f g : Failure, Indistinct f.root g.root ∨ (f.Internal ∧ g.Internal) →
      f.answer = g.answer ∧
      Http.Response.ofFailure f = Http.Response.ofFailure g ∧
      ∀ (e : Errand) (head : Bool),
        Http.Response.toErrand e head (.error f) = Http.Response.toErrand e head (.error g)) ∧
    (∀ f : Failure, f.Internal → f.answer = ⟨500, .text internalMessage⟩) ∧
    ∀ (f : Failure) (v : Violations), f.root = .validation v →
      ∃ errors, f.answer = ⟨400, .object [("errors", .object errors)]⟩ ∧
        errors.map (·.1) = v.byField.keys ∧
        ∀ field, Dict.lookup field errors =
          (v.messages? field).map fun messages => .array (messages.map .text) := by
  refine ⟨fun f contexts => ?_, fun f g alike => ?_, fun f => answer_internal, fun f v root => ?_⟩
  · have same := root_within f contexts
    exact ⟨answer_congr same, same, clientError?_congr same, text_within f contexts⟩
  · have same : f.answer = g.answer := by
      rcases alike with alike | ⟨hidden, hidden'⟩
      · exact answer_indistinct alike
      · rw [answer_internal hidden, answer_internal hidden']
    refine ⟨same, ?_, fun e head => Http.Response.toErrand_error e head same⟩
    rw [Http.Response.ofFailure, Http.Response.ofFailure, same]
  · obtain ⟨errors, object, keys, lists⟩ := v.toJson_lists
    refine ⟨errors, ?_, keys, lists⟩
    rw [answer_validation root, object]

/-- An invoice that two wallets do not find, each under its own code, and a reply that is late. -/
theorem answer_discloses_root_apart :
    (within ["failed to create payment for paymentID 8c1f"]
        (.client ⟨"e-1", .notFound, "404", "no such payment"⟩)).answer =
      (Failure.client ⟨"e-2", .notFound, "N0001", "no such payment"⟩).answer ∧
    (within ["failed to send payment message for payment"]
        (.call (.timeout "c-1" (.ofSeconds 10)))).answer = ⟨500, .text internalMessage⟩ ∧
    ∃ errors, (within ["a", "b"] (.validation (Violations.none.add "paymentID" "empty"))).answer =
        ⟨400, .object [("errors", .object errors)]⟩ ∧
      errors.map (·.1) = ["paymentID"] := by
  obtain ⟨-, equal, fixed, listed⟩ := answer_discloses_root
  have alike : Indistinct (.client ⟨"e-1", .notFound, "404", "no such payment"⟩)
      (.client ⟨"e-2", .notFound, "N0001", "no such payment"⟩) := .client rfl rfl
  refine ⟨(equal (within [_] (.client _)) (.client _) (.inl alike)).1, fixed _ trivial, ?_⟩
  obtain ⟨errors, answer, keys, -⟩ := listed (within ["a", "b"] (.validation _)) _ rfl
  exact ⟨errors, answer, keys⟩

end Failure

end PaymentRelay
