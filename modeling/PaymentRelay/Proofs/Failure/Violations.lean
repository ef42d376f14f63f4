import PaymentRelay.Proofs.Failure.Answer
import PaymentRelay.Proofs.Json.Stable
import PaymentRelay.Proofs.Payment.Check
import PaymentRelay.Proofs.Text.Utf8

/-
  Every broken rule is told of, and nothing else.

  What is found under a field depends on the checks of that field alone (`messagesOf_eq`), and
  violations are what is found under their fields; so checks of different fields may come in any
  order (`validate_congr`). A list of checks passes, or else it fails with its violations
  (`validate_eq`). They are written as one object, with the fields in the order of their bytes
  (`sorted_keys`), and a client that reads the answer has all of them again (`answer_readsBack`).
  `validate_collects` has all of this for any list of checks, in whatever contexts the failure is
  wrapped.
-/

namespace PaymentRelay.Violations

variable {v : Violations} {checks checks' : List Check} {field : String}

/-! ## Checks by their fields -/

/-- The messages of a field are those of its checks. -/
theorem messagesOf_eq (checks : List Check) (field : String) :
    messagesOf checks field = (checks.filter fun c => c.field = field).filterMap (·.violation) := by
  rw [messagesOf, List.filterMap_filter]
  simp only [decide_eq_true_eq]

/-- The checks of a field stay as they are when checks of two fields change places. -/
theorem filter_swap {c d : Check} (ne : c.field ≠ d.field) (rest : List Check) (field : String) :
    (d :: c :: rest).filter (fun c => c.field = field) =
      (c :: d :: rest).filter fun c => c.field = field := by
  by_cases first : c.field = field
  · have second : d.field ≠ field := fun same => ne (first.trans same.symm)
    simp [first, second]
  · simp [List.filter_cons, first]

theorem ofChecks_congr (same : ∀ field, checks'.filter (fun c => c.field = field) =
    checks.filter fun c => c.field = field) : ofChecks checks' = ofChecks checks := by
  -- The fields are kept in their order, so what is under each of them is all there is.
  have everywhere (field : String) :
      (ofChecks checks').messages? field = (ofChecks checks).messages? field := by
    rw [messages?_ofChecks, messages?_ofChecks, messagesOf_eq, messagesOf_eq, same]
  exact congrArg Violations.mk (Dict.ext_find? everywhere)

/-! ## All checks together -/

theorem validate_eq (checks : List Check) :
    validate checks =
      if ∀ c ∈ checks, c.violation = .none then .ok () else .error (ofChecks checks) := by
  rw [validate]
  simp only [isEmpty_ofChecks_iff]

theorem validate_eq_ok_iff : validate checks = .ok () ↔ ∀ c ∈ checks, c.violation = .none := by
  rw [validate_eq]
  split <;> simp_all

/-- Checks of different fields may be interleaved in any way. -/
theorem validate_congr (same : ∀ field, checks'.filter (fun c => c.field = field) =
    checks.filter fun c => c.field = field) : validate checks' = validate checks := by
  rw [validate, validate, ofChecks_congr same]

theorem messages?_ofChecks_of_broken {c : Check} (mem : c ∈ checks) (broken : c.violation ≠ .none) :
    (ofChecks checks).messages? c.field = some (messagesOf checks c.field) := by
  have told : messagesOf checks c.field ≠ [] := fun nothing =>
    broken (messagesOf_eq_nil_iff.mp nothing c mem rfl)
  rw [messages?_ofChecks, if_neg told]

theorem messages?_ofChecks_ne_nil : (ofChecks checks).messages? field ≠ some [] := by
  rw [messages?_ofChecks]
  split <;> simp_all

theorem exists_broken_of_mem_keys (mem : field ∈ (ofChecks checks).byField.keys) :
    ∃ c ∈ checks, c.field = field ∧ c.violation ≠ .none := by
  have there : (ofChecks checks).messages? field ≠ .none := Dict.mem_keys_iff.mp mem
  rw [ne_eq, messages?_ofChecks_eq_none_iff] at there
  push Not at there
  exact there

/-! ## What is written of them -/

/-- The fields are in the order of their bytes. -/
theorem sorted_keys (v : Violations) :
    v.byField.keys.Pairwise fun a b => Utf8.bytes a < Utf8.bytes b :=
  List.pairwise_map.mpr (v.byField.sorted.imp Utf8.bytes_lt)

/-- A client that reads the answer finds the violations under their name, and nothing else. -/
theorem answer_readsBack (v : Violations) :
    (Decoder.dict (.dict (.list .text))).ofString (Json.object [("errors", v.toJson)]).print =
      .ok (Dict.empty.insert "errors" v.byField) := by
  have lists (m : Dict (List String)) :
      (Decoder.dict (.list .text)).ReadsBack 126 (toJson ⟨m⟩) m :=
    Decoder.readsBack_dict fun _ _ => Decoder.readsBack_list fun s _ => Decoder.readsBack_text s
  -- The answer is itself a dictionary, with one entry.
  have whole : (Decoder.dict (.dict (.list .text))).ReadsBack Source.maxDepth
      (.ofDict ((Dict.empty.insert "errors" v.byField).map fun m => toJson ⟨m⟩))
      (Dict.empty.insert "errors" v.byField) :=
    Decoder.readsBack_dict fun en _ => lists en.2
  exact whole.print

/-! ## Lists of checks and their answers -/

/-- A list of checks passes if no rule is broken. Else it fails, and what it fails with has the
messages of each field of which a rule is broken, in the order of the checks, no other field and no
field without a message. Only the order of the checks of one field matters. The violations are one
object with the fields in the order of their bytes. In whatever contexts they are wrapped, the
answer is 400 with that object under its name, and the body that is sent is read as the same. -/
theorem validate_collects (checks : List Check) :
    (validate checks = .ok () ↔ ∀ c ∈ checks, c.violation = .none) ∧
    (∀ checks' : List Check,
      (∀ field, checks'.filter (fun c => c.field = field) =
        checks.filter fun c => c.field = field) →
      validate checks' = validate checks) ∧
    ((∃ c ∈ checks, c.violation ≠ .none) → ∃ v errors,
      validate checks = .error v ∧
      (∀ c ∈ checks, c.violation ≠ .none →
        v.messages? c.field = some (messagesOf checks c.field)) ∧
      (∀ field ∈ v.byField.keys, ∃ c ∈ checks, c.field = field ∧ c.violation ≠ .none) ∧
      (∀ field, v.messages? field ≠ some []) ∧
      v.toJson = .object errors ∧
      (errors.map (·.1)).Pairwise (fun a b => Utf8.bytes a < Utf8.bytes b) ∧
      (∀ field, Dict.lookup field errors =
        (v.messages? field).map fun messages => .array (messages.map .text)) ∧
      ∀ contexts : List String,
        ((Failure.validation v).within contexts).root = .validation v ∧
        ((Failure.validation v).within contexts).answer =
          ⟨400, .object [("errors", .object errors)]⟩ ∧
        ∃ body, Http.Response.ofFailure ((Failure.validation v).within contexts) =
            ⟨400, some "application/json", .none, body⟩ ∧
          body = (Json.object [("errors", .object errors)]).print ∧
          (Decoder.dict (.dict (.list .text))).ofString body =
            .ok (Dict.empty.insert "errors" v.byField)) := by
  refine ⟨validate_eq_ok_iff, fun checks' same => validate_congr same, ?_⟩
  rintro ⟨c, mem, broken⟩
  have failed : validate checks = .error (ofChecks checks) := by
    rw [validate_eq, if_neg fun passed => broken (passed c mem)]
  obtain ⟨errors, object, keys, lists⟩ := (ofChecks checks).toJson_lists
  refine ⟨ofChecks checks, errors, failed, fun c => messages?_ofChecks_of_broken,
    fun field => exists_broken_of_mem_keys, fun field => messages?_ofChecks_ne_nil, object, ?_,
    lists, ?_⟩
  · rw [keys]
    exact sorted_keys _
  · intro contexts
    have root := Failure.root_within (.validation (ofChecks checks)) contexts
    have answer : ((Failure.validation (ofChecks checks)).within contexts).answer =
        ⟨400, .object [("errors", .object errors)]⟩ := by
      rw [Failure.answer_validation root, object]
    refine ⟨root, answer, _, ?_, rfl, ?_⟩
    · rw [Http.Response.ofFailure, answer, Http.Response.json]
    · rw [← object]
      exact answer_readsBack _

/-- Two rules of a transaction id are broken, with one of a reference between them. -/
theorem validate_collects_interleaved :
    let checks : List Check :=
      [⟨"txid", some "too short"⟩, .notEmpty "paymentReference" "", ⟨"txid", some "not hex"⟩]
    (∃ v errors, validate checks = .error v ∧
      v.messages? "txid" = some ["too short", "not hex"] ∧
      v.toJson = .object errors ∧
      ((Failure.validation v).within ["failed to create proof"]).answer =
        ⟨400, .object [("errors", .object errors)]⟩) ∧
    validate [.notEmpty "paymentReference" "", ⟨"txid", some "too short"⟩,
      ⟨"txid", some "not hex"⟩] = validate checks := by
  intro checks
  obtain ⟨-, interleaved, told⟩ := validate_collects checks
  have apart : (⟨"txid", some "too short"⟩ : Check).field ≠
      (Check.notEmpty "paymentReference" "").field := by decide
  obtain ⟨v, errors, failed, found, -, -, object, -, -, answered⟩ :=
    told ⟨⟨"txid", some "not hex"⟩, by simp [checks], nofun⟩
  exact ⟨⟨v, errors, failed, found ⟨"txid", some "too short"⟩ (by simp [checks]) nofun, object,
    (answered _).2.1⟩, interleaved _ fun field => filter_swap apart _ field⟩

end PaymentRelay.Violations
