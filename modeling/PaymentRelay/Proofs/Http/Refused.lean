import PaymentRelay.Proofs.Http.Errand
import PaymentRelay.Proofs.Http.Route
import PaymentRelay.Proofs.Payment.Check
import PaymentRelay.Proofs.Text.Utf8

/-
  Requests that are refused, and how.

  A path that leads nowhere is not found. The body of a payment or of a proof is looked at before
  the fields: a body that holds no value of its type is refused with a text that says why
  (`Verdict.payment_refused`, `Verdict.proof_refused`), whatever the fields are. Of a proof with a
  good body the reference may be missing, and is then what is wrong with it
  (`Verdict.proof_unreferenced`); its transaction is named in its path and is never empty.
-/

namespace PaymentRelay

/-! ## Encoded segments -/

theorem Utf8.symbolsAfter_open (p : Partial) (bytes : List UInt8) :
    symbolsAfter (some p) bytes ≠ [] := by
  induction bytes generalizing p with
  | nil => exact List.cons_ne_nil _ _
  | cons b rest ih =>
    rw [symbolsAfter]
    split
    · cases p.feed b with
      | inl s => exact List.cons_ne_nil _ _
      | inr q => exact ih q
    · exact List.cons_ne_nil _ _

theorem Utf8.symbols_eq_nil {bytes : List UInt8} (h : symbols bytes = []) : bytes = [] := by
  cases bytes with
  | nil => rfl
  | cons b rest =>
    rw [symbols, symbolsAfter] at h
    cases started : start b with
    | inl s => simp [started] at h
    | inr p =>
      simp only [started] at h
      exact absurd h (symbolsAfter_open p rest)

theorem Percent.decode_eq_nil {bytes : List UInt8} (h : decode bytes = []) : bytes = [] := by
  unfold decode at h
  split at h
  · split at h <;> cases h
  · cases h
  · rfl

/-- A segment that is not empty stands for a text that is not empty. -/
theorem Percent.text?_ne_empty {s t : String} (filled : s ≠ "")
    (read : text? (Utf8.bytes s) = some t) : t ≠ "" := by
  rintro rfl
  obtain ⟨cs, strict, empty⟩ := Option.map_eq_some_iff.mp read
  obtain rfl : cs = [] := by simpa using congrArg String.toList empty
  have nothing : Utf8.symbols (decode (Utf8.bytes s)) = [] := by
    cases symbols : Utf8.symbols (decode (Utf8.bytes s)) with
    | nil => rfl
    | cons first rest => cases first <;> simp [symbols, Utf8.strict?] at strict
  have bytes : Utf8.bytes s = [] := decode_eq_nil (Utf8.symbols_eq_nil nothing)
  have chars : Utf8.ofChars s.toList = [] := by rw [← Utf8.symbols_bytes, bytes]; rfl
  exact filled (String.toList_eq_nil_iff.mp (List.map_eq_nil_iff.mp chars))

namespace Http

namespace Request

/-- The values of the parameter `i`. -/
def references (q : Request) : List String := Form.values (Form.read q.query) "i"

variable {α : Type} {q : Request} {d : Decoder α} {a : α}

/-- A body that brings nothing is refused. -/
theorem jsonBody_eq_error (bad : ∀ a, ¬q.Brings d a) : ∃ detail, q.jsonBody d = .error detail := by
  cases read : q.jsonBody d with
  | ok a => exact absurd (jsonBody_eq_ok_iff.mp read) (bad a)
  | error detail => exact ⟨detail, rfl⟩

/-- The reference is that of the only parameter, and empty without one. -/
theorem reference_eq (single : q.references.length ≤ 1) :
    q.reference = .ok (q.references.headD "") := by
  unfold references at single ⊢
  rw [reference]
  split
  · next none => rw [none, List.headD_nil]
  · next only => rw [only, List.headD_cons]
  · next more none only =>
    exfalso
    revert single none only
    rcases Form.values (Form.read q.query) "i" with _ | ⟨first, _ | ⟨second, rest⟩⟩
    · exact fun _ none => absurd rfl none
    · exact fun _ _ only => absurd rfl (only first)
    · simp

end Request

namespace Verdict

variable {serving : Bool} {q : Request} {p : Endpoint} {id text : String}

theorem of_nowhere (nowhere : ∀ p : Endpoint, p.IsThere serving → q.path ≠ p.path) :
    of serving q = .respond (.json 404 (.text "Not Found")) := by
  rw [of, Endpoint.ofPath?_eq_none_iff.mpr nowhere]
  rfl

theorem of_post (post : q.method = "POST") (path : q.path = p.path) (there : p.IsThere serving) :
    of serving q = atEndpoint q p := by
  have whole : q.isHead = false := by simp [Request.isHead, post]
  rw [of, path, Endpoint.ofPath?_eq_some_iff.mpr ⟨rfl, there⟩]
  simp only [whole, Bool.false_eq_true, if_false]

theorem of_post_payment (post : q.method = "POST") (path : q.path = (Endpoint.payment id).path)
    (segment : Endpoint.IsSegment id) : of serving q = payment q id := by
  have get : q.isGet = false := by simp [Request.isGet, Request.isHead, post]
  rw [of_post post path segment]
  simp only [atEndpoint, get, post, Bool.false_eq_true, if_false, if_true]

theorem of_post_proof (post : q.method = "POST") (path : q.path = (Endpoint.proofs id).path)
    (segment : Endpoint.IsSegment id) : of serving q = proof q id := by
  rw [of_post post path segment]
  simp only [atEndpoint, post, if_true]

theorem payment_refused (decoded : Percent.text? (Utf8.bytes id) = some text)
    (bad : ∀ slip, ¬q.Brings Slip.payment slip) :
    ∃ detail, payment q id = .respond (.json 400 (.text detail)) := by
  obtain ⟨detail, refused⟩ := Request.jsonBody_eq_error bad
  refine ⟨detail, ?_⟩
  rw [payment, Endpoint.segment, decoded, withText, withBody, refused]
  rfl

theorem proof_refused (decoded : Percent.text? (Utf8.bytes id) = some text)
    (single : q.references.length ≤ 1) (bad : ∀ e, ¬q.Brings Envelope.record.decoder e) :
    ∃ detail, proof q id = .respond (.json 400 (.text detail)) := by
  obtain ⟨detail, refused⟩ := Request.jsonBody_eq_error bad
  refine ⟨detail, ?_⟩
  rw [proof, Endpoint.segment, decoded, Request.reference_eq single, withText, withText, withBody,
    refused]
  rfl

/-- Without a reference, the reference is the one field that is complained about. -/
theorem proof_unreferenced {e : Envelope} (segment : Endpoint.IsSegment id)
    (decoded : Percent.text? (Utf8.bytes id) = some text) (single : q.references.length ≤ 1)
    (good : q.Brings Envelope.record.decoder e) (empty : ∀ r ∈ q.references, r = "") :
    proof q id = .respond (.json 400
      (.object [("errors", .object [("paymentReference", .array [.text Check.emptyMessage])])])) := by
  have reference : q.reference = .ok "" := by
    rw [Request.reference_eq single]
    cases refs : q.references with
    | nil => rfl
    | cons r rest => rw [List.headD_cons, empty r (refs ▸ List.mem_cons_self)]
  have filled : text ≠ "" := Percent.text?_ne_empty segment.1 decoded
  rw [proof, Endpoint.segment, decoded, reference, withText, withText, withBody,
    Request.jsonBody_eq_ok_iff.mpr good]
  have left : (Errand.proof ⟨text, ""⟩ e).emptyFields ≠ [] := by
    simp [Errand.emptyFields, Errand.fields]
  have violations : Violations.ofChecks (Errand.proof ⟨text, ""⟩ e).checks =
      ⟨Dict.empty.insert "paymentReference" [Check.emptyMessage]⟩ := by
    have passed : Check.notEmpty "txid" text = ⟨"txid", none⟩ := by simp [Check.notEmpty, filled]
    rw [Errand.checks, passed]
    rfl
  simp only [ofErrand, Errand.check_eq, if_neg left, violations]
  rfl

end Verdict

end Http

end PaymentRelay
