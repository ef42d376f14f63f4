import PaymentRelay.Http.Verdict

/-
  Where an errand comes from.

  A request becomes an errand only if the parts that the errand needs have been read of it, and its
  check has passed (`Verdict.errand_cases`).
-/

namespace PaymentRelay.Http

namespace Request

/-- The body is said to be JSON, is not too large, and begins with a value of a type. -/
structure Brings {α : Type} (q : Request) (d : Decoder α) (a : α) : Prop where
  json : q.isJson = true
  short : q.body.length ≤ bodyLimit
  value : d.ofLeading (Utf8.symbols q.body) = .ok a

variable {α : Type} {q : Request} {d : Decoder α} {a : α}

theorem jsonBody_eq_ok_iff : q.jsonBody d = .ok a ↔ q.Brings d a := by
  unfold jsonBody
  constructor
  · intro h
    split at h
    · cases h
    · next json =>
      split at h
      · cases h
      · next short =>
        split at h
        · next value =>
          cases h
          exact ⟨by simpa using json, Nat.not_lt.mp short, value⟩
        · cases h
        · cases h
  · rintro ⟨json, short, value⟩
    rw [json, if_neg Bool.noConfusion, if_neg (Nat.not_lt.mpr short), value]

end Request

namespace Verdict

/-- An errand has been read of a request. -/
inductive ReadOf (q : Request) : Errand → Prop
  | terms (id : String) : ReadOf q (.terms ⟨id⟩)
  | payment {id : String} {slip : Slip} (body : q.Brings Slip.payment slip) :
    ReadOf q (.payment ⟨id⟩ slip)
  | proof {txId reference : String} {p : Envelope} (named : q.reference = .ok reference)
    (body : q.Brings Envelope.record.decoder p) : ReadOf q (.proof ⟨txId, reference⟩ p)

variable {serving : Bool} {q : Request} {e e' : Errand}

theorem headOnly_eq_errand {v : Verdict} (h : v.headOnly = .errand e) : v = .errand e := by
  cases v with
  | respond r => cases h
  | _ => exact h

theorem ofErrand_eq_errand (h : ofErrand e = .errand e') : e = e' ∧ e.check = .ok () := by
  unfold ofErrand at h
  split at h
  · next passed => exact ⟨Verdict.errand.inj h, passed⟩
  · cases h

theorem withText_eq_errand {α : Type} {read : Except String α} {next : α → Verdict}
    (h : withText read next = .errand e) : ∃ a, read = .ok a ∧ next a = .errand e := by
  cases read with
  | ok a => exact ⟨a, rfl, h⟩
  | error message => cases h

theorem withBody_eq_errand {α : Type} {d : Decoder α} {next : α → Verdict}
    (h : withBody q d next = .errand e) : ∃ a, q.Brings d a ∧ next a = .errand e := by
  unfold withBody at h
  split at h
  · next a read => exact ⟨a, Request.jsonBody_eq_ok_iff.mp read, h⟩
  · cases h

theorem atEndpoint_cases {p : Endpoint} (accepted : atEndpoint q p = .errand e) :
    e.check = .ok () ∧ ReadOf q e := by
  cases p with
  | health =>
    simp only [atEndpoint] at accepted
    split at accepted <;> cases accepted
  | payment id =>
    simp only [atEndpoint] at accepted
    split at accepted
    · obtain ⟨id, -, asked⟩ := withText_eq_errand accepted
      obtain ⟨rfl, passed⟩ := ofErrand_eq_errand asked
      exact ⟨passed, .terms id⟩
    · split at accepted
      · obtain ⟨id, -, submitted⟩ := withText_eq_errand accepted
        obtain ⟨slip, body, checked⟩ := withBody_eq_errand submitted
        obtain ⟨rfl, passed⟩ := ofErrand_eq_errand checked
        exact ⟨passed, .payment body⟩
      · cases accepted
  | proofs txId =>
    simp only [atEndpoint] at accepted
    split at accepted
    · obtain ⟨txId, -, handed⟩ := withText_eq_errand accepted
      obtain ⟨reference, named, handed⟩ := withText_eq_errand handed
      obtain ⟨p, body, checked⟩ := withBody_eq_errand handed
      obtain ⟨rfl, passed⟩ := ofErrand_eq_errand checked
      exact ⟨passed, .proof named body⟩
    · cases accepted
  | wallets channel =>
    simp only [atEndpoint, wallet] at accepted
    split at accepted
    · split at accepted
      · cases accepted
      · obtain ⟨channel, -, connects⟩ := withText_eq_errand accepted
        cases connects
    · cases accepted

/-- An errand has passed its check, and has been read of the request. -/
theorem errand_cases (accepted : of serving q = .errand e) : e.check = .ok () ∧ ReadOf q e := by
  unfold of at accepted
  split at accepted
  · cases accepted
  · split at accepted
    · exact atEndpoint_cases (headOnly_eq_errand accepted)
    · exact atEndpoint_cases accepted

/-- The payment that a request leads to is what its body begins with. -/
theorem brings_of_payment {args : PaymentArgs} {slip : Slip}
    (accepted : of serving q = .errand (.payment args slip)) : q.Brings Slip.payment slip := by
  obtain ⟨-, read⟩ := errand_cases accepted
  cases read with
  | payment body => exact body

end Verdict

end PaymentRelay.Http
