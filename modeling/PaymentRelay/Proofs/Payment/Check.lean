import PaymentRelay.Payment.Errand
import PaymentRelay.Proofs.Dict

/-
  What is found when an errand is checked.

  A check adds its message under its field if it is broken, and else nothing
  (`Violations.messages?_record`), so the violations of a list of checks have, under each field, the
  messages of the broken checks of that field (`Violations.messages?_ofChecks`). An errand passes its
  check if nothing that it names is empty, and else its violations are those fields and no others,
  whatever there is behind the check: a store never hears of such an errand
  (`Errand.serve_of_empty`).
-/

namespace PaymentRelay

namespace Violations

/-- The messages of the broken checks of a field, in order. -/
def messagesOf (checks : List Check) (field : String) : List String :=
  checks.filterMap fun c => if c.field = field then c.violation else .none

variable {v : Violations} {checks : List Check} {field : String}

theorem messagesOf_cons (c : Check) (rest : List Check) (field : String) :
    messagesOf (c :: rest) field = messagesOf [c] field ++ messagesOf rest field := by
  rw [← List.singleton_append, messagesOf, List.filterMap_append]
  rfl

/-- A broken check adds its message at the end of those of its field, and changes nothing else. -/
theorem messages?_record (v : Violations) (c : Check) (field : String) :
    (v.record c).messages? field =
      if messagesOf [c] field = [] then v.messages? field
      else some ((v.messages? field).getD [] ++ messagesOf [c] field) := by
  obtain ⟨name, _ | message⟩ := c
  · simp [messagesOf, record]
  · by_cases same : name = field
    · subst same
      simp [messagesOf, record, add, messages?, Dict.find?_insert]
    · simp [messagesOf, record, add, messages?, Dict.find?_insert, same, Ne.symm same]

theorem messages?_foldl (checks : List Check) (v : Violations) (field : String) :
    (checks.foldl record v).messages? field =
      if messagesOf checks field = [] then v.messages? field
      else some ((v.messages? field).getD [] ++ messagesOf checks field) := by
  induction checks generalizing v with
  | nil => simp [messagesOf]
  | cons c rest ih =>
    rw [List.foldl_cons, ih, messages?_record, messagesOf_cons c rest]
    by_cases now : messagesOf [c] field = [] <;>
      by_cases later : messagesOf rest field = [] <;> simp [now, later]

/-- Under each field are the messages of its broken checks, if there are any. -/
theorem messages?_ofChecks :
    (ofChecks checks).messages? field =
      if messagesOf checks field = [] then .none else some (messagesOf checks field) :=
  messages?_foldl checks none field

theorem messagesOf_eq_nil_iff :
    messagesOf checks field = [] ↔ ∀ c ∈ checks, c.field = field → c.violation = .none := by
  simp [messagesOf]

/-- There is nothing under a field if its checks have passed. -/
theorem messages?_ofChecks_eq_none_iff : (ofChecks checks).messages? field = .none ↔
    ∀ c ∈ checks, c.field = field → c.violation = .none := by
  rw [messages?_ofChecks, ← messagesOf_eq_nil_iff]
  split <;> simp_all

/-- There are no violations if every check has passed. -/
theorem isEmpty_ofChecks_iff :
    (ofChecks checks).isEmpty = true ↔ ∀ c ∈ checks, c.violation = .none := by
  rw [isEmpty, Dict.isEmpty_iff]
  exact ⟨fun nothing c hc => messages?_ofChecks_eq_none_iff.mp (nothing c.field) c hc rfl,
    fun passed _ => messages?_ofChecks_eq_none_iff.mpr fun c hc _ => passed c hc⟩

end Violations

namespace Errand

/-- The fields that an errand names, with their values. -/
def fields : Errand → List (String × String)
  | .terms a => [("paymentID", a.paymentId)]
  | .payment a _ => [("paymentID", a.paymentId)]
  | .proof a _ => [("txid", a.txId), ("paymentReference", a.reference)]

/-- The fields that are left empty. -/
def emptyFields (e : Errand) : List String := (e.fields.filter fun f => f.2.isEmpty).map (·.1)

variable {e : Errand}

theorem checks_eq (e : Errand) : e.checks = e.fields.map fun f => .notEmpty f.1 f.2 := by
  cases e <;> rfl

/-- No field is named twice. -/
theorem nodup_fields (e : Errand) : (e.fields.map (·.1)).Nodup := by
  cases e <;> simp [fields]

theorem messagesOf_notEmpty {named : List (String × String)} (nodup : (named.map (·.1)).Nodup)
    (field : String) :
    Violations.messagesOf (named.map fun f => .notEmpty f.1 f.2) field =
      if field ∈ (named.filter fun f => f.2.isEmpty).map (·.1) then [Check.emptyMessage]
      else [] := by
  induction named with
  | nil => rfl
  | cons f rest ih =>
    obtain ⟨name, value⟩ := f
    obtain ⟨fresh, nodup⟩ := List.nodup_cons.mp nodup
    have first : Violations.messagesOf [.notEmpty name value] field =
        if name = field ∧ value.isEmpty then [Check.emptyMessage] else [] := by
      by_cases same : name = field <;> cases empty : value.isEmpty <;>
        simp [Violations.messagesOf, Check.notEmpty, same, empty]
    rw [List.map_cons, Violations.messagesOf_cons, first, ih nodup]
    by_cases same : name = field
    · -- The name does not come again.
      have once : field ∉ (rest.filter fun f => f.2.isEmpty).map (·.1) := fun again => by
        obtain ⟨f, hf, eq⟩ := List.mem_map.mp again
        exact fresh (List.mem_map.mpr ⟨f, (List.mem_filter.mp hf).1, eq.trans same.symm⟩)
      cases empty : value.isEmpty <;> simp [same, empty, once]
    · cases empty : value.isEmpty <;> simp [same, empty, Ne.symm same]

/-- The violations of an errand are the fields that are left empty. -/
theorem messages?_ofChecks (e : Errand) (field : String) :
    (Violations.ofChecks e.checks).messages? field =
      if field ∈ e.emptyFields then some [Check.emptyMessage] else none := by
  rw [Violations.messages?_ofChecks, checks_eq, messagesOf_notEmpty e.nodup_fields, ← emptyFields]
  split <;> simp

/-- An errand passes if it leaves no field empty. -/
theorem check_eq (e : Errand) :
    e.check = if e.emptyFields = [] then .ok ()
      else .error (.validation (Violations.ofChecks e.checks)) := by
  have passes : (Violations.ofChecks e.checks).isEmpty = true ↔ e.emptyFields = [] := by
    rw [Violations.isEmpty_ofChecks_iff, checks_eq, List.forall_mem_map]
    simp [emptyFields, Check.notEmpty]
  rw [check, Violations.validate]
  simp only [passes]
  split <;> rfl

theorem check_eq_ok_iff : e.check = .ok () ↔ e.emptyFields = [] := by
  rw [check_eq]
  split <;> simp_all

/-- An errand at a service in front of any store: it is checked, then the store has it, and what
the store fails with is described. -/
def serve {m : Type → Type} [Monad m] (store : Errand → m (Except Failure Receipt)) (e : Errand) :
    m (Except Failure Receipt) :=
  match e.check with
  | .ok () => e.conclude <$> store e
  | .error f => pure (.error f)

/-- The store never hears of an errand that leaves a field empty. -/
theorem serve_of_empty {m : Type → Type} [Monad m] (store : Errand → m (Except Failure Receipt))
    (empty : e.emptyFields ≠ []) :
    e.serve store = pure (.error (.validation (Violations.ofChecks e.checks))) := by
  rw [serve, check_eq, if_neg empty]

end Errand

end PaymentRelay
