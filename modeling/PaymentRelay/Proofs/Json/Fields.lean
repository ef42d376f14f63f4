import PaymentRelay.Json.Record

/-
  How a record is read, member by member.

  A member goes to the first field that answers to its name and leaves the others as they are
  (`Fields.place_of_answered`, `Fields.place_of_unanswered`); what no field answers to is skipped
  (`Fields.collect_cons`).
-/

namespace PaymentRelay

namespace Decoder

variable {α β : Type} {d : Decoder α} {r : Except Fault α} {b : β}

theorem map_eq_ok_iff {f : α → β} : r.map f = .ok b ↔ ∃ a, r = .ok a ∧ f a = b := by
  cases r <;> simp [Except.map]

theorem bind_eq_ok_iff {f : α → Except Fault β} :
    (r >>= f) = .ok b ↔ ∃ a, r = .ok a ∧ f a = .ok b := by
  cases r <;> simp [bind, Except.bind]

theorem inside_eq_ok_iff {step : Step} {a : α} : inside step r = .ok a ↔ r = .ok a := by
  cases r <;> simp [inside]

/-- Something that is not null is decoded as it would be if null were not allowed. -/
theorem optional_ofJson {src : Source} {j : Json} (something : j ≠ .null) :
    d.optional src (Document.ofJson j) = (d src (Document.ofJson j)).map some := by
  cases j with
  | null => exact absurd rfl something
  | _ => rfl

end Decoder

theorem Document.mem_ofMembers {members : List (String × Json)} {key : String} {j : Json}
    (mem : (key, j) ∈ members) : (.text (some key), ofJson j) ∈ ofMembers members := by
  induction members with
  | nil => cases mem
  | cons member rest ih =>
    rcases List.mem_cons.mp mem with rfl | later
    · exact List.mem_cons_self
    · exact List.mem_cons_of_mem _ (ih later)

/-- The values found so far of one field and of those after it. -/
def Slots.cons {α : Type} {ts : List Type} (slot : Option α) (slots : Slots ts) : Slots (α :: ts) :=
  (slot, slots)

/-- The values of one field and of those after it. -/
def Row.cons {α : Type} {ts : List Type} (a : α) (row : Row ts) : Row (α :: ts) := (a, row)

theorem Slots.none_cons {α : Type} {ts : List Type} :
    (Slots.none : Slots (α :: ts)) = .cons .none .none := rfl

namespace Fields

/-- The names of the fields. -/
def names : {ts : List Type} → Fields ts → List String
  | _, .nil => []
  | _, .cons f rest => f.name :: rest.names

/-- No field is read under the name of a later one. -/
def Distinct : {ts : List Type} → Fields ts → Prop
  | _, .nil => True
  | _, .cons f rest => (∀ name ∈ rest.names, f.answersTo name = false) ∧ rest.Distinct

instance decidableDistinct : {ts : List Type} → (fs : Fields ts) → Decidable fs.Distinct
  | _, .nil => isTrue trivial
  | _, .cons f rest =>
    have := decidableDistinct rest
    inferInstanceAs (Decidable ((∀ name ∈ rest.names, f.answersTo name = false) ∧ rest.Distinct))

/-- No field is read under this name. -/
def Ignores (key : String) : {ts : List Type} → Fields ts → Prop
  | _, .nil => True
  | _, .cons f rest => f.answersTo key = false ∧ rest.Ignores key

instance decidableIgnores (key : String) : {ts : List Type} → (fs : Fields ts) →
    Decidable (fs.Ignores key)
  | _, .nil => isTrue trivial
  | _, .cons f rest =>
    have := decidableIgnores key rest
    inferInstanceAs (Decidable (f.answersTo key = false ∧ rest.Ignores key))

variable {α : Type} {ts : List Type} {f : Field α} {fs : Fields ts} {slots : Slots ts}
  {src : Source} {key : String} {doc : Document}

theorem place_of_unanswered {slot : Option α}
    (other : f.answersTo key = false) :
    (Fields.cons f fs).place src key doc (.cons slot slots) =
      (fs.place src key doc slots).map (Except.map (.cons slot)) := by
  show (if f.answersTo key then _ else _) = _
  rw [other, if_neg Bool.false_ne_true]
  rcases fs.place src key doc slots with - | - | - <;> rfl

theorem place_of_answered (own : f.answersTo key = true) :
    (Fields.cons f fs).place src key doc (.cons none slots) =
      some ((Decoder.inside (.field key) (f.decoder src doc)).map
        fun a => .cons (some a) slots) := by
  show (if f.answersTo key then _ else _) = _
  rw [own, if_pos rfl]
  cases Decoder.inside (.field key) (f.decoder src doc) <;> rfl

theorem place_of_repeated {a : α} (own : f.answersTo key = true) :
    (Fields.cons f fs).place src key doc (.cons (some a) slots) =
      some (.error (.here (.duplicateField f.name))) := by
  show (if f.answersTo key then _ else _) = _
  rw [own, if_pos rfl]

/-- A member is placed where it was not found yet, in the field that it is for. -/
theorem place_eq_ok {slot : Option α} {slots' : Slots (α :: ts)}
    (placed : (Fields.cons f fs).place src key doc (.cons slot slots) = some (.ok slots')) :
    (f.answersTo key = false ∧ ∃ later, fs.place src key doc slots = some (.ok later) ∧
      slots' = .cons slot later) ∨
    (f.answersTo key = true ∧ slot = none ∧ ∃ a, f.decoder src doc = .ok a ∧
      slots' = .cons (some a) slots) := by
  cases own : f.answersTo key with
  | false =>
    rw [place_of_unanswered own] at placed
    obtain ⟨result, later, same⟩ := Option.map_eq_some_iff.mp placed
    obtain ⟨slots, rfl, rfl⟩ := Decoder.map_eq_ok_iff.mp same
    exact .inl ⟨rfl, slots, later, rfl⟩
  | true =>
    cases slot with
    | some a =>
      rw [place_of_repeated own] at placed
      cases placed
    | none =>
      rw [place_of_answered own] at placed
      obtain ⟨a, read, rfl⟩ := Decoder.map_eq_ok_iff.mp (Option.some.inj placed)
      exact .inr ⟨rfl, rfl, a, Decoder.inside_eq_ok_iff.mp read, rfl⟩

/-- A member of an object that is read has a key, and is placed or skipped. -/
theorem collect_eq_ok {k : Document} {rest : List (Document × Document)} {slots' : Slots ts}
    (collected : fs.collect src ((k, doc) :: rest) slots = .ok slots') :
    ∃ key, k = .text (some key) ∧
      ((∃ later, fs.place src key doc slots = some (.ok later) ∧
        fs.collect src rest later = .ok slots') ∨
      (fs.place src key doc slots = none ∧ fs.collect src rest slots = .ok slots')) := by
  unfold Fields.collect at collected
  split at collected
  · next eq => cases eq
  · next eq =>
    cases eq
    refine ⟨_, rfl, ?_⟩
    split at collected
    · next later placed => exact .inl ⟨later, placed, collected⟩
    · cases collected
    · next unplaced =>
      split at collected
      · exact .inr ⟨unplaced, collected⟩
      · cases collected
  · cases collected

theorem place_eq_none_iff : fs.place src key doc slots = none ↔ fs.Ignores key := by
  induction fs with
  | nil => exact iff_of_true rfl trivial
  | cons f rest ih =>
    obtain ⟨slot, slots⟩ := slots
    change (cons f rest).place src key doc (.cons slot slots) = none ↔ _
    cases own : f.answersTo key with
    | false => rw [place_of_unanswered own, Option.map_eq_none_iff, ih, Ignores, own]; simp
    | true =>
      rw [Ignores, own]
      cases slot with
      | none => rw [place_of_answered own]; simp
      | some a => rw [place_of_repeated own]; simp

theorem collect_cons {rest : List (Document × Document)} :
    fs.collect src ((.text (some key), doc) :: rest) slots =
      match fs.place src key doc slots with
      | some placed => placed.bind (fs.collect src rest)
      | none => (Decoder.skip src doc).bind fun _ => fs.collect src rest slots := by
  rw [collect]
  split <;> rename_i placed
  · rw [placed]; rfl
  · rw [placed]; rfl
  · rw [placed]
    cases Decoder.skip src doc <;> rfl

/-- Members under other names pass a field by. -/
theorem collect_cons_of_unanswered {members : List (String × Json)} {slot : Option α}
    (unanswered : ∀ e ∈ members, f.answersTo e.1 = false) :
    (Fields.cons f fs).collect src (Document.ofMembers members) (.cons slot slots) =
      (fs.collect src (Document.ofMembers members) slots).map (.cons slot) := by
  induction members generalizing slots with
  | nil => rfl
  | cons e rest ih =>
    obtain ⟨key, j⟩ := e
    obtain ⟨other, others⟩ := List.forall_mem_cons.mp unanswered
    rw [Document.ofMembers, collect_cons, collect_cons, place_of_unanswered other]
    rcases fs.place src key (Document.ofJson j) slots with - | (fault | slots)
    · cases Decoder.skip src (Document.ofJson j) with
      | ok _ => exact ih others
      | error fault => rfl
    · rfl
    · exact ih others

/-- The field that answers to a key, if there is one, decodes a document. -/
def Takes (src : Source) (key : String) (doc : Document) : {ts : List Type} → Fields ts → Prop
  | _, .nil => True
  | _, .cons f rest =>
    if f.answersTo key then ∃ a, f.decoder src doc = .ok a else rest.Takes src key doc

theorem takes_of_ignores (ignored : fs.Ignores key) : fs.Takes src key doc := by
  induction fs with
  | nil => trivial
  | cons f rest ih =>
    rw [Takes, ignored.1, if_neg Bool.false_ne_true]
    exact ih ignored.2

theorem takes_of_place {slots' : Slots ts}
    (placed : fs.place src key doc slots = some (.ok slots')) : fs.Takes src key doc := by
  induction fs with
  | nil => cases placed
  | cons f rest ih =>
    obtain ⟨slot, slots⟩ := slots
    rw [Takes]
    obtain ⟨other, later, placed, -⟩ | ⟨own, -, a, read, -⟩ := place_eq_ok placed
    · rw [other, if_neg Bool.false_ne_true]
      exact ih placed
    · rw [own, if_pos rfl]
      exact ⟨a, read⟩

/-- Members that are read to their end are members that their fields decode. -/
theorem takes_of_collect {members : List (Document × Document)} {slots' : Slots ts}
    (collected : fs.collect src members slots = .ok slots')
    (mem : (.text (some key), doc) ∈ members) : fs.Takes src key doc := by
  induction members generalizing slots with
  | nil => cases mem
  | cons member rest ih =>
    obtain ⟨k, first, ⟨later, placed, collected⟩ | ⟨unplaced, collected⟩⟩ :=
      collect_eq_ok collected
    · rcases List.mem_cons.mp mem with rfl | others
      · cases first
        exact takes_of_place placed
      · exact ih collected others
    · rcases List.mem_cons.mp mem with rfl | others
      · cases first
        exact takes_of_ignores (place_eq_none_iff.mp unplaced)
      · exact ih collected others

theorem names_members (fs : Fields ts) (row : Row ts) :
    ∀ e ∈ fs.members row, e.1 ∈ fs.names := by
  induction fs with
  | nil => exact fun _ => nofun
  | cons f rest ih =>
    obtain ⟨a, row⟩ := row
    intro e mem
    rw [Fields.members] at mem
    split at mem
    · rcases List.mem_cons.mp mem with rfl | later
      · exact List.mem_cons_self
      · exact List.mem_cons_of_mem _ (ih row e later)
    · exact List.mem_cons_of_mem _ (ih row e mem)

end Fields

end PaymentRelay
