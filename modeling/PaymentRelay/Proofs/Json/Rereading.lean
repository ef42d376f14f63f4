import PaymentRelay.Proofs.Json.Fields
import PaymentRelay.Proofs.Json.Values

/-
  Records that are read back as they were written.

  A decoder and an encoder agree (`Decoder.Stable`) when whatever is decoded from a document of
  integers is written so that it is decoded again, with the same room for brackets. That a record
  does so is put together from its fields (`Record.stable`): each must read back what it writes,
  whether it was found or absent, and a field that is left out must be the one that is taken when it
  is absent (`Field.Faithful`). In what way the record was written at first does not matter.
-/

namespace PaymentRelay

namespace Decoder

variable {α : Type} {d : Decoder α} {e : α → Json} {room : Nat} {j : Json} {a : α}

/-- A value is written so that it is decoded again where brackets may nest this deep. -/
structure ReadsBack (d : Decoder α) (room : Nat) (j : Json) (a : α) : Prop where
  integral : j.isIntegral = true
  decoded : d (.text room) (Document.ofJson j) = .ok a

/-- Everything that is decoded from a document of integers is decoded again from what is written of
it. -/
def Stable (d : Decoder α) (e : α → Json) (room : Nat) : Prop :=
  ∀ doc a, doc.isIntegral = true → d (.text room) doc = .ok a → d.ReadsBack room (e a) a

/-- A value that fits a text is decoded from its text. -/
theorem ReadsBack.print (back : d.ReadsBack Source.maxDepth j a) : d.ofString j.print = .ok a := by
  rw [ofString_print d back.integral, back.decoded]

end Decoder

/-! ## Fields -/

namespace Field

variable {α : Type} {room : Nat} {name : String} {d : Decoder α} {e : α → Json} {a : α} {j : Json}

/-- What is written of the value of a field gives the value back; nothing is written of the value
that an absent field has. -/
def Keeps (f : Field α) (room : Nat) (a : α) : Prop :=
  match f.encode a with
  | some j => f.decoder.ReadsBack room j a
  | none => f.absent = some a

theorem keeps_some {f : Field α} (encoded : f.encode a = some j) :
    f.Keeps room a ↔ f.decoder.ReadsBack room j a := by
  rw [Keeps, encoded]

theorem keeps_none {f : Field α} (encoded : f.encode a = none) :
    f.Keeps room a ↔ f.absent = some a := by
  rw [Keeps, encoded]

/-- Every value that a field can get is kept. -/
structure Faithful (f : Field α) (room : Nat) : Prop where
  read : ∀ doc a, doc.isIntegral = true → f.decoder (.text room) doc = .ok a → f.Keeps room a
  absent : ∀ a, f.absent = some a → f.Keeps room a

theorem faithful_required (stable : d.Stable e room) : (required name d e).Faithful room :=
  ⟨stable, nofun⟩

theorem faithful_withDefault (stable : d.Stable e room) (default : d.ReadsBack room (e a) a) :
    (withDefault name d e a).Faithful room :=
  ⟨stable, fun _ same => Option.some.inj same ▸ default⟩

theorem keeps_optional (back : d.ReadsBack room (e a) a) (something : e a ≠ .null) :
    (optional name d e).Keeps room (some a) := by
  refine ⟨back.integral, ?_⟩
  show d.optional (.text room) (Document.ofJson (e a)) = .ok (some a)
  rw [Decoder.optional_ofJson something, back.decoded]
  rfl

theorem faithful_optional (stable : d.Stable e room) (something : ∀ a, e a ≠ .null) :
    (optional name d e).Faithful room where
  read doc a integral decoded := by
    have nothing : (optional name d e).Keeps room none := rfl
    simp only [optional, Decoder.optional] at decoded
    split at decoded
    · cases decoded
      exact nothing
    · obtain ⟨b, inner, rfl⟩ := Decoder.map_eq_ok_iff.mp decoded
      exact keeps_optional (stable doc b integral inner) (something b)
  absent a same := by
    cases same
    exact rfl

end Field

namespace Fields

/-- Every field is faithful. -/
def Faithful (room : Nat) : {ts : List Type} → Fields ts → Prop
  | _, .nil => True
  | _, .cons f rest => f.Faithful room ∧ rest.Faithful room

/-- The value of every field is kept. -/
def Keeps (room : Nat) : {ts : List Type} → Fields ts → Row ts → Prop
  | _, .nil, _ => True
  | _, .cons f rest, (a, row) => f.Keeps room a ∧ rest.Keeps room row

/-- The values found so far are kept. -/
def KeepsFound (room : Nat) : {ts : List Type} → Fields ts → Slots ts → Prop
  | _, .nil, _ => True
  | _, .cons f rest, (slot, slots) =>
    (∀ a, slot = some a → f.Keeps room a) ∧ rest.KeepsFound room slots

/-- The values of the fields that are written. -/
def written : {ts : List Type} → Fields ts → Row ts → Slots ts
  | _, .nil, _ => ()
  | _, .cons f rest, (a, row) => ((f.encode a).map fun _ => a, rest.written row)

section
variable {α : Type} {room : Nat} {ts : List Type} {f : Field α} {fs : Fields ts}
  {slots slots' : Slots ts} {row : Row ts} {src : Source}

/-! What is read is kept. -/

theorem keepsFound_none (fs : Fields ts) : fs.KeepsFound room Slots.none := by
  induction fs with
  | nil => trivial
  | cons f rest ih => exact ⟨nofun, ih⟩

theorem Faithful.place {key : String} {doc : Document} (faithful : fs.Faithful room)
    (integral : doc.isIntegral = true) (kept : fs.KeepsFound room slots)
    (placed : fs.place (.text room) key doc slots = some (.ok slots')) :
    fs.KeepsFound room slots' := by
  induction fs with
  | nil => cases placed
  | cons f rest ih =>
    obtain ⟨slot, slots⟩ := slots
    obtain ⟨-, later, there, rfl⟩ | ⟨-, -, a, read, rfl⟩ := place_eq_ok placed
    · exact ⟨kept.1, ih faithful.2 kept.2 there⟩
    · have first := faithful.1.read doc a integral read
      exact ⟨fun b same => Option.some.inj same ▸ first, kept.2⟩

theorem Faithful.collect {members : List (Document × Document)} (faithful : fs.Faithful room)
    (integral : Document.membersIntegral members = true) (kept : fs.KeepsFound room slots)
    (collected : fs.collect (.text room) members slots = .ok slots') :
    fs.KeepsFound room slots' := by
  induction members generalizing slots with
  | nil =>
    cases collected
    exact kept
  | cons member rest ih =>
    obtain ⟨first, others⟩ := Bool.and_eq_true_iff.mp integral
    obtain ⟨k, -, ⟨later, placed, collected⟩ | ⟨-, collected⟩⟩ := collect_eq_ok collected
    · exact ih others (faithful.place first kept placed) collected
    · exact ih others kept collected

theorem Faithful.complete (faithful : fs.Faithful room) (kept : fs.KeepsFound room slots)
    (completed : fs.complete slots = .ok row) : fs.Keeps room row := by
  induction fs with
  | nil => trivial
  | cons f rest ih =>
    obtain ⟨slot, slots⟩ := slots
    rw [Fields.complete] at completed
    split at completed
    · next a found =>
      obtain ⟨row, others, rfl⟩ := Decoder.map_eq_ok_iff.mp completed
      refine ⟨?_, ih faithful.2 kept.2 others⟩
      rcases Option.or_eq_some_iff.mp found with there | ⟨-, default⟩
      · exact kept.1 a there
      · exact faithful.1.absent a default
    · cases completed

theorem Faithful.ofItems {docs : List Document} {closed : Bool} {expected : String} {index : Nat}
    (faithful : fs.Faithful room) (integral : Document.areIntegral docs = true)
    (read : fs.ofItems (.text room) closed expected index docs = .ok row) : fs.Keeps room row := by
  induction fs generalizing docs index with
  | nil => trivial
  | cons f rest ih =>
    cases docs with
    | nil =>
      rw [Fields.ofItems] at read
      split at read
      · cases read
      · split at read
        · next a default =>
          obtain ⟨row, others, rfl⟩ := Decoder.map_eq_ok_iff.mp read
          exact ⟨faithful.1.absent a default, ih faithful.2 integral others⟩
        · cases read
    | cons doc docs =>
      obtain ⟨first, later⟩ := Bool.and_eq_true_iff.mp integral
      rw [Fields.ofItems] at read
      split at read
      · next a item =>
        obtain ⟨row, others, rfl⟩ := Decoder.map_eq_ok_iff.mp read
        have decoded := Decoder.inside_eq_ok_iff.mp item
        exact ⟨faithful.1.read doc a first decoded, ih faithful.2 later others⟩
      · cases read

/-! What is kept is read back. -/

theorem Keeps.collect (kept : fs.Keeps room row) (distinct : fs.Distinct) :
    fs.collect (.text room) (Document.ofMembers (fs.members row)) Slots.none =
      .ok (fs.written row) := by
  induction fs with
  | nil => rfl
  | cons f rest ih =>
    obtain ⟨a, row⟩ := row
    have unanswered (e) (mem : e ∈ rest.members row) : f.answersTo e.1 = false :=
      distinct.1 e.1 (names_members rest row e mem)
    have others (slot) :
        (cons f rest).collect (.text room) (Document.ofMembers (rest.members row))
          (.cons slot Slots.none) = .ok (.cons slot (rest.written row)) := by
      rw [collect_cons_of_unanswered unanswered, ih kept.2 distinct.2]
      rfl
    have first : f.Keeps room a := kept.1
    rw [Fields.members, Fields.written]
    cases encoded : f.encode a with
    | none => exact others none
    | some j =>
      have back := (Field.keeps_some encoded).mp first
      have own : f.answersTo f.name = true := by simp [Field.answersTo]
      show (cons f rest).collect (.text room) ((.text (some f.name), Document.ofJson j) ::
        Document.ofMembers (rest.members row)) Slots.none = _
      rw [collect_cons, Slots.none_cons, place_of_answered own, back.decoded]
      exact others (some a)

theorem Keeps.complete (kept : fs.Keeps room row) : fs.complete (fs.written row) = .ok row := by
  induction fs with
  | nil => rfl
  | cons f rest ih =>
    obtain ⟨a, row⟩ := row
    have first : f.Keeps room a := kept.1
    have found : ((f.encode a).map fun _ => a).or f.absent = some a := by
      cases encoded : f.encode a with
      | none => exact (Field.keeps_none encoded).mp first
      | some j => rfl
    rw [Fields.written, Fields.complete, found]
    simp only [ih kept.2, Except.map]

theorem Keeps.integral (kept : fs.Keeps room row) :
    Json.membersIntegral (fs.members row) = true := by
  induction fs with
  | nil => rfl
  | cons f rest ih =>
    obtain ⟨a, row⟩ := row
    have first : f.Keeps room a := kept.1
    rw [Fields.members]
    cases encoded : f.encode a with
    | none => exact ih kept.2
    | some j =>
      have back := (Field.keeps_some encoded).mp first
      show (j.isIntegral && Json.membersIntegral (rest.members row)) = true
      rw [back.integral, ih kept.2]
      rfl

end

end Fields

/-! ## Records -/

namespace Record

variable {α : Type} {r : Record α} {room : Nat} {a : α}

/-- A record of kept fields is read back where there is room for one more bracket. -/
theorem readsBack (kept : r.fields.Keeps room (r.parts a)) (distinct : r.fields.Distinct) :
    r.decoder.ReadsBack (room + 1) (r.encode a) a where
  integral := kept.integral
  decoded := by
    rw [encode, Document.ofJson, decoder]
    simp only [Source.enter?, kept.collect distinct, kept.complete, Source.isText, Except.map,
      r.build_parts]
    rfl

/-- Where a record is read from what is written of a value, every member is decoded. -/
theorem takes_of_decoded {b : α} {key : String} {j : Json}
    (decoded : r.decoder (.text (room + 1)) (Document.ofJson (r.encode a)) = .ok b)
    (mem : (key, j) ∈ r.fields.members (r.parts a)) :
    r.fields.Takes (.text room) key (Document.ofJson j) := by
  rw [encode, Document.ofJson, decoder] at decoded
  simp only [Source.enter?] at decoded
  split at decoded
  · cases decoded
  · next slots collected => exact Fields.takes_of_collect collected (Document.mem_ofMembers mem)

/-- The fields of a record that was read are kept. -/
theorem keeps_of_decoded {doc : Document} (faithful : r.fields.Faithful room)
    (integral : doc.isIntegral = true) (decoded : r.decoder (.text (room + 1)) doc = .ok a) :
    r.fields.Keeps room (r.parts a) := by
  unfold decoder at decoded
  split at decoded
  · next members closed =>
    simp only [Source.enter?] at decoded
    split at decoded
    · cases decoded
    · next slots collected =>
      split at decoded
      · cases decoded
      · obtain ⟨row, completed, rfl⟩ := Decoder.map_eq_ok_iff.mp decoded
        rw [r.parts_build]
        have kept := faithful.collect integral (Fields.keepsFound_none _) collected
        exact faithful.complete kept completed
  · next items closed =>
    simp only [Source.enter?] at decoded
    obtain ⟨row, read, rfl⟩ := Decoder.map_eq_ok_iff.mp decoded
    rw [r.parts_build]
    exact faithful.ofItems integral read
  · cases decoded

theorem stable (faithful : r.fields.Faithful room) (distinct : r.fields.Distinct) :
    r.decoder.Stable r.encode (room + 1) :=
  fun _ _ integral decoded => readsBack (keeps_of_decoded faithful integral decoded) distinct

end Record

end PaymentRelay
