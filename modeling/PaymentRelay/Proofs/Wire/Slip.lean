import PaymentRelay.Payment.Slip
import PaymentRelay.Proofs.Json.Agreement
import PaymentRelay.Proofs.Json.Stable

/-
  Slips on the wire.

  A slip has two known fields and a dictionary of all other members. Since neither field is among
  those, each finds its place again when the slip is read back (`Slip.stable`), and members of
  different keys may be read in any order, be they known or not (`Slip.memberStep_comm`), so that a
  text and its value make the same slip (`Slip.agrees`).
-/

namespace PaymentRelay

namespace Slip

variable {src : Source} {room : Nat} {doc : Document} {s : Slip} {others : Dict Json}
  {slots : Slots [Option String, Option String]}

/-! ## Reading back -/

theorem faithful_known : known.Faithful room :=
  have text {name : String} : (Field.optional name .text .text).Faithful room :=
    Field.faithful_optional (Decoder.stable_of_readsBack Decoder.readsBack_text) fun _ => nofun
  ⟨text, text, trivial⟩

/-- What a slip that was read is made of: fields that are kept, and members of other names that are
passed through. -/
structure Kept (room : Nat) (s : Slip) : Prop where
  fields : known.Keeps room (s.mode, s.memo, ())
  others : ∀ e ∈ s.others.entries, known.Ignores e.1 ∧ Decoder.json.ReadsBack room e.2 e.2

theorem kept_of_collect {members : List (Document × Document)}
    (integral : Document.membersIntegral members = true) (found : known.KeepsFound room slots)
    (passed : ∀ e ∈ others.entries, known.Ignores e.1 ∧ Decoder.json.ReadsBack room e.2 e.2)
    (collected : collect (.text room) members slots others = .ok s) : s.Kept room := by
  induction members generalizing slots others with
  | nil =>
    obtain ⟨mode, memo, ⟨⟩⟩ := slots
    cases collected
    have getD {name : String} {slot : Option (Option String)}
        (found : ∀ a, slot = some a → (Field.optional name .text .text).Keeps room a) :
        (Field.optional name .text .text).Keeps room (slot.getD none) := by
      cases slot with
      | none => exact rfl
      | some a => exact found a rfl
    exact ⟨⟨getD found.1, getD found.2.1, trivial⟩, passed⟩
  | cons member rest ih =>
    obtain ⟨key, doc⟩ := member
    obtain ⟨first, later⟩ := Bool.and_eq_true_iff.mp integral
    unfold collect at collected
    split at collected
    · next eq => cases eq
    · next eq =>
      cases eq
      split at collected
      · next placed => exact ih later (faithful_known.place first found placed) passed collected
      · cases collected
      · next key _ _ _ unplaced =>
        split at collected
        · next j read =>
          refine ih later found (fun e mem => ?_) collected
          rcases Dict.mem_put mem with rfl | earlier
          · exact ⟨Fields.place_eq_none_iff.mp unplaced,
              Decoder.stable_json doc j first (Decoder.inside_eq_ok_iff.mp read)⟩
          · exact passed e earlier
        · cases collected
    · cases collected

/-- Members of other names are put among the others. -/
theorem collect_others {es : List (String × Json)}
    (passed : ∀ e ∈ es, known.Ignores e.1 ∧ Decoder.json.ReadsBack room e.2 e.2) :
    collect (.text room) (Document.ofMembers es) slots others =
      .ok ⟨slots.1.getD none, slots.2.1.getD none,
        es.foldl (fun d e => d.insert e.1 e.2) others⟩ := by
  induction es generalizing others with
  | nil => rfl
  | cons e rest ih =>
    obtain ⟨⟨ignored, back⟩, later⟩ := List.forall_mem_cons.mp passed
    rw [Document.ofMembers, collect, Fields.place_eq_none_iff.mpr ignored]
    simp only [back.decoded, Decoder.inside, ih later, List.foldl_cons]

theorem Kept.collect (kept : s.Kept room) :
    collect (.text room)
      (Document.ofMembers (known.members (s.mode, s.memo, ()) ++ s.others.entries))
      Slots.none .empty = .ok s := by
  have others (slots) :
      Slip.collect (.text room) (Document.ofMembers s.others.entries) slots .empty =
      .ok ⟨slots.1.getD none, slots.2.1.getD none, s.others⟩ := by
    have all : s.others.entries.foldl (fun d e => d.insert e.1 e.2) .empty = s.others :=
      s.others.ofList_entries
    rw [collect_others kept.others, all]
  obtain ⟨mode, memo, rest⟩ := s
  cases mode <;> cases memo <;> exact others _

theorem readsBack (title : String) (kept : s.Kept room) :
    (decoder title).ReadsBack (room + 1) s.encode s where
  integral := by
    rw [encode, Json.isIntegral, Json.membersIntegral_iff, List.forall_mem_append]
    exact ⟨Json.membersIntegral_iff.mp kept.fields.integral,
      fun e mem => (kept.others e mem).2.integral⟩
  decoded := by
    simp only [decoder, encode, Document.ofJson, Source.enter?, kept.collect]
    rfl

theorem stable (title : String) : (decoder title).Stable encode (room + 1) := by
  intro doc s integral decoded
  unfold decoder at decoded
  split at decoded
  · next members closed =>
    simp only [Source.enter?] at decoded
    split at decoded
    · cases decoded
    · next slip collected =>
      split at decoded
      · cases decoded
      · cases decoded
        have nothing : ∀ e ∈ (Dict.empty : Dict Json).entries,
            known.Ignores e.1 ∧ Decoder.json.ReadsBack room e.2 e.2 :=
          fun _ mem => absurd mem List.not_mem_nil
        exact readsBack title
          (kept_of_collect integral (Fields.keepsFound_none _) nothing collected)
  · cases decoded

/-! ## Text and value -/

/-- Takes in a member that is not known as it is. -/
def storeStep (src : Source) (key : String) (doc : Document) (others : Dict Json) :
    Option (Dict Json) :=
  if known.Ignores key then Decoder.entryStep .json src key doc others else some others

/-- Takes in a member of a slip: a known one as a field, any other as it is. -/
def memberStep (src : Source) (key : String) (doc : Document)
    (s : Slots [Option String, Option String] × Dict Json) :
    Option (Slots [Option String, Option String] × Dict Json) :=
  (Fields.placed src known key doc s.1).bind fun slots =>
    (storeStep src key doc s.2).map (slots, ·)

section
variable {key key' : String} {doc' : Document} {members : List (Document × Document)}
  {s : Slots [Option String, Option String] × Dict Json}

theorem storeStep_comm (ne : key ≠ key') :
    (storeStep src key doc others).bind (storeStep src key' doc') =
      (storeStep src key' doc' others).bind (storeStep src key doc) := by
  unfold storeStep
  by_cases other : known.Ignores key <;> by_cases other' : known.Ignores key' <;>
    simp only [other, other', if_true, if_false]
  · exact Decoder.entryStep_comm ne
  all_goals simp only [Option.bind_some, Option.bind_fun_some]

/-- Two members one after another: what is done to the fields and what is done to the others. -/
theorem memberStep_bind :
    (memberStep src key doc s).bind (memberStep src key' doc') =
      ((Fields.placed src known key doc s.1).bind (Fields.placed src known key' doc')).bind
        fun slots => ((storeStep src key doc s.2).bind (storeStep src key' doc')).map
          (slots, ·) := by
  unfold memberStep
  cases Fields.placed src known key doc s.1 with
  | none => rfl
  | some slots =>
    cases storeStep src key doc s.2 with
    | some others => rfl
    | none => simp only [Option.bind_some, Option.bind_none, Option.map_none, Option.bind_fun_none]

theorem memberStep_comm (ne : key ≠ key') :
    (memberStep src key doc s).bind (memberStep src key' doc') =
      (memberStep src key' doc' s).bind (memberStep src key doc) := by
  rw [memberStep_bind, memberStep_bind, Fields.placed_comm, storeStep_comm ne]

theorem collect_absorb :
    (collect src members slots others).toOption =
      (Document.absorb (memberStep src) members (slots, others)).map fun s =>
        ⟨s.1.1.getD none, s.1.2.1.getD none, s.2⟩ := by
  induction members generalizing slots others with
  | nil => rfl
  | cons member rest ih =>
    obtain ⟨key, doc⟩ := member
    cases key with
    | text key =>
      cases key with
      | none => rfl
      | some key =>
        rw [collect, Document.absorb, memberStep, Fields.placed, storeStep]
        cases placed : known.place src key doc slots with
        | some r =>
          have own : ¬known.Ignores key := fun other => by
            rw [Fields.place_eq_none_iff.mpr other] at placed
            cases placed
          rw [if_neg own]
          cases r with
          | error fault => rfl
          | ok slots => exact ih
        | none =>
          rw [if_pos (Fields.place_eq_none_iff.mp placed), Decoder.entryStep]
          cases Decoder.json src doc with
          | error fault => rfl
          | ok j => exact ih
    | _ => rfl

end

theorem agree_known : known.Agree :=
  have text : (Decoder.text.optional).Agrees := Decoder.agrees_optional Decoder.agrees_text
  ⟨text, text, trivial⟩

theorem toOption_object {inner : Source} {members : List (Document × Document)} (title : String)
    (entered : src.enter? = some inner) :
    (decoder title src (.object members true)).toOption =
      (collect inner members Slots.none .empty).toOption := by
  simp only [decoder, entered, Bool.not_true, Bool.and_false, if_neg Bool.false_ne_true]
  cases collect inner members Slots.none .empty <;> rfl

theorem agrees (title : String) : (decoder title).Agrees := by
  refine Decoder.agrees_of_parts ?plain ?array ?object
  case plain => exact fun _ _ doc plain => by cases doc <;> first | rfl | cases plain
  case array => exact fun _ _ _ _ _ => rfl
  case object =>
    intro room members ms read single
    have text : (Source.text (room + 1)).enter? = some (.text room) := rfl
    have value : Source.value.enter? = some .value := rfl
    rw [toOption_object title text, toOption_object title value, collect_absorb, collect_absorb]
    congr 1
    refine Document.absorb_sorted read single (fun k doc j s first single => ?_)
      fun _ _ _ _ _ ne => memberStep_comm ne
    have stored : storeStep (.text room) k doc s.2 =
        storeStep .value k (Document.ofJson j) s.2 := by
      rw [storeStep, storeStep, Decoder.entryStep, Decoder.entryStep,
        Decoder.agrees_json room doc j first single]
    rw [memberStep, memberStep, agree_known.placed first single, stored]

end Slip

end PaymentRelay
