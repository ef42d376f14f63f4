import PaymentRelay.Proofs.Dict
import PaymentRelay.Proofs.Json.Reading

/-
  Values that are passed through unread.

  A value that is decoded as it is comes out canonical and no deeper than its text
  (`toJson?_eq_some`). A canonical value is decoded as itself where there is room for its brackets,
  and nowhere else (`toJson?_ofJson`).
-/

namespace PaymentRelay

namespace Json

mutual

/-- How deep the brackets of a value nest. -/
def depth : Json → Nat
  | .array items => depthOfItems items + 1
  | .object members => depthOfMembers members + 1
  | _ => 0

/-- The depth of the deepest item. -/
def depthOfItems : List Json → Nat
  | [] => 0
  | j :: rest => max (depth j) (depthOfItems rest)

/-- The depth of the deepest value of a member. -/
def depthOfMembers : List (String × Json) → Nat
  | [] => 0
  | (_, j) :: rest => max (depth j) (depthOfMembers rest)

end

theorem canonicalItems_eq (items : List Json) : canonicalItems items = items.map canonical := by
  induction items with
  | nil => rfl
  | cons j rest ih => rw [canonicalItems, ih, List.map_cons]

theorem canonicalMembers_eq (members : List (String × Json)) :
    canonicalMembers members = members.map fun e => (e.1, e.2.canonical) := by
  induction members with
  | nil => rfl
  | cons e rest ih => rw [canonicalMembers, ih, List.map_cons]

theorem areIntegral_iff {items : List Json} :
    areIntegral items = true ↔ ∀ j ∈ items, j.isIntegral = true := by
  induction items with
  | nil => simp [areIntegral]
  | cons j rest ih => simp [areIntegral, ih]

theorem membersIntegral_iff {members : List (String × Json)} :
    membersIntegral members = true ↔ ∀ e ∈ members, e.2.isIntegral = true := by
  induction members with
  | nil => simp [membersIntegral]
  | cons e rest ih => simp [membersIntegral, ih]

end Json

namespace Source

/-- There is room for brackets of a depth. -/
def Holds : Source → Nat → Prop
  | .text room, n => n ≤ room
  | .value, _ => True

instance (src : Source) (n : Nat) : Decidable (src.Holds n) :=
  match src with
  | .text room => inferInstanceAs (Decidable (n ≤ room))
  | .value => inferInstanceAs (Decidable True)

theorem holds_zero (src : Source) : src.Holds 0 := by
  cases src with
  | text room => exact Nat.zero_le room
  | value => trivial

theorem holds_max {src : Source} {n m : Nat} : src.Holds (max n m) ↔ src.Holds n ∧ src.Holds m := by
  cases src with
  | text room => exact Nat.max_le
  | value => simp [Holds]

theorem holds_succ {src : Source} {n : Nat} :
    src.Holds (n + 1) ↔ ∃ inner, src.enter? = some inner ∧ inner.Holds n := by
  match src with
  | .text 0 => simp [Holds, enter?]
  | .text (room + 1) => simp [Holds, enter?]
  | .value => simp [Holds, enter?]

theorem holds_items {src : Source} {items : List Json} :
    src.Holds (Json.depthOfItems items) ↔ ∀ j ∈ items, src.Holds j.depth := by
  induction items with
  | nil => simp [Json.depthOfItems, holds_zero]
  | cons j rest ih => simp [Json.depthOfItems, holds_max, ih]

theorem holds_members {src : Source} {members : List (String × Json)} :
    src.Holds (Json.depthOfMembers members) ↔ ∀ e ∈ members, src.Holds e.2.depth := by
  induction members with
  | nil => simp [Json.depthOfMembers, holds_zero]
  | cons e rest ih => simp [Json.depthOfMembers, holds_max, ih]

end Source

namespace Decoder

/-! ## Values as documents -/

mutual

theorem toJson?_ofJson (src : Source) (j : Json) :
    toJson? src (Document.ofJson j) = if src.Holds j.depth then some j.canonical else none := by
  match j with
  | .null | .bool _ | .number _ | .text _ =>
    simp [Document.ofJson, toJson?, Json.depth, Json.canonical, src.holds_zero]
  | .array items =>
    rw [Document.ofJson, toJson?, Json.depth, Json.canonical]
    cases entered : src.enter? with
    | none => simp [Source.holds_succ, entered]
    | some inner =>
      simp only [Source.holds_succ, entered, Option.some.injEq, exists_eq_left',
        toItems?_ofItems inner items, if_true]
      split <;> rfl
  | .object members =>
    rw [Document.ofJson, toJson?, Json.depth, Json.canonical]
    cases entered : src.enter? with
    | none => simp [Source.holds_succ, entered]
    | some inner =>
      simp only [Source.holds_succ, entered, Option.some.injEq, exists_eq_left',
        toMembers?_ofMembers inner members, if_true]
      split <;> rfl

theorem toItems?_ofItems (src : Source) (items : List Json) :
    toItems? src (Document.ofItems items) =
      if src.Holds (Json.depthOfItems items) then some (Json.canonicalItems items) else none := by
  match items with
  | [] =>
    rw [Json.depthOfItems, if_pos src.holds_zero]
    rfl
  | j :: rest =>
    rw [Document.ofItems, toItems?, toJson?_ofJson src j, toItems?_ofItems src rest,
      Json.depthOfItems, Json.canonicalItems]
    by_cases first : src.Holds j.depth <;>
      by_cases others : src.Holds (Json.depthOfItems rest) <;>
        simp [Source.holds_max, first, others]

theorem toMembers?_ofMembers (src : Source) (members : List (String × Json)) :
    toMembers? src (Document.ofMembers members) =
      if src.Holds (Json.depthOfMembers members) then some (Json.canonicalMembers members)
      else none := by
  match members with
  | [] =>
    rw [Json.depthOfMembers, if_pos src.holds_zero]
    rfl
  | (k, j) :: rest =>
    rw [Document.ofMembers, toMembers?, toJson?_ofJson src j, toMembers?_ofMembers src rest,
      Json.depthOfMembers, Json.canonicalMembers]
    by_cases first : src.Holds j.depth <;>
      by_cases others : src.Holds (Json.depthOfMembers rest) <;>
        simp [Source.holds_max, first, others]

end

/-! ## Values of documents -/

section
variable {src : Source} {doc key : Document} {docs : List Document}
  {members : List (Document × Document)} {closed : Bool} {j : Json} {js : List Json}
  {ms : List (String × Json)}

theorem toJson?_array_iff :
    toJson? src (.array docs closed) = some j ↔
      ∃ inner js, src.enter? = some inner ∧ closed = true ∧ toItems? inner docs = some js ∧
        j = .array js := by
  rw [toJson?]
  cases src.enter? with
  | none => simp
  | some inner => cases closed <;> simp [eq_comm]

theorem toJson?_object_iff :
    toJson? src (.object members closed) = some j ↔
      ∃ inner ms, src.enter? = some inner ∧ closed = true ∧ toMembers? inner members = some ms ∧
        j = .object (Dict.ofList ms).entries := by
  rw [toJson?]
  cases src.enter? with
  | none => simp
  | some inner => cases closed <;> simp [eq_comm]

theorem toItems?_cons_iff :
    toItems? src (doc :: docs) = some js ↔
      ∃ j rest, toJson? src doc = some j ∧ toItems? src docs = some rest ∧ js = j :: rest := by
  rw [toItems?]
  split
  · next j rest first others => simp [first, others, eq_comm]
  · next none =>
    simp only [reduceCtorEq, false_iff]
    rintro ⟨j, rest, first, others, -⟩
    exact none j rest first others

theorem toMembers?_cons_iff :
    toMembers? src ((key, doc) :: members) = some ms ↔
      ∃ k j rest, key = .text (some k) ∧ toJson? src doc = some j ∧
        toMembers? src members = some rest ∧ ms = (k, j) :: rest := by
  cases key with
  | text name =>
    cases name with
    | none => simp [toMembers?]
    | some k =>
      rw [toMembers?]
      split
      · next j rest first others => simp [first, others, eq_comm]
      · next none =>
        simp only [reduceCtorEq, false_iff]
        rintro ⟨k, j, rest, -, first, others, -⟩
        exact none j rest first others
  | _ => simp [toMembers?]

end

/-- A value as it comes out of a document. -/
structure Passed (src : Source) (integral : Bool) (j : Json) : Prop where
  canonical : j.canonical = j
  fits : src.Holds j.depth
  /-- It has no numbers but those of the document. -/
  integral : integral = true → j.isIntegral = true

mutual

theorem passed_of_toJson? {src : Source} {doc : Document} {j : Json}
    (h : toJson? src doc = some j) : Passed src doc.isIntegral j := by
  match doc with
  | .null | .bool _ =>
    cases h
    exact ⟨rfl, src.holds_zero, fun _ => rfl⟩
  | .number n =>
    obtain ⟨n, rfl, rfl⟩ := Option.map_eq_some_iff.mp h
    exact ⟨rfl, src.holds_zero, id⟩
  | .text s =>
    obtain ⟨s, rfl, rfl⟩ := Option.map_eq_some_iff.mp h
    exact ⟨rfl, src.holds_zero, fun _ => rfl⟩
  | .broken => cases h
  | .array docs closed =>
    obtain ⟨inner, js, entered, -, read, rfl⟩ := toJson?_array_iff.mp h
    have passed := passed_of_toItems? read
    refine ⟨?_, ?_, fun integral => ?_⟩
    · rw [Json.canonical, Json.canonicalItems_eq]
      have same : js.map Json.canonical = js.map id :=
        List.map_congr_left fun j hj => (passed j hj).canonical
      rw [same, List.map_id]
    · rw [Json.depth, Source.holds_succ]
      exact ⟨inner, entered, Source.holds_items.mpr fun j hj => (passed j hj).fits⟩
    · rw [Json.isIntegral, Json.areIntegral_iff]
      exact fun j hj => (passed j hj).integral (by rwa [Document.isIntegral] at integral)
  | .object members closed =>
    obtain ⟨inner, ms, entered, -, read, rfl⟩ := toJson?_object_iff.mp h
    have passed := passed_of_toMembers? read
    have kept (e) (he : e ∈ (Dict.ofList ms).entries) := passed e (Dict.mem_of_mem_ofList he)
    refine ⟨?_, ?_, fun integral => ?_⟩
    · have same : Json.canonicalMembers (Dict.ofList ms).entries = (Dict.ofList ms).entries := by
        have values : (Dict.ofList ms).entries.map (fun e => (e.1, e.2.canonical)) =
            (Dict.ofList ms).entries.map id :=
          List.map_congr_left fun e he => Prod.ext rfl (kept e he).canonical
        rw [Json.canonicalMembers_eq, values, List.map_id]
      rw [Json.canonical, same, Dict.ofList_entries]
    · rw [Json.depth, Source.holds_succ]
      exact ⟨inner, entered, Source.holds_members.mpr fun e he => (kept e he).fits⟩
    · rw [Json.isIntegral, Json.membersIntegral_iff]
      exact fun e he => (kept e he).integral (by rwa [Document.isIntegral] at integral)

theorem passed_of_toItems? {src : Source} {docs : List Document} {js : List Json}
    (h : toItems? src docs = some js) :
    ∀ j ∈ js, Passed src (Document.areIntegral docs) j := by
  match docs with
  | [] =>
    cases h
    exact fun _ => nofun
  | doc :: docs =>
    obtain ⟨j, rest, first, others, rfl⟩ := toItems?_cons_iff.mp h
    have passed := passed_of_toJson? first
    have later := passed_of_toItems? others
    rw [Document.areIntegral, List.forall_mem_cons]
    refine ⟨⟨passed.canonical, passed.fits, fun both => passed.integral ?_⟩, fun k hk =>
      ⟨(later k hk).canonical, (later k hk).fits, fun both => (later k hk).integral ?_⟩⟩
    · exact (Bool.and_eq_true_iff.mp both).1
    · exact (Bool.and_eq_true_iff.mp both).2

theorem passed_of_toMembers? {src : Source} {docs : List (Document × Document)}
    {ms : List (String × Json)} (h : toMembers? src docs = some ms) :
    ∀ e ∈ ms, Passed src (Document.membersIntegral docs) e.2 := by
  match docs with
  | [] =>
    cases h
    exact fun _ => nofun
  | (key, doc) :: docs =>
    obtain ⟨k, j, rest, -, first, others, rfl⟩ := toMembers?_cons_iff.mp h
    have passed := passed_of_toJson? first
    have later := passed_of_toMembers? others
    rw [Document.membersIntegral, List.forall_mem_cons]
    refine ⟨⟨passed.canonical, passed.fits, fun both => passed.integral ?_⟩, fun k hk =>
      ⟨(later k hk).canonical, (later k hk).fits, fun both => (later k hk).integral ?_⟩⟩
    · exact (Bool.and_eq_true_iff.mp both).1
    · exact (Bool.and_eq_true_iff.mp both).2

end

/-- A value has room for any other value. -/
theorem toJson?_value (j : Json) : toJson? .value (Document.ofJson j) = some j.canonical :=
  (toJson?_ofJson .value j).trans (if_pos trivial)

/-- A value that comes out of a document is decoded as itself. -/
theorem toJson?_passed {src src' : Source} {doc : Document} {j : Json}
    (h : toJson? src doc = some j) (fits : src'.Holds j.depth) :
    toJson? src' (Document.ofJson j) = some j := by
  rw [toJson?_ofJson, if_pos fits, (passed_of_toJson? h).canonical]

end Decoder

mutual

theorem Document.isIntegral_ofJson (j : Json) : (ofJson j).isIntegral = j.isIntegral := by
  match j with
  | .null | .bool _ | .number _ | .text _ => rfl
  | .array items => exact areIntegral_ofItems items
  | .object members => exact membersIntegral_ofMembers members

theorem Document.areIntegral_ofItems (items : List Json) :
    areIntegral (ofItems items) = Json.areIntegral items := by
  match items with
  | [] => rfl
  | j :: rest =>
    rw [ofItems, areIntegral, Json.areIntegral, isIntegral_ofJson j, areIntegral_ofItems rest]

theorem Document.membersIntegral_ofMembers (members : List (String × Json)) :
    membersIntegral (ofMembers members) = Json.membersIntegral members := by
  match members with
  | [] => rfl
  | (key, j) :: rest =>
    rw [ofMembers, membersIntegral, Json.membersIntegral, isIntegral_ofJson j,
      membersIntegral_ofMembers rest]

end

namespace Json

theorem ofDict_injective {o o' : Dict Json} (same : ofDict o = ofDict o') : o = o' := by
  cases o
  cases o'
  cases same
  rfl

theorem passed_canonical (j : Json) : Decoder.Passed .value j.isIntegral j.canonical := by
  rw [← Document.isIntegral_ofJson]
  exact Decoder.passed_of_toJson? (Decoder.toJson?_value j)

theorem canonical_canonical (j : Json) : j.canonical.canonical = j.canonical :=
  (passed_canonical j).canonical

theorem isIntegral_canonical {j : Json} (integral : j.isIntegral = true) :
    j.canonical.isIntegral = true :=
  (passed_canonical j).integral integral

/-- An object that is canonical holds canonical values. -/
theorem map_canonical {o : Dict Json} (canonical : (ofDict o).canonical = .ofDict o) :
    o.map Json.canonical = o := by
  have members : canonicalMembers o.entries = (o.map Json.canonical).entries :=
    canonicalMembers_eq _
  rw [ofDict, Json.canonical, members, Dict.ofList_entries] at canonical
  exact ofDict_injective canonical

end Json

end PaymentRelay
