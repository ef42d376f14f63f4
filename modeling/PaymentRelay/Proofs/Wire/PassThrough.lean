import PaymentRelay.Proofs.Wire.Slip

/-
  What a slip keeps of the object that it was read from.

  Reading the members of an object one after another gathers them (`Gathered`): a mode and a memo
  as they were found, and all others in a dictionary, of which a later one wins as in the object. One
  member is one step (`Gathered.step`), and so what is taken in is gathered (`Gathered.absorb`); all
  of it is taken in unless a key is repeated or a mode or a memo is neither null nor a text
  (`Gathered.absorbs`). Writing the slip gives back what was gathered, each member once, but for a
  mode and a memo that are null (`Holds.written_perm`).
-/

namespace PaymentRelay

namespace Decoder

variable {src : Source} {doc : Document} {j : Json}

/-- A text or null, as a value. -/
def nullable (v : Option String) : Json := v.elim .null .text

/-- What another decoder makes of the document of a text that was decoded. -/
theorem ofLeading_of_decoded {α β : Type} {d : Decoder α} {d' : Decoder β} {cs : List Symbol}
    {a : α} {b : β} (decoded : d.ofLeading cs = .ok a)
    (read : d' (.text Source.maxDepth) (Document.read cs).1 = .ok b) : d'.ofLeading cs = .ok b := by
  unfold ofLeading at decoded ⊢
  dsimp only at decoded ⊢
  rw [read]
  split at decoded
  · next rest => rw [rest]
  · cases decoded
  · cases decoded

theorem toOption_eq_some_iff {α : Type} {r : Except Fault α} {a : α} :
    r.toOption = some a ↔ r = .ok a := by
  cases r <;> simp [Except.toOption]

/-- A document is read as a text or null if that is its value. -/
theorem optional_text_iff {v : Option String} :
    text.optional src doc = .ok v ↔ toJson? src doc = some (nullable v) := by
  cases doc with
  | null => cases v <;> simp [optional, toJson?, nullable]
  | text s => cases s <;> cases v <;> simp [optional, text, toJson?, nullable, Except.map, eq_comm]
  | number n => cases n <;> cases v <;> simp [optional, text, toJson?, nullable, Except.map]
  | array items closed =>
    refine iff_of_false (by simp [optional, text, Except.map]) fun read => ?_
    obtain ⟨_, _, _, _, _, same⟩ := toJson?_array_iff.mp read
    cases v <;> cases same
  | object members closed =>
    refine iff_of_false (by simp [optional, text, Except.map]) fun read => ?_
    obtain ⟨_, _, _, _, _, same⟩ := toJson?_object_iff.mp read
    cases v <;> cases same
  | _ => cases v <;> simp [optional, text, toJson?, nullable, Except.map]

end Decoder

namespace Slip

variable {src : Source} {doc : Document} {key k : String} {j : Json} {o : Dict Json} {s : Slip}
  {slots : Slots [Option String, Option String]} {others : Dict Json}

/-! ## One member -/

theorem ignores_iff : known.Ignores key ↔ key ≠ "modeId" ∧ key ≠ "memo" := by
  simp [known, Fields.Ignores, Field.answersTo, Field.optional]

theorem not_ignores_iff : ¬known.Ignores key ↔ key = "modeId" ∨ key = "memo" := by
  rw [ignores_iff, not_and_or, not_not, not_not]

/-- What was found of a known name. -/
def found (slots : Slots [Option String, Option String]) (key : String) : Option (Option String) :=
  if key = "modeId" then slots.1 else if key = "memo" then slots.2.1 else none

/-- The known name with what was found under it. -/
def keep (slots : Slots [Option String, Option String]) (key : String) (v : Option String) :
    Slots [Option String, Option String] :=
  if key = "modeId" then (some v, slots.2) else (slots.1, some v, ())

theorem found_keep (own : ¬known.Ignores key) (v : Option String) :
    found (keep slots key v) k = if k = key then some v else found slots k := by
  obtain rfl | rfl := not_ignores_iff.mp own
  · by_cases same : k = "modeId" <;> simp [found, keep, same]
  · by_cases same : k = "memo" <;> simp [found, keep, same]

/-- A member with a known name is found once, as a text or null. -/
theorem placed_known (own : ¬known.Ignores key) :
    Fields.placed src known key doc slots =
      if found slots key = none then
        (Decoder.text.optional src doc).toOption.map (keep slots key)
      else none := by
  obtain ⟨mode, memo, ⟨⟩⟩ := slots
  obtain rfl | rfl := not_ignores_iff.mp own
  · have answers : (Field.optional "modeId" Decoder.text Json.text).answersTo "modeId" = true := rfl
    cases mode with
    | none => exact Fields.placed_of_answered answers
    | some v => exact Fields.placed_of_repeated answers
  · have passes : (Field.optional "modeId" Decoder.text Json.text).answersTo "memo" = false := by
      decide
    have answers : (Field.optional "memo" Decoder.text Json.text).answersTo "memo" = true := rfl
    have later : Fields.placed src known "memo" doc (.cons mode (memo, ())) = _ :=
      Fields.placed_of_unanswered passes
    refine later.trans ?_
    cases memo with
    | none =>
      refine (congrArg (Option.map _) (Fields.placed_of_answered answers)).trans ?_
      exact Option.map_map ..
    | some v => exact congrArg (Option.map _) (Fields.placed_of_repeated answers)

theorem memberStep_known (own : ¬known.Ignores key) :
    memberStep src key doc (slots, others) =
      if found slots key = none then
        (Decoder.text.optional src doc).toOption.map fun v => (keep slots key v, others)
      else none := by
  rw [memberStep, placed_known own, storeStep, if_neg own]
  split
  · rw [Option.bind_map]
    cases (Decoder.text.optional src doc).toOption <;> rfl
  · rfl

theorem memberStep_other (other : known.Ignores key) :
    memberStep src key doc (slots, others) =
      (Decoder.toJson? src doc).map fun j => (slots, others.insert key j) := by
  have placed : Fields.placed src known key doc slots = some slots := by
    rw [Fields.placed, Fields.place_eq_none_iff.mpr other]
  rw [memberStep, placed, storeStep, if_pos other, Decoder.entryStep, Decoder.json]
  cases Decoder.toJson? src doc <;> rfl

/-! ## Gathering an object -/

/-- What was found so far is all there is of an object so far. -/
structure Gathered (o : Dict Json) (slots : Slots [Option String, Option String])
    (others : Dict Json) : Prop where
  fields : ∀ key, ¬known.Ignores key → o.find? key = (found slots key).map Decoder.nullable
  others : ∀ key, others.find? key = if known.Ignores key then o.find? key else none

theorem gathered_empty : Gathered .empty Slots.none .empty where
  fields key _ := by
    have nothing : found Slots.none key = none := by
      unfold found
      split
      · rfl
      · split <;> rfl
    rw [nothing]
    rfl
  others key := by split <;> rfl

section
variable {slots' : Slots [Option String, Option String]} {others' : Dict Json}

/-- A member that is taken in has a value, and is gathered with what was gathered before. -/
theorem Gathered.step (h : Gathered o slots others)
    (taken : memberStep src key doc (slots, others) = some (slots', others')) :
    ∃ j, Decoder.toJson? src doc = some j ∧ Gathered (o.insert key j) slots' others' := by
  by_cases other : known.Ignores key
  · rw [memberStep_other other] at taken
    obtain ⟨j, read, same⟩ := Option.map_eq_some_iff.mp taken
    cases same
    -- A later member replaces an earlier one of its name, among the others as in the object.
    refine ⟨j, read, fun k own => ?_, fun k => ?_⟩
    · have apart : k ≠ key := fun same => own (same ▸ other)
      rw [Dict.find?_insert, if_neg apart, h.fields k own]
    · rw [Dict.find?_insert, Dict.find?_insert, h.others]
      by_cases same : k = key
      · rw [if_pos same, if_pos same, same, if_pos other]
      · rw [if_neg same, if_neg same]
  · rw [memberStep_known other] at taken
    split at taken
    · obtain ⟨v, decoded, same⟩ := Option.map_eq_some_iff.mp taken
      cases same
      have read := Decoder.optional_text_iff.mp (Decoder.toOption_eq_some_iff.mp decoded)
      refine ⟨Decoder.nullable v, read, fun k own => ?_, fun k => ?_⟩
      · rw [Dict.find?_insert, found_keep other, h.fields k own]
        split <;> rfl
      · rw [Dict.find?_insert, h.others]
        by_cases same : k = key
        · rw [same, if_neg other, if_neg other]
        · rw [if_neg same]
    · cases taken

/-- A member is taken in if it has a value, and is a text or null that was not found yet if its name
is known. -/
theorem Gathered.progress (h : Gathered o slots others) (read : Decoder.toJson? src doc = some j)
    (fits : ¬known.Ignores key → o.find? key = none ∧ ∃ v, j = Decoder.nullable v) :
    ∃ slots' others', memberStep src key doc (slots, others) = some (slots', others') := by
  by_cases other : known.Ignores key
  · rw [memberStep_other other, read]
    exact ⟨_, _, rfl⟩
  · obtain ⟨fresh, v, rfl⟩ := fits other
    have missing : found slots key = none :=
      Option.map_eq_none_iff.mp ((h.fields key other).symm.trans fresh)
    rw [memberStep_known other, if_pos missing, Decoder.optional_text_iff.mpr read]
    exact ⟨_, _, rfl⟩

variable {members : List (Document × Document)} {ms : List (String × Json)}

/-- An object that is taken in is gathered. -/
theorem Gathered.absorb (h : Gathered o slots others)
    (taken : Document.absorb (memberStep src) members (slots, others) = some (slots', others')) :
    ∃ ms, Decoder.toMembers? src members = some ms ∧
      Gathered (ms.foldl (fun d e => d.insert e.1 e.2) o) slots' others' := by
  induction members generalizing o slots others with
  | nil =>
    cases taken
    exact ⟨[], rfl, h⟩
  | cons member rest ih =>
    obtain ⟨key, doc⟩ := member
    cases key with
    | text key =>
      cases key with
      | none => cases taken
      | some key =>
        obtain ⟨⟨slots, others⟩, first, later⟩ := Option.bind_eq_some_iff.mp taken
        obtain ⟨j, read, gathered⟩ := h.step first
        obtain ⟨ms, reads, gathered⟩ := ih gathered later
        exact ⟨(key, j) :: ms, Decoder.toMembers?_cons_iff.mpr ⟨key, j, ms, rfl, read, reads, rfl⟩,
          gathered⟩
    | _ => cases taken

/-- An object is taken in if it repeats no key and its known members are texts or null. -/
theorem Gathered.absorbs (h : Gathered o slots others)
    (read : Decoder.toMembers? src members = some ms) (nodup : (ms.map (·.1)).Nodup)
    (fresh : ∀ e ∈ ms, o.find? e.1 = none)
    (admitted : ∀ e ∈ ms, ¬known.Ignores e.1 → ∃ v, e.2 = Decoder.nullable v) :
    ∃ slots' others',
      Document.absorb (memberStep src) members (slots, others) = some (slots', others') := by
  -- That no name is in the object so far is what carries over: a known name is found only once.
  induction members generalizing ms o slots others with
  | nil => exact ⟨slots, others, rfl⟩
  | cons member rest ih =>
    obtain ⟨key, doc⟩ := member
    obtain ⟨k, j, ms, rfl, first, later, rfl⟩ := Decoder.toMembers?_cons_iff.mp read
    obtain ⟨apart, nodup⟩ := List.nodup_cons.mp nodup
    obtain ⟨new, fresh⟩ := List.forall_mem_cons.mp fresh
    obtain ⟨fits, admitted⟩ := List.forall_mem_cons.mp admitted
    obtain ⟨slots', others', taken⟩ := h.progress first fun own => ⟨new, fits own⟩
    obtain ⟨j', read', gathered⟩ := h.step taken
    have still : ∀ e ∈ ms, (o.insert k j').find? e.1 = none := by
      intro e mem
      have other : e.1 ≠ k := fun same => apart (List.mem_map.mpr ⟨e, mem, same⟩)
      rw [Dict.find?_insert, if_neg other]
      exact fresh e mem
    obtain ⟨last, lastOthers, absorbed⟩ := ih gathered later nodup still admitted
    exact ⟨last, lastOthers, by rw [Document.absorb, taken, Option.bind_some, absorbed]⟩

end

/-! ## What a slip is written as -/

/-- A mode or a memo that is null. -/
def isVoid : String × Json → Bool
  | (key, .null) => key = "modeId" || key = "memo"
  | _ => false

/-- An object without a mode and a memo that are null. -/
def stripped (o : Dict Json) : Dict Json :=
  ⟨o.entries.filter fun e => !isVoid e, o.sorted.filter _⟩

/-- The mode and the memo of an object are texts, null or absent. -/
def Admits (o : Dict Json) : Prop :=
  ∀ key, key = "modeId" ∨ key = "memo" → ∀ j, o.find? key = some j → j = .null ∨ ∃ t, j = .text t

/-- The mode or the memo of a slip, by its name. -/
def text? (s : Slip) (key : String) : Option String :=
  if key = "modeId" then s.mode else if key = "memo" then s.memo else none

/-- The members that a slip is written as. -/
def written (s : Slip) : List (String × Json) :=
  known.members (s.mode, s.memo, ()) ++ s.others.entries

/-- A slip has all there is of an object. -/
structure Holds (s : Slip) (o : Dict Json) : Prop where
  fields : ∀ key, ¬known.Ignores key → (o.find? key).getD .null = Decoder.nullable (s.text? key)
  others : ∀ key, s.others.find? key = if known.Ignores key then o.find? key else none

theorem Gathered.holds (h : Gathered o slots others) :
    Holds ⟨slots.1.getD none, slots.2.1.getD none, others⟩ o where
  fields key own := by
    have joined : text? ⟨slots.1.getD none, slots.2.1.getD none, others⟩ key =
        (found slots key).getD none := by
      unfold text? found
      split
      · rfl
      · split <;> rfl
    rw [h.fields key own, joined]
    cases found slots key <;> rfl
  others := h.others

theorem find?_stripped (o : Dict Json) (key : String) :
    (stripped o).find? key = (o.find? key).filter fun v => !isVoid (key, v) :=
  Dict.lookup_filter_of_nodup o.nodup_keys

theorem lookup_known (s : Slip) (key : String) :
    Dict.lookup key (known.members (s.mode, s.memo, ())) = (s.text? key).map .text := by
  obtain ⟨mode, memo, others⟩ := s
  cases mode <;> cases memo <;>
    simp [known, Fields.members, Field.optional, Dict.lookup, text?] <;> grind

theorem text?_of_ignores (other : known.Ignores key) : s.text? key = none := by
  obtain ⟨noMode, noMemo⟩ := ignores_iff.mp other
  rw [text?, if_neg noMode, if_neg noMemo]

theorem isVoid_of_ignores (other : known.Ignores key) (j : Json) : isVoid (key, j) = false := by
  obtain ⟨noMode, noMemo⟩ := ignores_iff.mp other
  cases j <;> simp [isVoid, noMode, noMemo]

/-- Under a known name, what is not void is a text. -/
theorem filter_nullable (own : ¬known.Ignores key) (v : Option String) :
    (some (Decoder.nullable v)).filter (fun j => !isVoid (key, j)) = v.map .text := by
  rw [not_ignores_iff] at own
  cases v with
  | none => simp [Decoder.nullable, isVoid, own]
  | some t => rfl

/-- A slip is written with what the object has, but for what is void. -/
theorem Holds.lookup_written (h : s.Holds o) (key : String) :
    Dict.lookup key s.written = (stripped o).find? key := by
  have others : Dict.lookup key s.others.entries = _ := h.others key
  rw [written, Dict.lookup_append, lookup_known, others, find?_stripped]
  by_cases other : known.Ignores key
  · have all : (o.find? key).filter (fun j => !isVoid (key, j)) = o.find? key := by
      simp only [isVoid_of_ignores other, Bool.not_false]
      cases o.find? key <;> rfl
    rw [if_pos other, text?_of_ignores other, all]
    rfl
  · have fields := h.fields key other
    rw [if_neg other, Option.or_none]
    cases there : o.find? key with
    | none =>
      rw [there] at fields
      cases t : s.text? key with
      | none => rfl
      | some t' => rw [t] at fields; cases fields
    | some j =>
      rw [there, Option.getD_some] at fields
      rw [fields, filter_nullable other]

/-- No member is written twice. -/
theorem Holds.nodup_written (h : s.Holds o) : (s.written.map (·.1)).Nodup := by
  -- The others are a dictionary, and have none of the known names.
  have apart : ∀ key ∈ s.others.keys, key ≠ "modeId" ∧ key ≠ "memo" := by
    intro key mem
    have there : s.others.find? key ≠ none := Dict.mem_keys_iff.mp mem
    rw [h.others] at there
    by_cases other : known.Ignores key
    · exact ignores_iff.mp other
    · exact absurd (if_neg other) there
  have nodup : s.others.keys.Nodup := s.others.nodup_keys
  obtain ⟨mode, memo, others⟩ := s
  rw [written, List.map_append, List.nodup_append]
  refine ⟨?_, nodup, ?_⟩
  · cases mode <;> cases memo <;> simp [known, Fields.members, Field.optional]
  · intro key mem key' mem' same
    obtain ⟨noMode, noMemo⟩ := apart key' mem'
    subst same
    cases mode <;> cases memo <;> simp_all [known, Fields.members, Field.optional]

/-- A slip is written with the members of the object, in another order. -/
theorem Holds.written_perm (h : s.Holds o) : s.written.Perm (stripped o).entries :=
  Dict.perm_of_lookup h.nodup_written (stripped o).nodup_keys h.lookup_written

theorem Holds.canonical_encode (h : s.Holds o) (values : ∀ e ∈ o.entries, e.2.canonical = e.2) :
    s.encode.canonical = .ofDict (stripped o) := by
  have kept (e) (mem : e ∈ s.written) : (e.1, e.2.canonical) = e :=
    Prod.ext rfl (values e (List.mem_of_mem_filter (h.written_perm.mem_iff.mp mem)))
  have same : Json.canonicalMembers s.written = s.written :=
    calc Json.canonicalMembers s.written
      _ = s.written.map fun e => (e.1, e.2.canonical) := Json.canonicalMembers_eq _
      _ = s.written.map id := List.map_congr_left kept
      _ = s.written := List.map_id _
  have dict : Dict.ofList s.written = stripped o :=
    Dict.ext_find? fun key => (Dict.find?_ofList h.nodup_written).trans (h.lookup_written key)
  calc s.encode.canonical
    _ = .object (Dict.ofList (Json.canonicalMembers s.written)).entries := rfl
    _ = .ofDict (stripped o) := by rw [same, dict]; rfl

/-! ## What a slip is read from -/

variable {members : List (Document × Document)} {ms : List (String × Json)}

theorem holds_of_collect (collected : collect src members Slots.none .empty = .ok s) :
    ∃ ms, Decoder.toMembers? src members = some ms ∧ s.Holds (Dict.ofList ms) := by
  have absorbed : (collect src members Slots.none .empty).toOption = _ := collect_absorb
  rw [collected] at absorbed
  obtain ⟨⟨slots, others⟩, taken, rfl⟩ := Option.map_eq_some_iff.mp absorbed.symm
  obtain ⟨ms, read, gathered⟩ := gathered_empty.absorb taken
  exact ⟨ms, read, gathered.holds⟩

theorem collect_of_admitted (read : Decoder.toMembers? src members = some ms)
    (nodup : (ms.map (·.1)).Nodup)
    (admitted : ∀ e ∈ ms, ¬known.Ignores e.1 → ∃ v, e.2 = Decoder.nullable v) :
    ∃ s, collect src members Slots.none .empty = .ok s := by
  obtain ⟨slots, others, taken⟩ :=
    gathered_empty.absorbs read nodup (fun _ _ => rfl) admitted
  have absorbed : (collect src members Slots.none .empty).toOption = _ := collect_absorb
  rw [taken] at absorbed
  exact ⟨_, Decoder.toOption_eq_some_iff.mp absorbed⟩

/-- Only an object is a slip, and of a text all of it is read. -/
theorem object_of_decoded {title : String} (decoded : decoder title src doc = .ok s) :
    ∃ members closed, doc = .object members closed ∧ (src.isText = true → closed = true) := by
  unfold decoder at decoded
  split at decoded
  · next members closed =>
    refine ⟨members, closed, rfl, fun isText => ?_⟩
    split at decoded
    · cases decoded
    · split at decoded
      · cases decoded
      · split at decoded
        · cases decoded
        · simp_all
  · cases decoded

/-- A slip has all there is of the object that it was read from. -/
theorem holds_of_object {title : String} (decoded : decoder title src (.object members true) = .ok s) :
    ∃ o, Decoder.toJson? src (.object members true) = some (.ofDict o) ∧ s.Holds o ∧
      ∀ e ∈ o.entries, e.2.canonical = e.2 := by
  cases entered : src.enter? with
  | none =>
    simp only [decoder, entered] at decoded
    cases decoded
  | some inner =>
    have same : (decoder title src (.object members true)).toOption = _ :=
      toOption_object title entered
    rw [decoded] at same
    obtain ⟨ms, read, holds⟩ := holds_of_collect (Decoder.toOption_eq_some_iff.mp same.symm)
    refine ⟨Dict.ofList ms, ?_, holds, fun e mem => ?_⟩
    · exact Decoder.toJson?_object_iff.mpr ⟨inner, ms, entered, rfl, read, rfl⟩
    · exact (Decoder.passed_of_toMembers? read e (Dict.mem_of_mem_ofList mem)).canonical

/-- A slip has all there is of the object that a text begins with. -/
theorem holds_of_ofLeading {title : String} {cs : List Symbol}
    (decoded : (decoder title).ofLeading cs = .ok s) :
    ∃ o, Decoder.json.ofLeading cs = .ok (.ofDict o) ∧ s.Holds o ∧
      ∀ e ∈ o.entries, e.2.canonical = e.2 := by
  have read := Decoder.decoded_of_ofLeading decoded
  obtain ⟨members, closed, object, whole⟩ := object_of_decoded read
  obtain rfl := whole rfl
  rw [object] at read
  obtain ⟨o, value, holds, values⟩ := holds_of_object read
  refine ⟨o, Decoder.ofLeading_of_decoded decoded ?_, holds, values⟩
  rw [object, Decoder.json, value]

/-! ## Objects -/

/-- A slip has all there is of the value that it was read from, which is an object. -/
theorem holds_of_ofJson {title : String} (decoded : (decoder title).ofJson j = .ok s) :
    (∃ members, j = .object members) ∧ ∃ o, j.canonical = .ofDict o ∧ s.Holds o ∧
      ∀ e ∈ o.entries, e.2.canonical = e.2 := by
  cases j with
  | object members =>
    obtain ⟨o, read, holds, values⟩ := holds_of_object decoded
    have value := Decoder.toJson?_value (.object members)
    exact ⟨⟨members, rfl⟩, o, Option.some.inj (value.symm.trans read), holds, values⟩
  | _ => cases decoded

/-- An object is a slip when its mode and its memo are texts, null or absent. -/
theorem ofJson_iff_admits (title : String) (canonical : (Json.ofDict o).canonical = .ofDict o) :
    (∃ s, (decoder title).ofJson (.ofDict o) = .ok s) ↔ Admits o := by
  constructor
  · rintro ⟨s, decoded⟩ key own j there
    obtain ⟨-, o', same, holds, -⟩ := holds_of_ofJson decoded
    obtain rfl : o' = o := Json.ofDict_injective (same.symm.trans canonical)
    have field := holds.fields key (not_ignores_iff.mpr own)
    rw [there, Option.getD_some] at field
    cases t : s.text? key with
    | none => exact .inl (by rw [field, t]; rfl)
    | some t' => exact .inr ⟨t', by rw [field, t]; rfl⟩
  · intro admits
    have read : Decoder.toMembers? .value (Document.ofMembers o.entries) = some o.entries := by
      have members : Json.canonicalMembers o.entries = (o.map Json.canonical).entries :=
        Json.canonicalMembers_eq _
      rw [Decoder.toMembers?_ofMembers, members, Json.map_canonical canonical]
      exact if_pos trivial
    have admitted (e) (mem : e ∈ o.entries) (own : ¬known.Ignores e.1) :
        ∃ v, e.2 = Decoder.nullable v := by
      obtain null | ⟨t, text⟩ := admits e.1 (not_ignores_iff.mp own) e.2
        ((Dict.mem_iff_lookup o.nodup_keys).mp mem)
      · exact ⟨none, null⟩
      · exact ⟨some t, text⟩
    obtain ⟨s, collected⟩ := collect_of_admitted read o.nodup_keys admitted
    have decoded : ((decoder title).ofJson (.ofDict o)).toOption = _ :=
      @toOption_object .value .value (Document.ofMembers o.entries) title rfl
    rw [collected] at decoded
    exact ⟨s, Decoder.toOption_eq_some_iff.mp decoded⟩

/-- The text of an object that repeats no key is a slip when the object is. -/
theorem ofLeading_iff_admits (title : String) {cs : List Symbol}
    (read : Decoder.json.ofLeading cs = .ok (.ofDict o))
    (single : (Document.read cs).1.unrepeated = true) :
    (∃ s, (decoder title).ofLeading cs = .ok s) ↔ Admits o := by
  have value : Decoder.toJson? (.text Source.maxDepth) (Document.read cs).1 = some (.ofDict o) := by
    have decoded := Decoder.decoded_of_ofLeading read
    unfold Decoder.json at decoded
    split at decoded
    · next same => rw [same, Except.ok.inj decoded]
    · cases decoded
  have same := agrees title _ _ _ value single
  rw [← ofJson_iff_admits title (Decoder.passed_of_toJson? value).canonical]
  constructor
  · rintro ⟨s, decoded⟩
    rw [Decoder.decoded_of_ofLeading decoded] at same
    exact ⟨s, Decoder.toOption_eq_some_iff.mp same.symm⟩
  · rintro ⟨s, decoded⟩
    have text := same.trans (Decoder.toOption_eq_some_iff.mpr decoded)
    exact ⟨s, Decoder.ofLeading_of_decoded read (Decoder.toOption_eq_some_iff.mp text)⟩

/-- A slip is written as an object: the same value less what is void, and each member once. -/
structure Carries (s : Slip) (o : Dict Json) : Prop where
  value : s.encode.canonical = .ofDict (stripped o)
  members : ∃ ms, s.encode = .object ms ∧ ms.Perm (stripped o).entries

theorem Holds.carries (h : s.Holds o) (values : ∀ e ∈ o.entries, e.2.canonical = e.2) :
    s.Carries o :=
  ⟨h.canonical_encode values, s.written, rfl, h.written_perm⟩

end Slip

end PaymentRelay
