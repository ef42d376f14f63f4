import PaymentRelay.Proofs.Json.Fields
import PaymentRelay.Proofs.Json.Values

/-
  Decoding a text and decoding its value come to the same.

  A text is decoded in the order in which it is written, its value in the order of its keys, and
  the two differ in what they call a fault. Where the text has a value at all and no object in it
  repeats a key, they take the same documents and make the same of them (`Decoder.Agrees`).

  The members of an object are taken in one after another, be it as fields, as entries or as both
  (`Document.absorb`). The order does not matter, since members of different keys do not get in each
  other's way: two that are read into the same field, one of them under an alias, are refused in
  either order (`Fields.placed_comm`).
-/

namespace PaymentRelay

/-! ## Outcomes without their faults -/

section
variable {α β : Type} {r : Except Fault α}

theorem Decoder.toOption_map (f : α → β) : (r.map f).toOption = r.toOption.map f := by
  cases r <;> rfl

theorem Decoder.toOption_bind (f : α → Except Fault β) :
    (r >>= f).toOption = r.toOption.bind fun a => (f a).toOption := by
  cases r <;> rfl

theorem Decoder.toOption_inside (step : Step) : (inside step r).toOption = r.toOption := by
  cases r <;> rfl

end

/-! ## Objects without repeated keys -/

namespace Document

/-- Neither an array nor an object. -/
def isPlain : Document → Bool
  | .array _ _ | .object _ _ => false
  | _ => true

/-- The keys of the members of an object. -/
def keys : List (Document × Document) → List String
  | [] => []
  | (.text (some k), _) :: rest => k :: keys rest
  | _ :: rest => keys rest

mutual

/-- No object in a document repeats a key. -/
def unrepeated : Document → Bool
  | .array items _ => itemsUnrepeated items
  | .object members _ => decide (keys members).Nodup && membersUnrepeated members
  | _ => true

/-- `unrepeated` of every item. -/
def itemsUnrepeated : List Document → Bool
  | [] => true
  | d :: rest => unrepeated d && itemsUnrepeated rest

/-- `unrepeated` of every value of a member. -/
def membersUnrepeated : List (Document × Document) → Bool
  | [] => true
  | (_, d) :: rest => unrepeated d && membersUnrepeated rest

end

variable {σ : Type} {step step' : String → Document → σ → Option σ}
  {members : List (Document × Document)} {ms ms' : List (String × Json)} {src : Source} {s : σ}

theorem keys_eq (read : Decoder.toMembers? src members = some ms) :
    keys members = ms.map (·.1) := by
  induction members generalizing ms with
  | nil =>
    cases read
    rfl
  | cons member rest ih =>
    obtain ⟨key, doc⟩ := member
    obtain ⟨k, j, ms, rfl, -, others, rfl⟩ := Decoder.toMembers?_cons_iff.mp read
    rw [keys, ih others, List.map_cons]

theorem length_ofMembers : (ofMembers ms).length = ms.length := by
  induction ms with
  | nil => rfl
  | cons e rest ih => rw [ofMembers, List.length_cons, ih, List.length_cons]

theorem length_toMembers? (read : Decoder.toMembers? src members = some ms) :
    ms.length = members.length := by
  induction members generalizing ms with
  | nil =>
    cases read
    rfl
  | cons member rest ih =>
    obtain ⟨key, doc⟩ := member
    obtain ⟨k, j, ms, rfl, -, others, rfl⟩ := Decoder.toMembers?_cons_iff.mp read
    rw [List.length_cons, ih others, List.length_cons]

/-- Takes in the members of an object one after another, as long as they can be taken in. -/
def absorb (step : String → Document → σ → Option σ) : List (Document × Document) → σ → Option σ
  | [], s => some s
  | (.text (some k), doc) :: rest, s => (step k doc s).bind (absorb step rest)
  | _ :: _, _ => none

theorem absorb_ofMembers :
    absorb step (ofMembers ms) s =
      ms.foldl (fun s e => s.bind (step e.1 (ofJson e.2))) (some s) := by
  have stuck (ms : List (String × Json)) :
      ms.foldl (fun s e => s.bind (step e.1 (ofJson e.2))) none = none := by
    induction ms with
    | nil => rfl
    | cons e rest ih => exact ih
  induction ms generalizing s with
  | nil => rfl
  | cons e rest ih =>
    rw [ofMembers, absorb, List.foldl_cons, Option.bind_some]
    cases step e.1 (ofJson e.2) s with
    | none => exact (stuck rest).symm
    | some s => exact ih

/-- Members of different keys may be taken in in any order. -/
theorem absorb_perm (perm : ms.Perm ms') (nodup : (ms.map (·.1)).Nodup)
    (comm : ∀ k k' j j' s, k ≠ k' → (step k (ofJson j) s).bind (step k' (ofJson j')) =
      (step k' (ofJson j') s).bind (step k (ofJson j))) :
    absorb step (ofMembers ms) s = absorb step (ofMembers ms') s := by
  rw [absorb_ofMembers, absorb_ofMembers]
  refine perm.foldl_eq' (fun x hx y hy z => ?_) (some s)
  by_cases same : x.1 = y.1
  · rw [List.inj_on_of_nodup_map nodup hx hy same]
  · cases z with
    | none => rfl
    | some s => exact comm x.1 y.1 x.2 y.2 s same

theorem absorb_eq (read : Decoder.toMembers? src members = some ms)
    (single : membersUnrepeated members = true)
    (agree : ∀ k doc j s, Decoder.toJson? src doc = some j → doc.unrepeated = true →
      step k doc s = step' k (ofJson j) s) :
    absorb step members s = absorb step' (ofMembers ms) s := by
  induction members generalizing ms s with
  | nil =>
    cases read
    rfl
  | cons member rest ih =>
    obtain ⟨key, doc⟩ := member
    obtain ⟨k, j, ms, rfl, first, others, rfl⟩ := Decoder.toMembers?_cons_iff.mp read
    rw [membersUnrepeated, Bool.and_eq_true] at single
    rw [ofMembers, absorb, absorb, agree k doc j s first single.1]
    exact Option.bind_congr fun s _ => ih others single.2

/-- Members are taken in as they are written, or in the order of their keys. -/
theorem absorb_sorted {closed : Bool} (read : Decoder.toMembers? src members = some ms)
    (single : (object members closed).unrepeated = true)
    (agree : ∀ k doc j s, Decoder.toJson? src doc = some j → doc.unrepeated = true →
      step k doc s = step' k (ofJson j) s)
    (comm : ∀ k k' j j' s, k ≠ k' → (step' k (ofJson j) s).bind (step' k' (ofJson j')) =
      (step' k' (ofJson j') s).bind (step' k (ofJson j))) :
    absorb step members s = absorb step' (ofMembers (Dict.ofList ms).entries) s := by
  rw [unrepeated, Bool.and_eq_true, decide_eq_true_eq, keys_eq read] at single
  have sorted := Dict.entries_ofList_perm single.1
  calc absorb step members s
      = absorb step' (ofMembers ms) s := absorb_eq read single.2 agree
    _ = absorb step' (ofMembers (Dict.ofList ms).entries) s :=
        absorb_perm sorted.symm single.1 comm

theorem itemsUnrepeated_iff {items : List Json} :
    itemsUnrepeated (ofItems items) = true ↔ ∀ j ∈ items, (ofJson j).unrepeated = true := by
  induction items with
  | nil => simp [ofItems, itemsUnrepeated]
  | cons j rest ih => simp [ofItems, itemsUnrepeated, ih]

theorem membersUnrepeated_iff :
    membersUnrepeated (ofMembers ms) = true ↔ ∀ e ∈ ms, (ofJson e.2).unrepeated = true := by
  induction ms with
  | nil => simp [ofMembers, membersUnrepeated]
  | cons e rest ih => simp [ofMembers, membersUnrepeated, ih]

theorem keys_ofMembers : keys (ofMembers ms) = ms.map (·.1) := by
  induction ms with
  | nil => rfl
  | cons e rest ih => rw [ofMembers, keys, ih, List.map_cons]

mutual

/-- A canonical value repeats no key. -/
theorem unrepeated_canonical (j : Json) : (ofJson j.canonical).unrepeated = true := by
  match j with
  | .null | .bool _ | .number _ | .text _ => rfl
  | .array items =>
    rw [Json.canonical, ofJson, unrepeated, itemsUnrepeated_iff]
    exact unrepeated_canonicalItems items
  | .object members =>
    have values := unrepeated_canonicalMembers members
    rw [Json.canonical, ofJson, unrepeated, keys_ofMembers, Bool.and_eq_true_iff,
      decide_eq_true_iff, membersUnrepeated_iff]
    exact ⟨Dict.nodup_keys _, fun e mem => values e (Dict.mem_of_mem_ofList mem)⟩

theorem unrepeated_canonicalItems (items : List Json) :
    ∀ j ∈ Json.canonicalItems items, (ofJson j).unrepeated = true := by
  match items with
  | [] => exact fun _ => nofun
  | j :: rest =>
    rw [Json.canonicalItems, List.forall_mem_cons]
    exact ⟨unrepeated_canonical j, unrepeated_canonicalItems rest⟩

theorem unrepeated_canonicalMembers (members : List (String × Json)) :
    ∀ e ∈ Json.canonicalMembers members, (ofJson e.2).unrepeated = true := by
  match members with
  | [] => exact fun _ => nofun
  | (_, j) :: rest =>
    rw [Json.canonicalMembers, List.forall_mem_cons]
    exact ⟨unrepeated_canonical j, unrepeated_canonicalMembers rest⟩

end

end Document

namespace Decoder

/-- A text that has a value is decoded as its value is, unless an object in it repeats a key. -/
def Agrees {α : Type} (d : Decoder α) : Prop :=
  ∀ room doc j, toJson? (.text room) doc = some j → doc.unrepeated = true →
    (d (.text room) doc).toOption = (d .value (Document.ofJson j)).toOption

variable {α β : Type} {d : Decoder α}

/-- A value that comes out of a document is decoded where there is room for it as it is decoded
anywhere. -/
theorem Agrees.ofJson (agrees : d.Agrees) {room : Nat} {j : Json} (canonical : j.canonical = j)
    (fits : j.depth ≤ room) :
    (d (.text room) (Document.ofJson j)).toOption = (d.ofJson j).toOption := by
  have read : toJson? (.text room) (Document.ofJson j) = some j := by
    rw [toJson?_ofJson, if_pos (show (Source.text room).Holds j.depth from fits), canonical]
  have single := Document.unrepeated_canonical j
  rw [canonical] at single
  exact agrees room _ j read single

/-! ## Parts without members -/

/-- Decoders agree if they agree on arrays and on objects and see the same in anything else. -/
theorem agrees_of_parts
    (plain : ∀ src src' doc, doc.isPlain = true → (d src doc).toOption = (d src' doc).toOption)
    (array : ∀ room docs js, toItems? (.text room) docs = some js →
      Document.itemsUnrepeated docs = true →
      (d (.text (room + 1)) (.array docs true)).toOption =
        (d .value (.array (Document.ofItems js) true)).toOption)
    (object : ∀ room members ms, toMembers? (.text room) members = some ms →
      (Document.object members true).unrepeated = true →
      (d (.text (room + 1)) (.object members true)).toOption =
        (d .value (.object (Document.ofMembers (Dict.ofList ms).entries) true)).toOption) :
    d.Agrees := by
  intro room doc j read single
  have same (doc : Document) (isPlain : doc.isPlain = true) :
      (d (.text room) doc).toOption = (d .value doc).toOption := plain _ _ doc isPlain
  cases doc with
  | null | bool b =>
    cases read
    exact same _ rfl
  | number n =>
    obtain ⟨n, rfl, rfl⟩ := Option.map_eq_some_iff.mp read
    exact same _ rfl
  | text s =>
    obtain ⟨s, rfl, rfl⟩ := Option.map_eq_some_iff.mp read
    exact same _ rfl
  | broken => cases read
  | array docs closed =>
    obtain ⟨inner, js, entered, rfl, items, rfl⟩ := toJson?_array_iff.mp read
    cases room with
    | zero => cases entered
    | succ room =>
      cases entered
      exact array room docs js items single
  | object members closed =>
    obtain ⟨inner, ms, entered, rfl, members', rfl⟩ := toJson?_object_iff.mp read
    cases room with
    | zero => cases entered
    | succ room =>
      cases entered
      exact object room members ms members' single

/-- A decoder that takes neither arrays nor objects sees the same in a text and in a value. -/
theorem agrees_of_plain (source : ∀ src src' doc, d src doc = d src' doc)
    (array : ∀ src items closed, (d src (.array items closed)).toOption = none)
    (object : ∀ src members closed, (d src (.object members closed)).toOption = none) :
    d.Agrees :=
  agrees_of_parts (fun src src' doc _ => congrArg _ (source src src' doc))
    (fun _ _ _ _ _ => by rw [array, array]) (fun _ _ _ _ _ => by rw [object, object])

theorem agrees_text : text.Agrees :=
  agrees_of_plain (fun _ _ _ => rfl) (fun _ _ _ => rfl) (fun _ _ _ => rfl)

theorem agrees_bool : bool.Agrees :=
  agrees_of_plain (fun _ _ _ => rfl) (fun _ _ _ => rfl) (fun _ _ _ => rfl)

theorem agrees_integer {low high : Int} {name : String}
    {f : { i : Int // low ≤ i ∧ i < high } → β} : ((integer low high name).map f).Agrees :=
  agrees_of_plain (fun _ _ _ => rfl) (fun _ _ _ => rfl) (fun _ _ _ => rfl)

theorem agrees_unit : unit.Agrees :=
  agrees_of_plain (fun _ _ _ => rfl) (fun _ _ _ => rfl) (fun _ _ _ => rfl)

mutual

/-- A document that has a value has no break. -/
theorem whole_of_toJson? {src : Source} {doc : Document} {j : Json}
    (read : toJson? src doc = some j) : doc.whole = true := by
  match doc with
  | .null | .bool _ | .number _ | .text _ => rfl
  | .broken => cases read
  | .array items closed =>
    obtain ⟨inner, js, -, rfl, items, rfl⟩ := toJson?_array_iff.mp read
    exact whole_of_toItems? items
  | .object members closed =>
    obtain ⟨inner, ms, -, rfl, members, rfl⟩ := toJson?_object_iff.mp read
    exact whole_of_toMembers? members

theorem whole_of_toItems? {src : Source} {docs : List Document} {js : List Json}
    (read : toItems? src docs = some js) : Document.whole.wholeItems docs = true := by
  match docs with
  | [] => rfl
  | doc :: docs =>
    obtain ⟨j, rest, first, others, rfl⟩ := toItems?_cons_iff.mp read
    rw [Document.whole.wholeItems, whole_of_toJson? first, whole_of_toItems? others]
    rfl

theorem whole_of_toMembers? {src : Source} {docs : List (Document × Document)}
    {ms : List (String × Json)} (read : toMembers? src docs = some ms) :
    Document.whole.wholeMembers docs = true := by
  match docs with
  | [] => rfl
  | (key, doc) :: docs =>
    obtain ⟨k, j, rest, rfl, first, others, rfl⟩ := toMembers?_cons_iff.mp read
    rw [Document.whole.wholeMembers, whole_of_toJson? first, whole_of_toMembers? others]
    rfl

end

theorem skip_of_toJson? {src src' : Source} {doc : Document} {j : Json}
    (read : toJson? src doc = some j) : skip src' doc = .ok () := by
  simp [skip, whole_of_toJson? read]

theorem agrees_json : json.Agrees := by
  intro room doc j read _
  have passed : toJson? .value (Document.ofJson j) = some j := toJson?_passed read trivial
  rw [json, json, read, passed]

theorem optional_of_ne_null {src : Source} {doc : Document} (something : doc ≠ .null) :
    d.optional src doc = (d src doc).map some := by
  cases doc with
  | null => exact absurd rfl something
  | _ => rfl

theorem agrees_optional (agrees : d.Agrees) : d.optional.Agrees := by
  intro room doc j read single
  have inner := agrees room doc j read single
  by_cases nothing : doc = .null
  · subst nothing
    cases read
    rfl
  · have something : j ≠ .null := by
      rintro rfl
      cases doc with
      | null => exact nothing rfl
      | array => obtain ⟨_, _, _, _, _, same⟩ := toJson?_array_iff.mp read; cases same
      | object => obtain ⟨_, _, _, _, _, same⟩ := toJson?_object_iff.mp read; cases same
      | number n => cases n <;> cases read
      | text s => cases s <;> cases read
      | _ => cases read
    rw [optional_of_ne_null nothing, optional_ofJson something, toOption_map, toOption_map, inner]

/-! ## Arrays -/

theorem items_agree (agrees : d.Agrees) {room index : Nat} {docs : List Document} {js : List Json}
    (read : toItems? (.text room) docs = some js) (single : Document.itemsUnrepeated docs = true) :
    (items d (.text room) index docs).toOption =
      (items d .value index (Document.ofItems js)).toOption := by
  induction docs generalizing js index with
  | nil =>
    cases read
    rfl
  | cons doc rest ih =>
    obtain ⟨j, js, first, others, rfl⟩ := toItems?_cons_iff.mp read
    rw [Document.itemsUnrepeated, Bool.and_eq_true] at single
    rw [Document.ofItems, items, items, toOption_bind, toOption_bind, toOption_inside,
      toOption_inside, agrees room doc j first single.1]
    refine Option.bind_congr fun a _ => ?_
    rw [toOption_bind, toOption_bind, ih others single.2]

theorem agrees_list (agrees : d.Agrees) : (list d).Agrees := by
  refine agrees_of_parts ?plain ?array ?object
  case plain => exact fun _ _ doc plain => by cases doc <;> first | rfl | cases plain
  case array =>
    intro room docs js read single
    simp only [list, Source.enter?]
    rw [toOption_bind, toOption_bind, items_agree agrees read single]
  case object => exact fun _ _ _ _ _ => rfl

/-! ## Dictionaries -/

/-- Takes in an entry of a dictionary. -/
def entryStep (d : Decoder α) (src : Source) (k : String) (doc : Document) (m : Dict α) :
    Option (Dict α) :=
  (d src doc).toOption.map (m.insert k)

theorem entryStep_comm {src : Source} {k k' : String} {doc doc' : Document} {m : Dict α}
    (ne : k ≠ k') :
    (entryStep d src k doc m).bind (entryStep d src k' doc') =
      (entryStep d src k' doc' m).bind (entryStep d src k doc) := by
  unfold entryStep
  cases (d src doc).toOption with
  | none => cases (d src doc').toOption <;> rfl
  | some a =>
    cases (d src doc').toOption with
    | none => rfl
    | some b => exact congrArg some (Dict.insert_comm ne)

theorem entries_absorb {src : Source} {members : List (Document × Document)} {m : Dict α} :
    ((entries d src members).toOption.map fun es => es.foldl (fun m e => m.insert e.1 e.2) m) =
      Document.absorb (entryStep d src) members m := by
  induction members generalizing m with
  | nil => rfl
  | cons member rest ih =>
    obtain ⟨key, doc⟩ := member
    cases key with
    | text key =>
      cases key with
      | none => rfl
      | some k =>
        rw [entries, Document.absorb, entryStep, toOption_bind, toOption_inside]
        cases (d src doc).toOption with
        | none => rfl
        | some a =>
          rw [Option.map_some, Option.bind_some, Option.bind_some, ← ih, toOption_bind]
          cases (entries d src rest).toOption <;> rfl
    | _ => rfl

theorem dict_object {src inner : Source} {members : List (Document × Document)}
    (entered : src.enter? = some inner) :
    (dict d src (.object members true)).toOption =
      Document.absorb (entryStep d inner) members .empty := by
  simp only [dict, entered]
  rw [← entries_absorb, toOption_bind]
  cases (entries d inner members).toOption <;> rfl

theorem agrees_dict (agrees : d.Agrees) : (dict d).Agrees := by
  refine agrees_of_parts ?plain ?array ?object
  case plain => exact fun _ _ doc plain => by cases doc <;> first | rfl | cases plain
  case array => exact fun _ _ _ _ _ => rfl
  case object =>
    intro room members ms read single
    have text : (Source.text (room + 1)).enter? = some (.text room) := rfl
    have value : Source.value.enter? = some .value := rfl
    rw [dict_object text, dict_object value]
    refine Document.absorb_sorted read single (fun k doc j m first single => ?_)
      fun _ _ _ _ _ ne => entryStep_comm ne
    rw [entryStep, entryStep, agrees room doc j first single]

/-! ## Variants -/

/-- An object with more than one member is no variant. -/
theorem variant_of_several {known : List (String × α)} {src : Source}
    {members : List (Document × Document)} {closed : Bool} (several : 1 < members.length) :
    (variant known src (.object members closed)).toOption = none := by
  match members, several with
  | (key, content) :: second :: rest, _ =>
    match src with
    | .value =>
      cases key with
      | text s => cases s <;> rfl
      | _ => rfl
    | .text 0 => rfl
    | .text (room + 1) =>
      match key with
      | .text (some name) =>
        simp only [variant, toOption_bind, toOption_inside, List.isEmpty_cons, Bool.false_and]
        cases (named known name).toOption with
        | none => rfl
        | some a => cases (unit (.text (room + 1)) content).toOption <;> rfl
      | .text none | .null | .bool _ | .number _ | .array _ _ | .object _ _ | .broken => rfl

theorem agrees_variant {known : List (String × α)} : (variant known).Agrees := by
  refine agrees_of_parts ?plain ?array ?object
  case plain =>
    intro src src' doc plain
    have other (doc : Document) (src : Source) (plain : doc.isPlain = true)
        (unnamed : ∀ name, doc ≠ .text (some name)) : (variant known src doc).toOption = none := by
      cases doc with
      | array | object => cases plain
      | text s =>
        cases s with
        | none => cases src <;> rfl
        | some name => exact absurd rfl (unnamed name)
      | _ => cases src <;> rfl
    by_cases isNamed : ∃ name, doc = .text (some name)
    · obtain ⟨name, rfl⟩ := isNamed
      cases src <;> cases src' <;> rfl
    · have unnamed : ∀ name, doc ≠ .text (some name) := fun name eq => isNamed ⟨name, eq⟩
      rw [other doc src plain unnamed, other doc src' plain unnamed]
  case array => exact fun _ _ _ _ _ => rfl
  case object =>
    intro room members ms read single
    rw [Document.unrepeated, Bool.and_eq_true, decide_eq_true_eq, Document.keys_eq read] at single
    have length : (Document.ofMembers (Dict.ofList ms).entries).length = members.length := by
      rw [Document.length_ofMembers, (Dict.entries_ofList_perm single.1).length_eq,
        Document.length_toMembers? read]
    match members with
    | [] =>
      cases read
      rfl
    | [(key, content)] =>
      obtain ⟨k, j, rest, rfl, first, none, rfl⟩ := toMembers?_cons_iff.mp read
      cases none
      have inner : (unit (.text (room + 1)) content).toOption =
          (unit .value (Document.ofJson j)).toOption := agrees_unit room content j first (by
        rw [Document.membersUnrepeated, Bool.and_eq_true] at single
        exact single.2.1)
      show (variant known (.text (room + 1)) (.object [(.text (some k), content)] true)).toOption =
        (variant known .value (.object [(.text (some k), Document.ofJson j)] true)).toOption
      simp only [variant, toOption_bind, toOption_inside, inner]
      rfl
    | _ :: _ :: rest =>
      have several : 1 < (Document.ofMembers (Dict.ofList ms).entries).length := by
        rw [length, List.length_cons, List.length_cons]
        omega
      rw [variant_of_several several, variant_of_several (by simp)]

end Decoder

/-! ## Records -/

namespace Fields

/-- The decoder of every field agrees. -/
def Agree : {ts : List Type} → Fields ts → Prop
  | _, .nil => True
  | _, .cons f rest => f.decoder.Agrees ∧ rest.Agree

variable {α : Type} {ts : List Type} {f : Field α} {fs : Fields ts} {slots : Slots ts}
  {src : Source} {key key' : String} {doc doc' : Document}

/-- What is found after a member; one that no field answers to changes nothing. -/
def placed (src : Source) (fs : Fields ts) (key : String) (doc : Document) (slots : Slots ts) :
    Option (Slots ts) :=
  match fs.place src key doc slots with
  | some r => r.toOption
  | none => some slots

theorem placed_of_unanswered {slot : Option α} (other : f.answersTo key = false) :
    placed src (.cons f fs) key doc (.cons slot slots) =
      (placed src fs key doc slots).map (.cons slot) := by
  rw [placed, place_of_unanswered other, placed]
  rcases fs.place src key doc slots with - | r
  · rfl
  · exact Decoder.toOption_map _

theorem placed_of_answered (own : f.answersTo key = true) :
    placed src (.cons f fs) key doc (.cons none slots) =
      (f.decoder src doc).toOption.map fun a => .cons (some a) slots := by
  rw [placed, place_of_answered own]
  show Except.toOption _ = _
  rw [Decoder.toOption_map, Decoder.toOption_inside]

theorem placed_of_repeated {a : α} (own : f.answersTo key = true) :
    placed src (.cons f fs) key doc (.cons (some a) slots) = none := by
  rw [placed, place_of_repeated own]
  rfl

/-- A member that is read into a field and one that passes it by do not meet. -/
theorem placed_comm_apart {slot : Option α} (own : f.answersTo key = true)
    (other : f.answersTo key' = false) :
    (placed src (.cons f fs) key doc (.cons slot slots)).bind (placed src (.cons f fs) key' doc') =
      (placed src (.cons f fs) key' doc' (.cons slot slots)).bind
        (placed src (.cons f fs) key doc) := by
  cases slot with
  | some b =>
    rw [placed_of_repeated own, placed_of_unanswered other]
    cases placed src fs key' doc' slots with
    | none => rfl
    | some slots => exact (placed_of_repeated own).symm
  | none =>
    rw [placed_of_answered own, placed_of_unanswered other]
    cases read : (f.decoder src doc).toOption with
    | none =>
      cases placed src fs key' doc' slots with
      | none => rfl
      | some slots =>
        rw [Option.map_some, Option.bind_some, placed_of_answered own, read]
        rfl
    | some a =>
      rw [Option.map_some, Option.bind_some, placed_of_unanswered other]
      cases placed src fs key' doc' slots with
      | none => rfl
      | some slots =>
        rw [Option.map_some, Option.map_some, Option.bind_some, placed_of_answered own, read]
        rfl

/-- The second of two members that are read into one field is refused. -/
theorem placed_twice {slot : Option α} (own : f.answersTo key = true)
    (own' : f.answersTo key' = true) :
    (placed src (.cons f fs) key doc (.cons slot slots)).bind (placed src (.cons f fs) key' doc') =
      none := by
  cases slot with
  | some b =>
    rw [placed_of_repeated own]
    rfl
  | none =>
    rw [placed_of_answered own]
    cases (f.decoder src doc).toOption with
    | none => rfl
    | some a => exact placed_of_repeated own'

/-- Two members may be read in either order. -/
theorem placed_comm :
    (placed src fs key doc slots).bind (placed src fs key' doc') =
      (placed src fs key' doc' slots).bind (placed src fs key doc) := by
  induction fs with
  | nil => rfl
  | cons f rest ih =>
    obtain ⟨slot, slots⟩ := slots
    change (placed src (cons f rest) key doc (.cons slot slots)).bind _ =
      (placed src (cons f rest) key' doc' (.cons slot slots)).bind _
    -- whether each of the two members is read into the first field
    cases own : f.answersTo key <;> cases own' : f.answersTo key'
    case false.false =>
      have later := @ih slots
      rw [placed_of_unanswered own, placed_of_unanswered own']
      cases first : placed src rest key doc slots <;>
        cases second : placed src rest key' doc' slots <;>
          simp only [first, second, Option.bind_none, Option.bind_some, Option.map_none,
            Option.map_some, placed_of_unanswered own, placed_of_unanswered own'] at later ⊢
      · rw [← later, Option.map_none]
      · rw [later, Option.map_none]
      · rw [later]
    case true.false => exact placed_comm_apart own own'
    case false.true => exact (placed_comm_apart own' own).symm
    case true.true => rw [placed_twice own own', placed_twice own' own]

theorem Agree.placed {room : Nat} {j : Json} (agree : fs.Agree)
    (read : Decoder.toJson? (.text room) doc = some j) (single : doc.unrepeated = true) :
    placed (.text room) fs key doc slots = placed .value fs key (Document.ofJson j) slots := by
  induction fs with
  | nil => rfl
  | cons f rest ih =>
    obtain ⟨slot, slots⟩ := slots
    change Fields.placed (.text room) (cons f rest) key doc (.cons slot slots) =
      Fields.placed .value (cons f rest) key (Document.ofJson j) (.cons slot slots)
    cases own : f.answersTo key with
    | false => rw [placed_of_unanswered own, placed_of_unanswered own, ih agree.2]
    | true =>
      cases slot with
      | some a => rw [placed_of_repeated own, placed_of_repeated own]
      | none => rw [placed_of_answered own, placed_of_answered own, agree.1 room doc j read single]

/-- Takes in a member of a record; one that no field answers to is skipped. -/
def memberStep (src : Source) (fs : Fields ts) (key : String) (doc : Document) (slots : Slots ts) :
    Option (Slots ts) :=
  match fs.place src key doc slots with
  | some r => r.toOption
  | none => (Decoder.skip src doc).toOption.map fun _ => slots

theorem memberStep_value :
    memberStep .value fs key doc slots = placed .value fs key doc slots := rfl

theorem memberStep_eq {j : Json} {src' : Source} (read : Decoder.toJson? src' doc = some j) :
    memberStep src fs key doc slots = placed src fs key doc slots := by
  rw [memberStep, placed, Decoder.skip_of_toJson? read]
  rfl

theorem collect_absorb {members : List (Document × Document)} :
    (fs.collect src members slots).toOption =
      Document.absorb (memberStep src fs) members slots := by
  induction members generalizing slots with
  | nil => rfl
  | cons member rest ih =>
    obtain ⟨key, doc⟩ := member
    cases key with
    | text key =>
      cases key with
      | none => rfl
      | some key =>
        rw [collect_cons, Document.absorb, memberStep]
        rcases fs.place src key doc slots with - | (fault | slots)
        · cases Decoder.skip src doc with
          | error fault => rfl
          | ok _ => exact ih
        · rfl
        · exact ih
    | _ => rfl

theorem toOption_ofItems_nil {index : Nat} {expected : String} :
    ((cons f fs).ofItems src true expected index []).toOption =
      f.absent.bind fun a =>
        (fs.ofItems src true expected (index + 1) []).toOption.map (Row.cons a) := by
  rw [Fields.ofItems, Bool.not_true, Bool.and_false, if_neg Bool.false_ne_true]
  cases f.absent with
  | none => rfl
  | some a => exact Decoder.toOption_map (Row.cons a)

theorem toOption_ofItems_cons {index : Nat} {expected : String} {docs : List Document} :
    ((cons f fs).ofItems src true expected index (doc :: docs)).toOption =
      (f.decoder src doc).toOption.bind fun a =>
        (fs.ofItems src true expected (index + 1) docs).toOption.map (Row.cons a) := by
  rw [Fields.ofItems, ← Decoder.toOption_inside (.item index) (r := f.decoder src doc)]
  cases Decoder.inside (.item index) (f.decoder src doc) with
  | error fault => rfl
  | ok a => exact Decoder.toOption_map (Row.cons a)

theorem Agree.ofItems {room index : Nat} {docs : List Document} {js : List Json} {expected : String}
    (agree : fs.Agree) (read : Decoder.toItems? (.text room) docs = some js)
    (single : Document.itemsUnrepeated docs = true) :
    (fs.ofItems (.text room) true expected index docs).toOption =
      (fs.ofItems .value true expected index (Document.ofItems js)).toOption := by
  induction fs generalizing docs js index with
  | nil =>
    cases docs with
    | nil =>
      cases read
      rfl
    | cons doc docs =>
      obtain ⟨j, js, -, -, rfl⟩ := Decoder.toItems?_cons_iff.mp read
      rfl
  | cons f rest ih =>
    cases docs with
    | nil =>
      cases read
      rw [Document.ofItems, toOption_ofItems_nil, toOption_ofItems_nil]
      refine Option.bind_congr fun a _ => ?_
      rw [ih agree.2 rfl rfl, Document.ofItems]
    | cons doc docs =>
      obtain ⟨j, js, first, others, rfl⟩ := Decoder.toItems?_cons_iff.mp read
      rw [Document.itemsUnrepeated, Bool.and_eq_true] at single
      rw [Document.ofItems, toOption_ofItems_cons, toOption_ofItems_cons,
        agree.1 room doc j first single.1]
      refine Option.bind_congr fun a _ => ?_
      rw [ih agree.2 others single.2]

end Fields

namespace Record

variable {α : Type} {r : Record α}

theorem toOption_object {src inner : Source} {members : List (Document × Document)}
    (entered : src.enter? = some inner) :
    (r.decoder src (.object members true)).toOption =
      (Document.absorb (Fields.memberStep inner r.fields) members Slots.none).bind fun slots =>
        ((r.fields.complete slots).map r.build).toOption := by
  simp only [decoder, entered, Bool.not_true, Bool.and_false, if_neg Bool.false_ne_true]
  rw [← Fields.collect_absorb]
  cases r.fields.collect inner members Slots.none <;> rfl

/-- A record whose fields agree agrees, in its object form and in its array form. -/
theorem agrees (agree : r.fields.Agree) : r.decoder.Agrees := by
  refine Decoder.agrees_of_parts ?plain ?array ?object
  case plain => exact fun _ _ doc plain => by cases doc <;> first | rfl | cases plain
  case array =>
    intro room docs js read single
    simp only [decoder, Source.enter?]
    rw [Decoder.toOption_map, Decoder.toOption_map, agree.ofItems read single]
  case object =>
    intro room members ms read single
    have text : (Source.text (room + 1)).enter? = some (.text room) := rfl
    have value : Source.value.enter? = some .value := rfl
    rw [toOption_object text, toOption_object value]
    congr 1
    refine Document.absorb_sorted read single (fun k doc j slots first single => ?_)
      fun k k' j j' slots _ => ?_
    · rw [Fields.memberStep_eq first, agree.placed first single, Fields.memberStep_value]
    · exact Fields.placed_comm

end Record

end PaymentRelay
