import PaymentRelay.Proofs.Json.Rereading

/-
  Parts of records that are read back as they were written.

  Texts, booleans and integers are read back from what is written of them, whoever made them
  (`Decoder.stable_of_readsBack`). Values that are passed through, lists and dictionaries are so
  because they come out of a document: a value of it is canonical and no deeper than it.
-/

namespace PaymentRelay

/-! ## Integers -/

/-- An integer of 64 bits, signed or unsigned, is the value of its number. -/
theorem Number.ofInt?_spec {i : Int} (low : -0x8000000000000000 ≤ i)
    (high : i < 0x10000000000000000) :
    ∃ n, ofInt? i = some n ∧ n.toInt? = some i ∧ n.isIntegral = true := by
  unfold ofInt?
  by_cases positive : 0 ≤ i
  · refine ⟨.natural (UInt64.ofNat i.toNat), by rw [if_pos positive, if_pos high], ?_, rfl⟩
    have small : i.toNat < 2 ^ 64 := by omega
    rw [toInt?, UInt64.toNat_ofNat_of_lt' small, Int.toNat_of_nonneg positive]
  · have small : (-i - 1).toNat < 0x8000000000000000 := by omega
    refine ⟨.negative ⟨(-i - 1).toNat, small⟩, by rw [if_neg positive, dif_pos small], ?_, rfl⟩
    show some (-((-i - 1).toNat : Int) - 1) = some i
    congr 1
    omega

namespace Decoder

variable {α β : Type} {d : Decoder α} {e : α → Json} {room : Nat}

theorem stable_of_readsBack (back : ∀ a, d.ReadsBack room (e a) a) : d.Stable e room :=
  fun _ a _ _ => back a

theorem readsBack_text (s : String) : text.ReadsBack room (.text s) s := ⟨rfl, rfl⟩

theorem readsBack_bool (b : Bool) : bool.ReadsBack room (.bool b) b := ⟨rfl, rfl⟩

/-- An integer in the range of its type is read back, and any type that is made of it. -/
theorem readsBack_integer {low high : Int} {name : String}
    {f : { i : Int // low ≤ i ∧ i < high } → β}
    (i : Int) (mem : low ≤ i ∧ i < high) (least : -0x8000000000000000 ≤ low)
    (most : high ≤ 0x10000000000000000) :
    ((integer low high name).map f).ReadsBack room (.ofInt i) (f ⟨i, mem⟩) := by
  obtain ⟨n, number, value, integral⟩ :=
    Number.ofInt?_spec (Int.le_trans least mem.1) (Int.lt_of_lt_of_le mem.2 most)
  have written : Json.ofInt i = .number n := by rw [Json.ofInt, number]
  rw [written]
  refine ⟨integral, ?_⟩
  simp only [Decoder.map, integer, Document.ofJson, value, dif_pos mem]
  rfl

theorem readsBack_word {name : String} (n : UInt64) :
    (word name).ReadsBack room (.number (.ofWord n)) n := by
  have mem : (0 : Int) ≤ n.toNat ∧ (n.toNat : Int) < 0x10000000000000000 := by
    have small := n.toNat_lt
    omega
  have back : (word name).ReadsBack room (.ofInt n.toNat) (.ofNat (n.toNat : Int).toNat) :=
    readsBack_integer n.toNat mem (by decide) (by decide)
  have written : Json.ofInt n.toNat = .number (.ofWord n) := by
    rw [Json.ofInt, Number.ofInt?, if_pos mem.1, if_pos mem.2, Int.toNat_natCast,
      UInt64.ofNat_toNat]
    rfl
  rwa [written, Int.toNat_natCast, UInt64.ofNat_toNat] at back

theorem readsBack_port (p : UInt16) : port.ReadsBack room (.ofNat p.toNat) p := by
  have mem : (0 : Int) ≤ p.toNat ∧ (p.toNat : Int) < 0x10000 := by
    have small := p.toNat_lt
    omega
  have back : port.ReadsBack room (.ofNat p.toNat) (.ofNat (p.toNat : Int).toNat) :=
    readsBack_integer p.toNat mem (by decide) (by decide)
  rwa [Int.toNat_natCast, UInt16.ofNat_toNat] at back

theorem readsBack_seconds (n : Int64) : seconds.ReadsBack room (.ofInt n.toInt) n := by
  have mem : -0x8000000000000000 ≤ n.toInt ∧ n.toInt < 0x8000000000000000 :=
    ⟨n.le_toInt, n.toInt_lt⟩
  have back : seconds.ReadsBack room (.ofInt n.toInt) (.ofInt n.toInt) :=
    readsBack_integer n.toInt mem (by decide) (by decide)
  rwa [Int64.ofInt_toInt] at back

/-! ## Values, lists and dictionaries -/

theorem stable_json : json.Stable id room := by
  intro doc j integral decoded
  unfold json at decoded
  split at decoded
  · next j' passed =>
    cases decoded
    have whole := passed_of_toJson? passed
    refine ⟨whole.integral integral, ?_⟩
    simp only [json, id, toJson?_passed passed whole.fits]
  · cases decoded

/-- The parts of a list that was read. -/
theorem items_readsBack {docs : List Document} {as : List α} {index : Nat}
    (stable : d.Stable e room) (integral : Document.areIntegral docs = true)
    (read : items d (.text room) index docs = .ok as) : ∀ a ∈ as, d.ReadsBack room (e a) a := by
  induction docs generalizing as index with
  | nil =>
    cases read
    exact fun _ => nofun
  | cons doc rest ih =>
    rw [Document.areIntegral, Bool.and_eq_true_iff] at integral
    obtain ⟨a, first, read⟩ := bind_eq_ok_iff.mp read
    obtain ⟨as', others, same⟩ := bind_eq_ok_iff.mp read
    cases same
    exact List.forall_mem_cons.mpr
      ⟨stable doc a integral.1 (inside_eq_ok_iff.mp first), ih integral.2 others⟩

theorem items_ofItems {as : List α} {index : Nat} (back : ∀ a ∈ as, d.ReadsBack room (e a) a) :
    items d (.text room) index (Document.ofItems (as.map e)) = .ok as := by
  induction as generalizing index with
  | nil => rfl
  | cons a rest ih =>
    obtain ⟨first, others⟩ := List.forall_mem_cons.mp back
    rw [List.map_cons, Document.ofItems, items, first.decoded, ih others]
    rfl

theorem readsBack_list {as : List α} (back : ∀ a ∈ as, d.ReadsBack room (e a) a) :
    (list d).ReadsBack (room + 1) (.array (as.map e)) as where
  integral := by
    rw [Json.isIntegral, Json.areIntegral_iff, List.forall_mem_map]
    exact fun a mem => (back a mem).integral
  decoded := by
    simp only [list, Document.ofJson, Source.enter?, items_ofItems back]
    rfl

theorem stable_list (stable : d.Stable e room) :
    (list d).Stable (fun as => .array (as.map e)) (room + 1) := by
  intro doc as integral decoded
  unfold list at decoded
  split at decoded
  · next docs closed =>
    simp only [Source.enter?] at decoded
    obtain ⟨as', read, done⟩ := bind_eq_ok_iff.mp decoded
    split at done
    · cases done
      exact readsBack_list (items_readsBack stable integral read)
    · cases done
  · cases decoded

/-- The values of a dictionary that was read. -/
theorem entries_readsBack {docs : List (Document × Document)} {es : List (String × α)}
    (stable : d.Stable e room) (integral : Document.membersIntegral docs = true)
    (read : entries d (.text room) docs = .ok es) : ∀ en ∈ es, d.ReadsBack room (e en.2) en.2 := by
  induction docs generalizing es with
  | nil =>
    cases read
    exact fun _ => nofun
  | cons member rest ih =>
    obtain ⟨key, doc⟩ := member
    rw [Document.membersIntegral, Bool.and_eq_true_iff] at integral
    unfold entries at read
    split at read
    · next eq => cases eq
    · next k doc' rest' eq =>
      cases eq
      obtain ⟨a, first, read⟩ := bind_eq_ok_iff.mp read
      obtain ⟨es', others, same⟩ := bind_eq_ok_iff.mp read
      cases same
      exact List.forall_mem_cons.mpr
        ⟨stable doc a integral.1 (inside_eq_ok_iff.mp first), ih integral.2 others⟩
    · cases read

theorem entries_ofMembers {es : List (String × α)}
    (back : ∀ en ∈ es, d.ReadsBack room (e en.2) en.2) :
    entries d (.text room) (Document.ofMembers (es.map fun en => (en.1, e en.2))) = .ok es := by
  induction es with
  | nil => rfl
  | cons en rest ih =>
    obtain ⟨first, others⟩ := List.forall_mem_cons.mp back
    rw [List.map_cons, Document.ofMembers, entries, first.decoded, ih others]
    rfl

theorem readsBack_dict {m : Dict α} (back : ∀ en ∈ m.entries, d.ReadsBack room (e en.2) en.2) :
    (dict d).ReadsBack (room + 1) (.ofDict (m.map e)) m where
  integral := by
    rw [Json.ofDict, Json.isIntegral, Json.membersIntegral_iff, Dict.map, List.forall_mem_map]
    exact fun en mem => (back en mem).integral
  decoded := by
    simp only [dict, Json.ofDict, Dict.map, Document.ofJson, Source.enter?, entries_ofMembers back]
    show Except.ok (Dict.ofList m.entries) = _
    rw [Dict.ofList_entries]

theorem stable_dict (stable : d.Stable e room) :
    (dict d).Stable (fun m => .ofDict (m.map e)) (room + 1) := by
  intro doc m integral decoded
  unfold dict at decoded
  split at decoded
  · next docs closed =>
    simp only [Source.enter?] at decoded
    obtain ⟨es, read, done⟩ := bind_eq_ok_iff.mp decoded
    split at done
    · cases done
      have back := entries_readsBack stable integral read
      exact readsBack_dict fun en mem => back en (Dict.mem_of_mem_ofList mem)
    · cases done
  · cases decoded

/-- Values that are passed through may stand in a dictionary as they are. -/
theorem stable_dict_json : (dict json).Stable Json.ofDict (room + 1) := by
  intro doc m integral decoded
  have same : m.map id = m := Dict.ext_find? fun k => by simp [Dict.find?, Dict.map]
  have back : (dict json).ReadsBack (room + 1) (.ofDict (m.map id)) m :=
    stable_dict stable_json doc m integral decoded
  rwa [same] at back

end Decoder

end PaymentRelay
