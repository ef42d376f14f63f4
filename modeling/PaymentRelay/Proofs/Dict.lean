import Mathlib.Data.List.Nodup
import Mathlib.Data.List.Perm.Basic
import PaymentRelay.Dict

/-
  Dictionaries and lists of entries.

  A list in which no key is repeated and its dictionary have the same entries in another order
  (`entries_ofList_perm`), and the dictionary of the entries of a dictionary is that dictionary
  (`ofList_entries`).
-/

namespace PaymentRelay

namespace Dict

variable {α : Type} {l : List (String × α)} {k : String}

theorem lookup_filter (k k' : String) (l : List (String × α)) :
    lookup k (l.filter fun e => e.1 ≠ k') = if k = k' then none else lookup k l := by
  induction l with
  | nil => simp [lookup]
  | cons head rest ih =>
    by_cases gone : head.1 = k'
    · by_cases same : k = k'
      · simp_all
      · have other : k ≠ head.1 := fun eq => same (eq.trans gone)
        simp_all [lookup]
    · by_cases same : k = head.1
      · have other : k ≠ k' := fun eq => gone (same.symm.trans eq)
        simp [lookup, gone, same]
      · simp_all [lookup]

/-- A key is listed when there is something under it. -/
theorem mem_keys_iff : k ∈ l.map (·.1) ↔ lookup k l ≠ none := by
  induction l with
  | nil => simp [lookup]
  | cons head rest ih =>
    by_cases same : k = head.1
    · simp [lookup, same]
    · rw [List.map_cons, List.mem_cons, ih, lookup, if_neg same]
      exact or_iff_right same

theorem lookup_eq_none_of_fresh (fresh : k ∉ l.map (·.1)) : lookup k l = none :=
  by_contra fun there => fresh (mem_keys_iff.mpr there)

theorem isEmpty_iff (d : Dict α) : d.isEmpty = true ↔ ∀ k, d.find? k = none := by
  have no_key : (∀ k, d.find? k = none) ↔ d.entries.map (·.1) = [] := by
    rw [List.eq_nil_iff_forall_not_mem]
    exact forall_congr' fun k => by rw [mem_keys_iff, not_not, find?]
  rw [no_key, List.map_eq_nil_iff, isEmpty, List.isEmpty_iff]

theorem mem_iff_lookup (nodup : (l.map (·.1)).Nodup) {e : String × α} :
    e ∈ l ↔ lookup e.1 l = some e.2 := by
  induction l with
  | nil => simp [lookup]
  | cons head rest ih =>
    obtain ⟨fresh, nodup⟩ := List.nodup_cons.mp nodup
    rw [List.mem_cons, ih nodup, lookup]
    split
    · next same =>
      rw [same, lookup_eq_none_of_fresh fresh, Option.some.injEq]
      have never : none ≠ some e.2 := (Option.some_ne_none _).symm
      exact ⟨fun h => h.elim (fun eq => eq ▸ rfl) (absurd · never),
        fun eq => .inl (Prod.ext same eq.symm)⟩
    · next other => exact or_iff_right fun eq => other (eq ▸ rfl)

theorem nodup_keys (d : Dict α) : (d.entries.map (·.1)).Nodup :=
  List.pairwise_map.mpr (d.sorted.imp fun {a b} lt (eq : a.1 = b.1) =>
    String.lt_irrefl b.1 (by rwa [eq] at lt))

theorem find?_foldl_insert (nodup : (l.map (·.1)).Nodup) (d : Dict α) :
    (l.foldl (fun d e => d.insert e.1 e.2) d).find? k = (lookup k l).or (d.find? k) := by
  induction l generalizing d with
  | nil => simp [lookup]
  | cons head rest ih =>
    obtain ⟨fresh, nodup⟩ := List.nodup_cons.mp nodup
    rw [List.foldl_cons, ih nodup, find?_insert, lookup]
    split
    · next same =>
      rw [same, lookup_eq_none_of_fresh fresh, Option.none_or, Option.some_or]
    · rfl

theorem find?_ofList (nodup : (l.map (·.1)).Nodup) : (ofList l).find? k = lookup k l := by
  rw [ofList, find?_foldl_insert nodup, find?_empty, Option.or_none]

theorem ofList_entries (d : Dict α) : ofList d.entries = d :=
  ext_find? fun _ => find?_ofList d.nodup_keys

theorem lookup_append (k : String) (l l' : List (String × α)) :
    lookup k (l ++ l') = (lookup k l).or (lookup k l') := by
  induction l with
  | nil => rfl
  | cons head rest ih =>
    rw [List.cons_append, lookup, lookup, ih]
    split <;> rfl

/-- Where no key is repeated, an entry that is struck from a list leaves nothing under its key. -/
theorem lookup_filter_of_nodup {p : String × α → Bool} (nodup : (l.map (·.1)).Nodup) :
    lookup k (l.filter p) = (lookup k l).filter fun v => p (k, v) := by
  induction l with
  | nil => rfl
  | cons head rest ih =>
    obtain ⟨fresh, nodup⟩ := List.nodup_cons.mp nodup
    have later := ih nodup
    by_cases same : k = head.1
    · subst same
      have gone : lookup head.1 (rest.filter p) = none := by
        rw [later, lookup_eq_none_of_fresh fresh, Option.filter_none]
      rw [List.filter_cons, lookup, if_pos rfl, Option.filter_some]
      split
      · rw [lookup, if_pos rfl]
      · exact gone
    · rw [List.filter_cons, lookup, if_neg same, ← later]
      split
      · rw [lookup, if_neg same]
      · rfl

/-- Lists of entries that repeat no key are the same but for their order if they have the same
look-ups. -/
theorem perm_of_lookup {l' : List (String × α)} (nodup : (l.map (·.1)).Nodup)
    (nodup' : (l'.map (·.1)).Nodup) (same : ∀ k, lookup k l = lookup k l') : l.Perm l' := by
  have distinct {l : List (String × α)} (nodup : (l.map (·.1)).Nodup) : l.Nodup :=
    List.Nodup.of_map _ nodup
  refine (List.perm_ext_iff_of_nodup (distinct nodup) (distinct nodup')).mpr fun e => ?_
  rw [mem_iff_lookup nodup, mem_iff_lookup nodup', same]

theorem find?_map {β : Type} (f : α → β) (d : Dict α) : (d.map f).find? k = (d.find? k).map f := by
  have onto (l : List (String × α)) :
      lookup k (l.map fun e => (e.1, f e.2)) = (lookup k l).map f := by
    induction l with
    | nil => rfl
    | cons head rest ih =>
      rw [List.map_cons, lookup, lookup, ih]
      split <;> rfl
  exact onto d.entries

theorem keys_map {β : Type} (f : α → β) (d : Dict α) : (d.map f).keys = d.keys :=
  List.map_map

theorem insert_comm {d : Dict α} {k' : String} {a b : α} (ne : k ≠ k') :
    (d.insert k a).insert k' b = (d.insert k' b).insert k a :=
  ext_find? fun x => by
    rw [find?_insert, find?_insert, find?_insert, find?_insert]
    split
    · next first => rw [if_neg fun same => ne (same.symm.trans first)]
    · rfl

/-- A dictionary has no entries but those of its list. -/
theorem mem_of_mem_ofList {e : String × α} (mem : e ∈ (ofList l).entries) : e ∈ l := by
  have from_start (l : List (String × α)) (d : Dict α)
      (mem : e ∈ (l.foldl (fun d e => d.insert e.1 e.2) d).entries) : e ∈ l ∨ e ∈ d.entries := by
    induction l generalizing d with
    | nil => exact .inr mem
    | cons head rest ih =>
      rcases ih _ mem with later | early
      · exact .inl (List.mem_cons_of_mem _ later)
      · exact (mem_put early).imp (fun eq => by rw [eq]; exact List.mem_cons_self) id
  exact (from_start l empty mem).resolve_right nofun

theorem entries_ofList_perm (nodup : (l.map (·.1)).Nodup) : (ofList l).entries.Perm l :=
  perm_of_lookup (nodup_keys _) nodup fun _ => find?_ofList nodup

end Dict

end PaymentRelay
