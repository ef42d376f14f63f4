/-
  Dictionaries in the order of their keys.

  Headers, validation messages and objects that are passed through are written with their keys in
  the order of the code points, each key once. The order is part of the type; two dictionaries
  with the same look-ups are equal (`Dict.ext_find?`).
-/

namespace PaymentRelay

/-- Entries in strictly increasing order of their keys. -/
structure Dict (α : Type) where
  entries : List (String × α)
  sorted : entries.Pairwise fun a b => a.1 < b.1

namespace Dict

variable {α β : Type}

theorem lt_of_not_lt {a b : String} (h : ¬a < b) (ne : a ≠ b) : b < a :=
  String.not_le.1 fun le => ne (String.le_antisymm le (String.not_lt.1 h))

/-- The first entry of a key in a list of entries. -/
def lookup (k : String) : List (String × α) → Option α
  | [] => none
  | (k', v) :: rest => if k = k' then some v else lookup k rest

/-- Puts an entry in its place, over an entry of the same key. -/
def put (k : String) (v : α) : List (String × α) → List (String × α)
  | [] => [(k, v)]
  | (k', v') :: rest =>
    if k < k' then (k, v) :: (k', v') :: rest
    else if k = k' then (k, v) :: rest
    else (k', v') :: put k v rest

theorem mem_put {k : String} {v : α} {l : List (String × α)} {e : String × α}
    (h : e ∈ put k v l) : e = (k, v) ∨ e ∈ l := by
  induction l with
  | nil => simpa [put] using h
  | cons head rest ih =>
    simp only [put] at h
    split at h
    · simpa using h
    · split at h
      · rcases List.mem_cons.1 h with h | h
        · exact .inl h
        · exact .inr (List.mem_cons_of_mem _ h)
      · rcases List.mem_cons.1 h with h | h
        · exact .inr (h ▸ List.mem_cons_self)
        · exact (ih h).imp id (List.mem_cons_of_mem _)

theorem sorted_put {k : String} {v : α} {l : List (String × α)}
    (h : l.Pairwise fun a b => a.1 < b.1) : (put k v l).Pairwise fun a b => a.1 < b.1 := by
  induction l with
  | nil => simp [put]
  | cons head rest ih =>
    have ⟨headLt, restSorted⟩ := List.pairwise_cons.1 h
    simp only [put]
    split
    · next lt =>
      refine List.pairwise_cons.2 ⟨fun e he => ?_, h⟩
      rcases List.mem_cons.1 he with rfl | he
      · exact lt
      · exact String.lt_trans lt (headLt e he)
    · next notLt =>
      split
      · next eq =>
        exact List.pairwise_cons.2 ⟨fun e he => by simpa [eq] using headLt e he, restSorted⟩
      · next ne =>
        refine List.pairwise_cons.2 ⟨fun e he => ?_, ih restSorted⟩
        rcases mem_put he with rfl | he
        · exact lt_of_not_lt notLt ne
        · exact headLt e he

/-- The dictionary without entries. -/
def empty : Dict α := ⟨[], .nil⟩

instance : Inhabited (Dict α) := ⟨empty⟩

def isEmpty (d : Dict α) : Bool := d.entries.isEmpty

/-- The value of a key. -/
def find? (d : Dict α) (k : String) : Option α := lookup k d.entries

/-- The dictionary in which `k` has the value `v`. -/
def insert (d : Dict α) (k : String) (v : α) : Dict α :=
  ⟨put k v d.entries, sorted_put d.sorted⟩

/-- The dictionary of a list of entries, of which a later one wins. -/
def ofList (l : List (String × α)) : Dict α :=
  l.foldl (fun d e => d.insert e.1 e.2) empty

/-- The dictionary with every value changed. -/
def map (f : α → β) (d : Dict α) : Dict β :=
  ⟨d.entries.map fun e => (e.1, f e.2), by
    simpa [List.pairwise_map] using d.sorted⟩

def keys (d : Dict α) : List String := d.entries.map (·.1)

theorem lookup_put (k k' : String) (v : α) (l : List (String × α)) :
    lookup k (put k' v l) = if k = k' then some v else lookup k l := by
  induction l with
  | nil => simp [put, lookup]
  | cons head rest ih =>
    obtain ⟨hk, hv⟩ := head
    simp only [put]
    split
    · simp only [lookup]
    · split
      · next eq =>
        subst eq
        simp only [lookup]
        split <;> rfl
      · next ne =>
        simp only [lookup, ih]
        by_cases h : k = hk
        · subst h; simp [Ne.symm ne]
        · simp [h]

theorem find?_insert (d : Dict α) (k k' : String) (v : α) :
    (d.insert k' v).find? k = if k = k' then some v else d.find? k :=
  lookup_put k k' v d.entries

theorem find?_empty (k : String) : (empty : Dict α).find? k = none := rfl

theorem lookup_eq_none {k : String} {l : List (String × α)} (h : ∀ e ∈ l, k < e.1) :
    lookup k l = none := by
  induction l with
  | nil => rfl
  | cons head rest ih =>
    have lt := h head List.mem_cons_self
    have ne : k ≠ head.1 := fun eq => String.lt_irrefl k (eq ▸ lt)
    simp [lookup, ne, ih fun e he => h e (List.mem_cons_of_mem _ he)]

theorem entries_ext {l l' : List (String × α)} (h : l.Pairwise fun a b => a.1 < b.1)
    (h' : l'.Pairwise fun a b => a.1 < b.1) (same : ∀ k, lookup k l = lookup k l') : l = l' := by
  induction l generalizing l' with
  | nil =>
    cases l' with
    | nil => rfl
    | cons head rest => simpa [lookup] using same head.1
  | cons head rest ih =>
    obtain ⟨k, v⟩ := head
    have ⟨above, restSorted⟩ := List.pairwise_cons.1 h
    cases l' with
    | nil => simpa [lookup] using same k
    | cons head' rest' =>
      obtain ⟨k', v'⟩ := head'
      have ⟨above', restSorted'⟩ := List.pairwise_cons.1 h'
      have keys : k = k' := by
        by_cases eq : k = k'
        · exact eq
        · exfalso
          by_cases lt : k < k'
          · have none : lookup k ((k', v') :: rest') = none :=
              lookup_eq_none fun e he => by
                rcases List.mem_cons.1 he with rfl | he
                · exact lt
                · exact String.lt_trans lt (above' e he)
            have h := same k
            rw [none] at h
            simp [lookup] at h
          · have gt := lt_of_not_lt lt eq
            have none : lookup k' ((k, v) :: rest) = none :=
              lookup_eq_none fun e he => by
                rcases List.mem_cons.1 he with rfl | he
                · exact gt
                · exact String.lt_trans gt (above e he)
            have h := same k'
            rw [none] at h
            simp [lookup] at h
      subst keys
      have values : v = v' := by simpa [lookup] using same k
      subst values
      have tails : rest = rest' := ih restSorted restSorted' fun x => by
        by_cases eq : x = k
        · subst eq
          rw [lookup_eq_none above, lookup_eq_none above']
        · simpa [lookup, eq] using same x
      rw [tails]

/-- Dictionaries with the same look-ups are equal. -/
theorem ext_find? {d d' : Dict α} (h : ∀ k, d.find? k = d'.find? k) : d = d' := by
  cases d; cases d'
  simp only [Dict.mk.injEq]
  exact entries_ext ‹_› ‹_› h

end Dict

end PaymentRelay
