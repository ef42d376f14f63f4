import Mathlib.Data.List.Pairwise
import PaymentRelay.Call.Registry
import PaymentRelay.Proofs.Machine

/-
  The registry as a machine, and what its operations do.

  `perform` runs the operations of the registry, with the two things that the holder of a ticket
  can do: look into its slot, and go. `Sound` is what all of them keep: entries differ in their
  correlation ids and in their tickets, the slot of an entry is there and empty, and an empty slot
  whose holder is there belongs to an entry.

  What each operation does to the entries and to the slots is said beside it, so that no later
  proof opens it.
-/

namespace PaymentRelay

namespace Registry

/-- An operation on the registry. -/
inductive Op where
  | register (correlation channel route : String) (deadline : Instant)
  | resolve (m : Message)
  | expire (correlation : String)
  | cancel (correlation : String)
  | sweep (now : Instant) (grace : Span)
  /-- The holder of a ticket looks into its slot. -/
  | take (ticket : Nat)
  /-- The holder of a ticket goes. -/
  | drop (ticket : Nat)

/-- What an operation answers. -/
inductive Answer where
  | ticket (t : Option Nat)
  | resolution (r : Resolution)
  | removed (found : Bool)
  | swept (count : Nat)
  | found (c : Content)
  | done

/-- The registry as a machine. -/
def perform : Machine Registry Op Answer := fun r o =>
  match o with
  | .register correlation channel route deadline =>
    let (r, t) := r.register correlation channel route deadline
    (r, .ticket t)
  | .resolve m => let (r, answer) := r.resolve m; (r, .resolution answer)
  | .expire correlation => let (r, found) := r.expire correlation; (r, .removed found)
  | .cancel correlation => let (r, found) := r.cancel correlation; (r, .removed found)
  | .sweep now grace => let (r, count) := r.sweep now grace; (r, .swept count)
  | .take t => let (r, c) := r.take t; (r, .found c)
  | .drop t => (r.drop t, .done)

/-- In a list whose members differ in two things, those that agree in one of them are the same. -/
theorem eq_of_apart {α β γ : Type} {f : α → β} {g : α → γ} {l : List α}
    (apart : l.Pairwise fun a b => f a ≠ f b ∧ g a ≠ g b) {a b : α} (ha : a ∈ l) (hb : b ∈ l)
    (same : f a = f b ∨ g a = g b) : a = b := by
  by_cases hab : a = b
  · exact hab
  · have : Std.Symm fun a b : α => f a ≠ f b ∧ g a ≠ g b :=
      ⟨fun _ _ apart => ⟨apart.1.symm, apart.2.symm⟩⟩
    obtain ⟨firsts, seconds⟩ := apart.forall ha hb hab
    rcases same with same | same
    · exact absurd same firsts
    · exact absurd same seconds

/-- The registration with a ticket has not ended. -/
def Live (r : Registry) (t : Nat) : Prop := ∃ e ∈ r.entries, e.ticket = t

/-- What all operations keep. -/
structure Sound (r : Registry) : Prop where
  distinct : r.entries.Pairwise fun a b => a.correlation ≠ b.correlation ∧ a.ticket ≠ b.ticket
  issued : ∀ e ∈ r.entries, e.ticket < r.slots.length
  waiting : ∀ e ∈ r.entries, r.content e.ticket = .waiting
  live : ∀ t, t < r.slots.length → r.isAbandoned t = false → r.content t = .waiting → r.Live t

theorem sound_empty : Sound empty :=
  ⟨.nil, by simp [empty], by simp [empty], by simp [empty]⟩

/-! ## Entries -/

section
variable {r : Registry} {c : String} {e : Entry}

theorem mem_of_entry? (h : r.entry? c = some e) : e ∈ r.entries ∧ e.correlation = c :=
  ⟨List.mem_of_find?_eq_some h, by simpa using List.find?_some h⟩

theorem isPending_iff : r.isPending c = true ↔ ∃ e ∈ r.entries, e.correlation = c := by
  simp [isPending, entry?]

theorem entry?_eq_none_iff : r.entry? c = none ↔ ∀ e ∈ r.entries, e.correlation ≠ c := by
  simp [ entry?]

theorem mem_without {d : Entry} : d ∈ r.without c ↔ d ∈ r.entries ∧ d.correlation ≠ c := by
  simp [without]

/-- Entries with a correlation id or a ticket in common are the same entry. -/
theorem Sound.eq_of_mem (h : r.Sound) {d : Entry} (hd : d ∈ r.entries) (he : e ∈ r.entries)
    (same : d.correlation = e.correlation ∨ d.ticket = e.ticket) : d = e :=
  eq_of_apart h.distinct hd he same

theorem Sound.entry?_of_mem (h : r.Sound) (he : e ∈ r.entries) :
    r.entry? e.correlation = some e := by
  cases hf : r.entry? e.correlation with
  | none => exact absurd rfl (entry?_eq_none_iff.mp hf e he)
  | some d =>
    obtain ⟨hd, hc⟩ := mem_of_entry? hf
    rw [h.eq_of_mem hd he (.inl hc)]

/-- Without a correlation id, the entry that has it is missing, and no other. -/
theorem Sound.mem_without_iff (h : r.Sound) (he : r.entry? c = some e) {d : Entry} :
    d ∈ r.without c ↔ d ∈ r.entries ∧ d.ticket ≠ e.ticket := by
  obtain ⟨hm, hc⟩ := mem_of_entry? he
  rw [mem_without]
  constructor
  · rintro ⟨hd, hdc⟩
    refine ⟨hd, fun ht => hdc ?_⟩
    rw [h.eq_of_mem hd hm (.inr ht), hc]
  · rintro ⟨hd, hdt⟩
    refine ⟨hd, fun hdc => hdt ?_⟩
    rw [h.eq_of_mem hd hm (.inl (hdc.trans hc.symm))]

end

/-! ## Slots -/

section
variable {r r' : Registry} {t u : Nat} {x : Content}

theorem content_congr (hs : r'.slots[u]? = r.slots[u]?) : r'.content u = r.content u := by
  simp [content, slot?, hs]

theorem isAbandoned_congr (hs : r'.slots[u]? = r.slots[u]?) :
    r'.isAbandoned u = r.isAbandoned u := by
  simp [isAbandoned, slot?, hs]

theorem length_fill (slots : List Slot) (t : Nat) (x : Content) :
    (fill slots t x).length = slots.length := by
  simp [fill]

theorem content_fill_self (hs : r'.slots = fill r.slots t x) (ht : t < r.slots.length)
    (hw : r.content t = .waiting) : r'.content t = x := by
  have slot : r.slots[t]? = some r.slots[t] := List.getElem?_eq_getElem ht
  simp only [content, slot?, slot] at hw
  simp [content, slot?, hs, fill, slot, hw]

theorem content_fill_ne (hs : r'.slots = fill r.slots t x) (hu : u ≠ t) :
    r'.content u = r.content u := by
  apply content_congr
  rw [hs, fill, List.getElem?_modify_ne _ _ hu.symm]

theorem isAbandoned_fill (hs : r'.slots = fill r.slots t x) :
    r'.isAbandoned u = r.isAbandoned u := by
  by_cases hu : u = t
  · subst hu
    cases hslot : r.slots[u]? with
    | none => simp [isAbandoned, slot?, hs, fill, hslot]
    | some s => cases hc : s.content <;> simp [isAbandoned, slot?, hs, fill, hslot, hc]
  · apply isAbandoned_congr
    rw [hs, fill, List.getElem?_modify_ne _ _ (Ne.symm hu)]

/-- Closing slots one after the other: those of the entries are closed, unless something is in
them, and the others are as they were. -/
theorem getElem?_foldl_fill (entries : List Entry) (slots : List Slot) (u : Nat) :
    (entries.foldl (fun slots e => fill slots e.ticket .closed) slots)[u]? =
      if ∃ e ∈ entries, e.ticket = u then (fill slots u .closed)[u]? else slots[u]? := by
  induction entries generalizing slots with
  | nil => simp
  | cons e rest ih =>
    rw [List.foldl_cons, ih]
    by_cases he : e.ticket = u
    · -- A slot that has been closed stays closed.
      have twice : (fill (fill slots u .closed) u .closed)[u]? = (fill slots u .closed)[u]? := by
        cases hslot : slots[u]? with
        | none => simp [fill, hslot]
        | some s => cases hc : s.content <;> simp [fill, hslot, hc]
      simp [he, twice]
    · have other : (fill slots e.ticket .closed)[u]? = slots[u]? := by
        rw [fill, List.getElem?_modify_ne _ _ he]
      have closed : (fill (fill slots e.ticket .closed) u .closed)[u]? =
          (fill slots u .closed)[u]? := by
        simp only [fill] at other
        simp [fill, other]
      simp [he, other, closed]

end

/-! ## Operations -/

section
variable {r : Registry} {c k route : String} {d : Instant} {m : Message} {t : Nat}

theorem register_of_isPending (h : r.isPending c = true) : r.register c k route d = (r, none) := by
  simp [register, h]

theorem register_of_not_isPending (h : r.isPending c = false) :
    r.register c k route d =
      ({ entries := r.entries ++ [⟨c, r.slots.length, k, route, d⟩]
         slots := r.slots ++ [⟨true, .waiting⟩]
         counters := { r.counters with registered := r.counters.registered + 1 } },
        some r.slots.length) := by
  simp [register, h]

theorem slot_register (h : t < r.slots.length) :
    (r.register c k route d).1.slots[t]? = r.slots[t]? := by
  cases hp : r.isPending c with
  | true => rw [register_of_isPending hp]
  | false =>
    rw [register_of_not_isPending hp]
    exact List.getElem?_append_left h

theorem mem_register {e : Entry} (h : e ∈ (r.register c k route d).1.entries) :
    e ∈ r.entries ∨ e = ⟨c, r.slots.length, k, route, d⟩ ∧ r.isPending c = false := by
  cases hp : r.isPending c with
  | true =>
    rw [register_of_isPending hp] at h
    exact .inl h
  | false =>
    rw [register_of_not_isPending hp] at h
    simp only [List.mem_append, List.mem_singleton] at h
    exact h.imp_right fun h => ⟨h, rfl⟩

/-- The four things that can become of a reply. -/
theorem resolve_cases (r : Registry) (m : Message) :
    (r.entry? m.correlation = none ∧ (r.resolve m).2 = .unknown ∧
      (r.resolve m).1 =
        { r with counters := { r.counters with orphaned := r.counters.orphaned + 1 } }) ∨
    ∃ e, r.entry? m.correlation = some e ∧
      ((e.channel ≠ m.channel ∧ (r.resolve m).2 = .wrongChannel ∧
        (r.resolve m).1 =
          { r with counters := { r.counters with orphaned := r.counters.orphaned + 1 } }) ∨
      (e.channel = m.channel ∧ r.isAbandoned e.ticket = true ∧ (r.resolve m).2 = .callerGone ∧
        (r.resolve m).1 = { r with
          entries := r.without m.correlation
          counters := { r.counters with cancelled := r.counters.cancelled + 1 } }) ∨
      (e.channel = m.channel ∧ r.isAbandoned e.ticket = false ∧ (r.resolve m).2 = .delivered ∧
        (r.resolve m).1 = {
          entries := r.without m.correlation
          slots := fill r.slots e.ticket (.reply m)
          counters := { r.counters with completed := r.counters.completed + 1 } })) := by
  cases he : r.entry? m.correlation with
  | none => simp [resolve, he]
  | some e =>
    by_cases hc : e.channel = m.channel
    · cases ha : r.isAbandoned e.ticket <;> simp [resolve, he, hc, ha]
    · simp [resolve, he, hc]

theorem remove_of_none {count : Counters → Counters} (h : r.entry? c = none) :
    r.remove c count = (r, false) := by
  simp [remove, h]

theorem remove_of_some {count : Counters → Counters} {e : Entry} (h : r.entry? c = some e) :
    r.remove c count =
      ({ entries := r.without c, slots := fill r.slots e.ticket .closed
         counters := count r.counters }, true) := by
  simp [remove, h]

/-- A registration that is withdrawn at once leaves nothing but a slot that nobody holds. -/
theorem register_withdrawn (hp : r.isPending c = false) :
    (((r.register c k route d).1.cancel c).1.drop r.slots.length).entries = r.entries ∧
      (((r.register c k route d).1.cancel c).1.drop r.slots.length).slots =
        r.slots ++ [⟨false, .closed⟩] := by
  have others : ∀ e ∈ r.entries, e.correlation ≠ c := by
    intro e he hc
    rw [isPending_iff.mpr ⟨e, he, hc⟩] at hp
    cases hp
  have kept : r.entries.filter (fun e => e.correlation ≠ c) = r.entries := by
    rw [List.filter_eq_self]
    simpa using others
  have missing : r.entries.find? (fun e => e.correlation = c) = none :=
    entry?_eq_none_iff.mpr others
  have found : ∀ slots counters, Registry.entry?
      ⟨r.entries ++ [⟨c, r.slots.length, k, route, d⟩], slots, counters⟩ c =
      some ⟨c, r.slots.length, k, route, d⟩ := by
    intro slots counters
    simp [ entry?, List.find?_append, missing]
  rw [register_of_not_isPending hp]
  simp only [cancel, remove_of_some (found _ _), drop, without, fill, List.filter_append, kept]
  constructor
  · simp
  · have last : ∀ (s : Slot) (f : Slot → Slot),
        (r.slots ++ [s]).modify r.slots.length f = r.slots ++ [f s] := by
      intro s f
      rw [List.modify_eq_set_getElem?]
      simp
    rw [last, last]

theorem take_of_reply (h : r.content t = .reply m) :
    r.take t =
      ({ r with slots := r.slots.modify t fun s => { s with content := .closed } }, .reply m) := by
  simp [take, h]

theorem take_of_not_reply (h : ∀ m, r.content t ≠ .reply m) : r.take t = (r, r.content t) := by
  unfold take
  split
  · rename_i m hm
    exact absurd hm (h m)
  · rfl

end

end Registry

end PaymentRelay
