import Mathlib.Data.List.Nodup
import PaymentRelay.Proofs.Registry.Turn

/-
  The share that one correlation id has in the registry.

  A ticket says how many calls were registered before, under whichever ids. So that what one id
  sees does not depend on the others, its receivers are counted by themselves: receiver `n` of an
  id holds the ticket of the `n`-th call that was registered under it, and the share of an id is a
  registry in which that is the ticket. The operations on an id do to its share what the registry
  does (`Fits.share_resolve`, `Fits.share_remove`, `Fits.share_take`, `Fits.share_drop`), those on
  other ids leave it alone, and the sweep of the registry is the sweep of every share
  (`Fits.share_sweep`).
-/

namespace PaymentRelay

namespace Registry

/-- The slot of a ticket, or one that is of no use to anybody. -/
def place (slots : List Slot) (t : Nat) : Slot := (slots[t]?).getD ⟨false, .closed⟩

/-- The registry without its counters. -/
def bare (r : Registry) : Registry := { r with counters := ⟨0, 0, 0, 0, 0⟩ }

/-- An entry with its ticket counted among the tickets of its correlation id. -/
def renumber (ts : List Nat) (e : Entry) : Entry := { e with ticket := ts.idxOf e.ticket }

/-- The share of a correlation id that has been given these tickets. -/
def share (r : Registry) (c : String) (ts : List Nat) : Registry :=
  { entries := (r.entries.filter fun e => e.correlation = c).map (renumber ts)
    slots := ts.map (place r.slots)
    counters := ⟨0, 0, 0, 0, 0⟩ }

/-- The ticket of a receiver of a correlation id; one that nobody has, if there is no such
receiver. -/
def ticketOf (r : Registry) (ts : List Nat) (n : Nat) : Nat := ts.getD n r.slots.length

/-- These are the tickets that calls of a correlation id were given. -/
structure Fits (r : Registry) (c : String) (ts : List Nat) : Prop where
  distinct : ts.Nodup
  issued : ∀ t ∈ ts, t < r.slots.length
  own : ∀ e ∈ r.entries, e.correlation = c ↔ e.ticket ∈ ts

section
variable {r : Registry} {c : String} {ts : List Nat} {e : Entry} {n t : Nat}

/-! ## Slots -/

theorem place_eq (h : t < r.slots.length) : r.slots[t]? = some (place r.slots t) := by
  simp [place, List.getElem?_eq_getElem h]

theorem place_modify_ne {slots : List Slot} {u : Nat} (f : Slot → Slot) (h : t ≠ u) :
    place (slots.modify t f) u = place slots u := by
  rw [place, place, List.getElem?_modify_ne _ _ h]

theorem Fits.slot_share (h : Fits r c ts) (n : Nat) :
    (r.share c ts).slots[n]? = r.slots[r.ticketOf ts n]? := by
  simp only [share, ticketOf, List.getElem?_map, List.getD_eq_getElem?_getD]
  cases hn : ts[n]? with
  | none => simp
  | some t => exact (place_eq (h.issued t (List.mem_of_getElem? hn))).symm

theorem Fits.content_share (h : Fits r c ts) (n : Nat) :
    (r.share c ts).content n = r.content (r.ticketOf ts n) := by
  simp only [content, slot?, h.slot_share]

theorem Fits.isAbandoned_share (h : Fits r c ts) (n : Nat) :
    (r.share c ts).isAbandoned n = r.isAbandoned (r.ticketOf ts n) := by
  simp only [isAbandoned, slot?, h.slot_share]

/-- What is done to the slot of a receiver is done to its slot in the share. -/
theorem Fits.places_modify (h : Fits r c ts) (n : Nat) (f : Slot → Slot) :
    ts.map (place (r.slots.modify (r.ticketOf ts n) f)) = (ts.map (place r.slots)).modify n f := by
  refine List.ext_getElem? fun i => ?_
  simp only [List.getElem?_map, List.getElem?_modify]
  cases hi : ts[i]? with
  | none => simp
  | some t =>
    have ht : t < r.slots.length := h.issued t (List.mem_of_getElem? hi)
    by_cases hn : n = i
    · subst hn
      have : r.ticketOf ts n = t := by simp [ticketOf, hi]
      simp [this, place, List.getElem?_eq_getElem ht]
    · -- Another receiver has another ticket.
      have other : r.ticketOf ts n ≠ t := by
        intro same
        simp only [ticketOf, List.getD_eq_getElem?_getD] at same
        cases hm : ts[n]? with
        | none => simp [hm] at same; omega
        | some u =>
          simp only [hm, Option.getD_some] at same
          have inRange := (List.getElem?_eq_some_iff.mp hm).1
          exact hn ((List.getElem?_inj inRange h.distinct).mp (by rw [hm, hi, same]))
      simp [hn, place_modify_ne f other]

/-- What is done to the slot of another id is not seen. -/
theorem places_modify_of_notMem {slots : List Slot} (f : Slot → Slot) (h : t ∉ ts) :
    ts.map (place (slots.modify t f)) = ts.map (place slots) := by
  refine List.map_congr_left fun u hu => place_modify_ne f ?_
  rintro rfl
  exact h hu

theorem Fits.ticketOf_idxOf (h : Fits r c ts) (he : e ∈ r.entries) (hc : e.correlation = c) :
    r.ticketOf ts (ts.idxOf e.ticket) = e.ticket := by
  have mem := (h.own e he).mp hc
  simp [ticketOf, List.getD_eq_getElem?_getD, List.getElem?_idxOf mem]

/-- Something is put into the slot of an entry. -/
theorem Fits.places_fill (h : Fits r c ts) (he : e ∈ r.entries) (x : Content) :
    ts.map (place (fill r.slots e.ticket x)) =
      if e.correlation = c then fill (ts.map (place r.slots)) (renumber ts e).ticket x
      else ts.map (place r.slots) := by
  split
  · next hc =>
    have filled : ∀ f, ts.map (place (r.slots.modify e.ticket f)) =
        (ts.map (place r.slots)).modify (ts.idxOf e.ticket) f := by
      intro f
      have modified := h.places_modify (ts.idxOf e.ticket) f
      rwa [h.ticketOf_idxOf he hc] at modified
    exact filled _
  · next hc => exact places_modify_of_notMem _ fun mem => hc ((h.own e he).mpr mem)

/-! ## Entries -/

theorem lookup_share : Registry.entry? (r.share c ts) c = (r.entry? c).map (renumber ts) := by
  have same : ((fun e : Entry => decide (e.correlation = c)) ∘ renumber ts) =
      fun e => decide (e.correlation = c) := rfl
  simp only [ entry?, share, List.find?_map, same, List.find?_filter, and_self,
    Bool.decide_eq_true]

theorem isPending_share : (r.share c ts).isPending c = r.isPending c := by
  simp [isPending, lookup_share]

theorem without_share : (r.share c ts).without c = [] := by
  rw [without, List.filter_eq_nil_iff]
  simp only [share, List.mem_map, List.mem_filter]
  rintro _ ⟨e, ⟨_, hc⟩, rfl⟩
  have hc : e.correlation = c := by simpa using hc
  simp [renumber, hc]

/-- The entry of another id does not matter to a share. -/
theorem filter_without_ne {c' : String} (h : c' ≠ c) :
    ((r.without c').filter fun e => e.correlation = c) =
      r.entries.filter fun e => e.correlation = c := by
  rw [without, List.filter_filter]
  refine List.filter_congr fun e _ => ?_
  by_cases hc : e.correlation = c
  · simp [hc, h.symm]
  · simp [hc]

theorem filter_without_self : ((r.without c).filter fun e => e.correlation = c) = [] := by
  simp [without]

/-! ## Operations -/

theorem share_eq {x : Registry}
    (entries : (r.entries.filter fun e => e.correlation = c).map (renumber ts) = x.entries)
    (slots : ts.map (place r.slots) = x.slots) : r.share c ts = x.bare := by
  simp only [share, bare, entries, slots]

theorem Fits.share_resolve (h : Fits r c ts) {m : Message} (hm : m.correlation = c) :
    (r.resolve m).1.share c ts = ((r.share c ts).resolve m).1.bare ∧
      (r.resolve m).2 = ((r.share c ts).resolve m).2 := by
  subst hm
  cases he : r.entry? m.correlation with
  | none =>
    have hs : Registry.entry? (r.share m.correlation ts) m.correlation = none := by
      rw [lookup_share, he, Option.map_none]
    simp only [resolve, he, hs]
    exact ⟨rfl, trivial⟩
  | some e =>
    have hs : Registry.entry? (r.share m.correlation ts) m.correlation = some (renumber ts e) := by
      rw [lookup_share, he, Option.map_some]
    obtain ⟨mem, hc⟩ := mem_of_entry? he
    have abandoned : (r.share m.correlation ts).isAbandoned (renumber ts e).ticket =
        r.isAbandoned e.ticket := by
      rw [h.isAbandoned_share]
      exact congrArg r.isAbandoned (h.ticketOf_idxOf mem hc)
    have filled := h.places_fill mem (.reply m)
    rw [if_pos hc] at filled
    have channel : (renumber ts e).channel = e.channel := rfl
    simp only [resolve, he, hs, abandoned, channel, without_share]
    split
    · exact ⟨rfl, rfl⟩
    · split
      · exact ⟨share_eq (by simp only [filter_without_self, List.map_nil]) rfl, rfl⟩
      · exact ⟨share_eq (by simp only [filter_without_self, List.map_nil]) filled, rfl⟩

/-- What removes the entry of an id, and may put something into its slot, is not seen by the
others. -/
theorem Fits.share_without_ne (h : Fits r c ts) {c' : String} (he : r.entry? c' = some e)
    (hne : c' ≠ c) (x : Content) (counters : Counters) :
    share ⟨r.without c', fill r.slots e.ticket x, counters⟩ c ts = r.share c ts := by
  obtain ⟨mem, rfl⟩ := mem_of_entry? he
  have filled := h.places_fill mem x
  rw [if_neg hne] at filled
  simp only [share, filter_without_ne hne, filled]

theorem Fits.share_resolve_ne (h : Fits r c ts) {m : Message} (hne : m.correlation ≠ c) :
    (r.resolve m).1.share c ts = r.share c ts := by
  rcases resolve_cases r m with ⟨_, _, hr⟩ | ⟨e, he, ⟨_, _, hr⟩ | ⟨_, _, _, hr⟩ | ⟨_, _, _, hr⟩⟩
    <;> rw [hr]
  · rfl
  · rfl
  · simp only [share, filter_without_ne hne]
  · exact h.share_without_ne he hne _ _

theorem Fits.share_remove (h : Fits r c ts) (count : Counters → Counters) :
    (r.remove c count).1.share c ts = ((r.share c ts).remove c count).1.bare ∧
      (r.remove c count).2 = ((r.share c ts).remove c count).2 := by
  cases he : r.entry? c with
  | none =>
    have hs : Registry.entry? (r.share c ts) c = none := by rw [lookup_share, he, Option.map_none]
    rw [remove_of_none he, remove_of_none hs]
    exact ⟨rfl, rfl⟩
  | some e =>
    have hs : Registry.entry? (r.share c ts) c = some (renumber ts e) := by
      rw [lookup_share, he, Option.map_some]
    obtain ⟨mem, hc⟩ := mem_of_entry? he
    have filled := h.places_fill mem .closed
    rw [if_pos hc] at filled
    rw [remove_of_some he, remove_of_some hs, without_share]
    exact ⟨share_eq (by simp only [filter_without_self, List.map_nil]) filled, rfl⟩

theorem Fits.share_remove_ne (h : Fits r c ts) {c' : String} (hne : c' ≠ c)
    (count : Counters → Counters) : (r.remove c' count).1.share c ts = r.share c ts := by
  cases he : r.entry? c' with
  | none => rw [remove_of_none he]
  | some e =>
    rw [remove_of_some he]
    exact h.share_without_ne he hne _ _

/-- A call that is registered under an id is registered in its share, with a ticket of its own. -/
theorem Fits.share_register (h : Fits r c ts) (hp : r.isPending c = false) {k route : String}
    {d : Instant} :
    (r.register c k route d).1.share c (ts ++ [r.slots.length]) =
      ((r.share c ts).register c k route d).1.bare := by
  have hs : (r.share c ts).isPending c = false := by rw [isPending_share, hp]
  have fresh : r.slots.length ∉ ts := fun mem => Nat.lt_irrefl _ (h.issued _ mem)
  rw [register_of_not_isPending hp, register_of_not_isPending hs]
  refine share_eq ?_ ?_
  · have old : (r.entries.filter fun e => e.correlation = c).map
        (renumber (ts ++ [r.slots.length])) =
        (r.entries.filter fun e => e.correlation = c).map (renumber ts) := by
      refine List.map_congr_left fun e he => ?_
      obtain ⟨mem, hc⟩ := List.mem_filter.mp he
      rw [renumber, renumber, List.idxOf_append_of_mem ((h.own e mem).mp (by simpa using hc))]
    simp [share, old, renumber, List.idxOf_append_of_notMem fresh]
  · have old : ts.map (place (r.slots ++ [⟨true, .waiting⟩])) = ts.map (place r.slots) := by
      refine List.map_congr_left fun t ht => ?_
      rw [place, place, List.getElem?_append_left (h.issued t ht)]
    simp [share, old, place]

theorem Fits.share_register_ne (h : Fits r c ts) {c' k route : String} {d : Instant}
    (hne : c' ≠ c) : (r.register c' k route d).1.share c ts = r.share c ts := by
  have slots : ts.map (place (r.register c' k route d).1.slots) = ts.map (place r.slots) := by
    refine List.map_congr_left fun t ht => ?_
    rw [place, place, slot_register (h.issued t ht)]
  cases hp : r.isPending c' with
  | true => rw [register_of_isPending hp]
  | false =>
    rw [register_of_not_isPending hp] at slots ⊢
    simp [share, slots, hne]

theorem Fits.share_drop (h : Fits r c ts) (n : Nat) :
    (r.drop (r.ticketOf ts n)).share c ts = ((r.share c ts).drop n).bare :=
  share_eq rfl (h.places_modify n _)

theorem share_drop_of_notMem (ht : t ∉ ts) : (r.drop t).share c ts = r.share c ts := by
  simp only [share, drop, places_modify_of_notMem _ ht]

theorem Fits.share_take (h : Fits r c ts) (n : Nat) :
    (r.take (r.ticketOf ts n)).1.share c ts = ((r.share c ts).take n).1.bare ∧
      (r.take (r.ticketOf ts n)).2 = ((r.share c ts).take n).2 := by
  have content := h.content_share n
  by_cases full : ∃ m, r.content (r.ticketOf ts n) = .reply m
  · obtain ⟨m, hm⟩ := full
    rw [hm] at content
    rw [take_of_reply hm, take_of_reply content]
    exact ⟨share_eq rfl (h.places_modify n _), rfl⟩
  · have empty : ∀ m, r.content (r.ticketOf ts n) ≠ .reply m := fun m hm => full ⟨m, hm⟩
    rw [take_of_not_reply empty, take_of_not_reply fun m => content ▸ empty m, content]
    exact ⟨rfl, rfl⟩

theorem share_take_of_notMem (ht : t ∉ ts) : (r.take t).1.share c ts = r.share c ts := by
  by_cases full : ∃ m, r.content t = .reply m
  · obtain ⟨m, hm⟩ := full
    rw [take_of_reply hm]
    simp only [share, places_modify_of_notMem _ ht]
  · rw [take_of_not_reply fun m hm => full ⟨m, hm⟩]

theorem Fits.of_slots (h : Fits r c ts) {slots : List Slot}
    (length : slots.length = r.slots.length) : Fits { r with slots } c ts :=
  ⟨h.distinct, fun t ht => length ▸ h.issued t ht, h.own⟩

/-- Closing the slots of some entries closes, in the share of an id, those of its own. -/
theorem Fits.places_foldl_fill (h : Fits r c ts) (es : List Entry)
    (sub : ∀ e ∈ es, e ∈ r.entries) :
    ts.map (place (es.foldl (fun slots e => fill slots e.ticket .closed) r.slots)) =
      ((es.filter fun e => e.correlation = c).map (renumber ts)).foldl
        (fun slots e => fill slots e.ticket .closed) (ts.map (place r.slots)) := by
  induction es generalizing r with
  | nil => rfl
  | cons e rest ih =>
    have filled := h.places_fill (sub e (List.mem_cons_self ..)) .closed
    have next := ih (h.of_slots (length_fill r.slots e.ticket .closed))
      fun e he => sub e (List.mem_cons_of_mem _ he)
    rw [List.foldl_cons, next, filled]
    by_cases hc : e.correlation = c <;> simp [hc]

theorem Fits.isStale_share (h : Fits r c ts) (he : e ∈ r.entries) (hc : e.correlation = c)
    (now : Instant) (grace : Span) :
    (r.share c ts).isStale now grace (renumber ts e) = r.isStale now grace e := by
  have abandoned := h.isAbandoned_share (ts.idxOf e.ticket)
  rw [h.ticketOf_idxOf he hc] at abandoned
  simp only [isStale, renumber, abandoned]
  rfl

/-- The sweep takes from a share what it takes from the registry. -/
theorem Fits.filter_share (h : Fits r c ts) (p : Bool → Bool) (now : Instant) (grace : Span) :
    (r.share c ts).entries.filter (fun e => p ((r.share c ts).isStale now grace e)) =
      ((r.entries.filter fun e => p (r.isStale now grace e)).filter
        fun e => e.correlation = c).map (renumber ts) := by
  simp only [share, List.filter_map, List.filter_filter]
  refine congrArg _ (List.filter_congr fun e he => ?_)
  by_cases hc : e.correlation = c
  · have same := h.isStale_share he hc now grace
    simp only [share] at same
    simp [hc, same]
  · simp [hc]

theorem Fits.share_sweep (h : Fits r c ts) (now : Instant) (grace : Span) :
    (r.sweep now grace).1.share c ts = ((r.share c ts).sweep now grace).1.bare := by
  have kept := h.filter_share (fun stale => !stale) now grace
  have taken := h.filter_share (fun stale => stale) now grace
  have closed := h.places_foldl_fill (r.entries.filter (r.isStale now grace))
    fun e he => List.mem_of_mem_filter he
  rw [← taken] at closed
  exact share_eq kept.symm closed

end

end Registry

end PaymentRelay
