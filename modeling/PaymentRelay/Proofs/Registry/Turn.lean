import PaymentRelay.Proofs.Registry.Operation

/-
  What one operation can mean for one registration.

  In a sound registry an operation means one of seven things for the registration with a given
  ticket (`Turn`): nothing, or its reply is taken, or it is ended, in one of five ways. That is
  proved once, for every operation (`Sound.turn`), and everything that is said about single
  registrations follows from it, first of all that operations keep a registry sound
  (`sound_perform`).
-/

namespace PaymentRelay

namespace Registry

/-- What an operation means for the registration with a ticket, from the registry before it to
the registry after it. -/
inductive Turn (before after : Registry) (t : Nat) : Op → Answer → Prop
  /-- Nothing. -/
  | kept {o : Op} {a : Answer}
      (entries : ∀ e, e.ticket = t → (e ∈ after.entries ↔ e ∈ before.entries))
      (content : after.content t = before.content t) : Turn before after t o a
  /-- Its holder takes the reply. -/
  | taken {m : Message}
      (entries : ∀ e, e.ticket = t → (e ∈ after.entries ↔ e ∈ before.entries))
      (full : before.content t = .reply m) (content : after.content t = .closed) :
      Turn before after t (.take t) (.found (.reply m))
  /-- It is ended by a reply. -/
  | delivered {e : Entry} {m : Message} (mem : e ∈ before.entries) (ticket : e.ticket = t)
      (correlation : m.correlation = e.correlation) (channel : m.channel = e.channel)
      (gone : ¬ after.Live t) (content : after.content t = .reply m) :
      Turn before after t (.resolve m) (.resolution .delivered)
  /-- It is ended by a reply that nobody is there to take. -/
  | lost {e : Entry} {m : Message} (mem : e ∈ before.entries) (ticket : e.ticket = t)
      (correlation : m.correlation = e.correlation) (channel : m.channel = e.channel)
      (abandoned : before.isAbandoned t = true)
      (gone : ¬ after.Live t) (content : after.content t = before.content t) :
      Turn before after t (.resolve m) (.resolution .callerGone)
  /-- It is ended because it has waited too long. -/
  | expired {e : Entry} (mem : e ∈ before.entries) (ticket : e.ticket = t)
      (gone : ¬ after.Live t) (content : after.content t = .closed) :
      Turn before after t (.expire e.correlation) (.removed true)
  /-- It is ended because it was given up. -/
  | cancelled {e : Entry} (mem : e ∈ before.entries) (ticket : e.ticket = t)
      (gone : ¬ after.Live t) (content : after.content t = .closed) :
      Turn before after t (.cancel e.correlation) (.removed true)
  /-- It is ended by the sweep. -/
  | swept {e : Entry} {now : Instant} {grace : Span} {count : Nat} (mem : e ∈ before.entries)
      (ticket : e.ticket = t) (stale : before.isStale now grace e = true)
      (gone : ¬ after.Live t) (content : after.content t = .closed) :
      Turn before after t (.sweep now grace) (.swept count)

section
variable {r : Registry} {c k route : String} {d : Instant} {m : Message} {t : Nat}

theorem turn_register (ht : t < r.slots.length) {a : Answer} :
    Turn r (r.register c k route d).1 t (.register c k route d) a := by
  refine .kept ?_ (content_congr (slot_register ht))
  intro e he
  cases hp : r.isPending c with
  | true => rw [register_of_isPending hp]
  | false =>
    rw [register_of_not_isPending hp]
    simp only [List.mem_append, List.mem_singleton, or_iff_left_iff_imp]
    intro hnew
    rw [hnew] at he
    simp only at he
    omega

/-- A registration has ended once its slot is not empty. -/
theorem Sound.not_live_of_content (h : r.Sound) (hc : r.content t ≠ .waiting) : ¬ r.Live t := by
  rintro ⟨x, hx, rfl⟩
  exact hc (h.waiting x hx)

/-- Once the entry of a correlation id has been removed, its registration has ended. -/
theorem Sound.not_live_without (h : r.Sound) {e : Entry} (he : r.entry? c = some e)
    {slots : List Slot} {counters : Counters} :
    ¬ Live { entries := r.without c, slots, counters } e.ticket := by
  rintro ⟨x, hx, hxt⟩
  exact ((h.mem_without_iff he).mp hx).2 hxt

/-- And the other registrations are where they were. -/
theorem Sound.mem_without_ne (h : r.Sound) {e : Entry} (he : r.entry? c = some e)
    (ht : e.ticket ≠ t) (x : Entry) (hx : x.ticket = t) : x ∈ r.without c ↔ x ∈ r.entries := by
  rw [h.mem_without_iff he, and_iff_left_iff_imp]
  intro _ hxe
  exact ht (hxe.symm.trans hx)

theorem Sound.turn_resolve (h : r.Sound) (ht : t < r.slots.length) :
    Turn r (r.resolve m).1 t (.resolve m) (.resolution (r.resolve m).2) := by
  rcases resolve_cases r m with ⟨_, hans, hr⟩ | ⟨e, he, ⟨_, hans, hr⟩ | ⟨hc, ha, hans, hr⟩ |
    ⟨hc, _, hans, hr⟩⟩ <;> rw [hans, hr]
  · exact .kept (fun _ _ => Iff.rfl) rfl
  · exact .kept (fun _ _ => Iff.rfl) rfl
  · obtain ⟨hm, hid⟩ := mem_of_entry? he
    by_cases hte : e.ticket = t
    · subst hte
      exact .lost hm rfl hid.symm hc.symm ha (h.not_live_without he) rfl
    · exact .kept (h.mem_without_ne he hte) rfl
  · obtain ⟨hm, hid⟩ := mem_of_entry? he
    by_cases hte : e.ticket = t
    · subst hte
      exact .delivered hm rfl hid.symm hc.symm (h.not_live_without he)
        (content_fill_self rfl ht (h.waiting e hm))
    · exact .kept (h.mem_without_ne he hte) (content_fill_ne rfl (Ne.symm hte))

/-- Removing the entry of a correlation id ends its registration, and no other. -/
theorem Sound.remove_cases (h : r.Sound) (ht : t < r.slots.length) (c : String)
    (count : Counters → Counters) :
    (∃ e ∈ r.entries, e.ticket = t ∧ e.correlation = c ∧ (r.remove c count).2 = true ∧
      ¬ (r.remove c count).1.Live t ∧ (r.remove c count).1.content t = .closed) ∨
    (∀ e, e.ticket = t → (e ∈ (r.remove c count).1.entries ↔ e ∈ r.entries)) ∧
      (r.remove c count).1.content t = r.content t := by
  cases he : r.entry? c with
  | none =>
    rw [remove_of_none he]
    exact .inr ⟨fun _ _ => Iff.rfl, rfl⟩
  | some e =>
    obtain ⟨hm, hid⟩ := mem_of_entry? he
    rw [remove_of_some he]
    by_cases hte : e.ticket = t
    · subst hte
      exact .inl ⟨e, hm, rfl, hid, rfl, h.not_live_without he,
        content_fill_self rfl ht (h.waiting e hm)⟩
    · exact .inr ⟨h.mem_without_ne he hte, content_fill_ne rfl (Ne.symm hte)⟩

theorem Sound.turn_sweep (h : r.Sound) (now : Instant) (grace : Span) {n : Nat} :
    Turn r (r.sweep now grace).1 t (.sweep now grace) (.swept n) := by
  -- The sweep closes the slots of the stale entries, and no other.
  have slot := getElem?_foldl_fill (r.entries.filter (r.isStale now grace)) r.slots t
  by_cases stale : ∃ e ∈ r.entries.filter (r.isStale now grace), e.ticket = t
  · rw [if_pos stale] at slot
    obtain ⟨e, he, rfl⟩ := stale
    obtain ⟨hm, hs⟩ := List.mem_filter.mp he
    refine .swept hm rfl hs ?_ ?_
    · rintro ⟨x, hx, hxt⟩
      obtain ⟨hxm, hxs⟩ := List.mem_filter.mp hx
      rw [h.eq_of_mem hxm hm (.inr hxt)] at hxs
      simp [hs] at hxs
    · have closed : (r.sweep now grace).1.content e.ticket =
          Registry.content { r with slots := fill r.slots e.ticket .closed } e.ticket :=
        content_congr slot
      rw [closed]
      exact content_fill_self rfl (h.issued e hm) (h.waiting e hm)
  · rw [if_neg stale] at slot
    refine .kept ?_ (content_congr slot)
    intro e he
    have fresh : e ∈ r.entries → r.isStale now grace e = false := by
      intro hm
      cases hs : r.isStale now grace e with
      | false => rfl
      | true => exact absurd ⟨e, List.mem_filter.mpr ⟨hm, hs⟩, he⟩ stale
    simp only [sweep, List.mem_filter, and_iff_left_iff_imp]
    intro hm
    simp [fresh hm]

theorem turn_take (u : Nat) (ht : t < r.slots.length) :
    Turn r (r.take u).1 t (.take u) (.found (r.take u).2) := by
  by_cases full : ∃ m, r.content u = .reply m
  · obtain ⟨m, hm⟩ := full
    rw [take_of_reply hm]
    by_cases hu : u = t
    · subst hu
      refine .taken (fun _ _ => Iff.rfl) hm ?_
      simp [content, slot?, List.getElem?_eq_getElem ht]
    · refine .kept (fun _ _ => Iff.rfl) (content_congr ?_)
      exact List.getElem?_modify_ne _ _ hu
  · rw [take_of_not_reply fun m hm => full ⟨m, hm⟩]
    exact .kept (fun _ _ => Iff.rfl) rfl

theorem content_drop (u : Nat) : (r.drop u).content t = r.content t := by
  by_cases hu : u = t
  · subst hu
    cases hslot : r.slots[u]? <;> simp [content, slot?, drop, hslot]
  · exact content_congr (List.getElem?_modify_ne _ _ hu)

/-- Every operation means one of the seven things for every registration. -/
theorem Sound.turn (h : r.Sound) (ht : t < r.slots.length) (o : Op) :
    Turn r (r.perform o).1 t o (r.perform o).2 := by
  cases o with
  | register c k route d => exact turn_register ht
  | resolve m => exact h.turn_resolve ht
  | expire c =>
    rcases h.remove_cases ht c (fun n => { n with timeouts := n.timeouts + 1 }) with
      ⟨e, hm, hte, rfl, hans, gone, closed⟩ | ⟨entries, content⟩
    · have hans' : (r.perform (.expire e.correlation)).2 = .removed true :=
        congrArg Answer.removed hans
      rw [hans']
      exact .expired hm hte gone closed
    · exact .kept entries content
  | cancel c =>
    rcases h.remove_cases ht c (fun n => { n with cancelled := n.cancelled + 1 }) with
      ⟨e, hm, hte, rfl, hans, gone, closed⟩ | ⟨entries, content⟩
    · have hans' : (r.perform (.cancel e.correlation)).2 = .removed true :=
        congrArg Answer.removed hans
      rw [hans']
      exact .cancelled hm hte gone closed
    · exact .kept entries content
  | sweep now grace => exact h.turn_sweep now grace
  | take u => exact turn_take u ht
  | drop u => exact .kept (fun _ _ => Iff.rfl) (content_drop u)

/-- For a registration that has ended an operation means nothing, or its reply is taken. -/
theorem Turn.of_not_live {r' : Registry} {o : Op} {a : Answer} (turn : Turn r r' t o a)
    (gone : ¬ r.Live t) :
    (∀ e, e.ticket = t → (e ∈ r'.entries ↔ e ∈ r.entries)) ∧
      (r'.content t = r.content t ∨
        ∃ m, o = .take t ∧ a = .found (.reply m) ∧ r.content t = .reply m ∧
          r'.content t = .closed) := by
  cases turn with
  | kept entries content => exact ⟨entries, .inl content⟩
  | taken entries full content => exact ⟨entries, .inr ⟨_, rfl, rfl, full, content⟩⟩
  -- Whatever ends a registration finds its entry.
  | delivered mem ticket => exact absurd ⟨_, mem, ticket⟩ gone
  | lost mem ticket => exact absurd ⟨_, mem, ticket⟩ gone
  | expired mem ticket => exact absurd ⟨_, mem, ticket⟩ gone
  | cancelled mem ticket => exact absurd ⟨_, mem, ticket⟩ gone
  | swept mem ticket => exact absurd ⟨_, mem, ticket⟩ gone

/-- For a registration that is still there an operation meant nothing, unless a reply was taken. -/
theorem Turn.of_live {r' : Registry} {o : Op} {a : Answer} (turn : Turn r r' t o a)
    (live : r'.Live t) :
    (∀ e, e.ticket = t → (e ∈ r'.entries ↔ e ∈ r.entries)) ∧
      (r'.content t = r.content t ∨ ∃ m, r.content t = .reply m) := by
  cases turn with
  | kept entries content => exact ⟨entries, .inl content⟩
  | taken entries full _ => exact ⟨entries, .inr ⟨_, full⟩⟩
  | delivered _ _ _ _ gone _ => exact absurd live gone
  | lost _ _ _ _ _ gone _ => exact absurd live gone
  | expired _ _ gone _ => exact absurd live gone
  | cancelled _ _ gone _ => exact absurd live gone
  | swept _ _ _ gone _ => exact absurd live gone

/-- A registration that has ended is not there again. -/
theorem Sound.not_live_perform (h : r.Sound) (ht : t < r.slots.length) (gone : ¬ r.Live t)
    (o : Op) : ¬ (r.perform o).1.Live t := by
  rintro ⟨x, hx, hxt⟩
  obtain ⟨entries, _⟩ := (h.turn ht o).of_not_live gone
  exact gone ⟨x, (entries x hxt).mp hx, hxt⟩

/-! ## Soundness -/

/-- Only a registration that is not refused adds anything: other operations keep the slots and may
remove entries. -/
theorem perform_shrinks (r : Registry) (o : Op) :
    (∃ c k route d, o = .register c k route d ∧ r.isPending c = false) ∨
    (r.perform o).1.entries.Sublist r.entries ∧
      (r.perform o).1.slots.length = r.slots.length := by
  cases o with
  | register c k route d =>
    cases hp : r.isPending c with
    | false => exact .inl ⟨c, k, route, d, rfl, hp⟩
    | true =>
      right
      simp only [perform, register_of_isPending hp]
      exact ⟨.refl _, trivial⟩
  | resolve m =>
    right
    simp only [perform]
    rcases resolve_cases r m with ⟨_, _, hr⟩ | ⟨_, _, ⟨_, _, hr⟩ | ⟨_, _, _, hr⟩ | ⟨_, _, _, hr⟩⟩
      <;> rw [hr]
    · exact ⟨.refl _, rfl⟩
    · exact ⟨.refl _, rfl⟩
    · exact ⟨List.filter_sublist, rfl⟩
    · exact ⟨List.filter_sublist, length_fill ..⟩
  | expire c | cancel c =>
    right
    simp only [perform, expire, cancel]
    cases hc : r.entry? c with
    | none =>
      rw [remove_of_none hc]
      exact ⟨.refl _, rfl⟩
    | some e =>
      rw [remove_of_some hc]
      exact ⟨List.filter_sublist, length_fill ..⟩
  | sweep now grace =>
    right
    refine ⟨List.filter_sublist, ?_⟩
    have length_foldl : ∀ (es : List Entry) (slots : List Slot),
        (es.foldl (fun slots e => fill slots e.ticket .closed) slots).length = slots.length := by
      intro es
      induction es with
      | nil => exact fun _ => rfl
      | cons e rest ih => exact fun slots => (ih _).trans (length_fill ..)
    exact length_foldl _ _
  | take u =>
    right
    simp only [perform, take]
    split
    · exact ⟨.refl _, List.length_modify ..⟩
    · exact ⟨.refl _, rfl⟩
  | drop u => exact .inr ⟨.refl _, List.length_modify ..⟩

theorem length_perform (r : Registry) (o : Op) :
    r.slots.length ≤ (r.perform o).1.slots.length := by
  rcases perform_shrinks r o with ⟨c, k, route, d, rfl, hp⟩ | ⟨_, hlen⟩
  · simp only [perform, register_of_not_isPending hp, List.length_append]
    omega
  · exact Nat.le_of_eq hlen.symm

/-- The holder of a ticket goes by its own operation alone. -/
theorem isAbandoned_perform (ht : t < r.slots.length) {o : Op} (ho : o ≠ .drop t) :
    (r.perform o).1.isAbandoned t = r.isAbandoned t := by
  cases o with
  | register c k route d => exact isAbandoned_congr (slot_register ht)
  | resolve m =>
    simp only [perform]
    rcases resolve_cases r m with ⟨_, _, hr⟩ | ⟨_, _, ⟨_, _, hr⟩ | ⟨_, _, _, hr⟩ | ⟨_, _, _, hr⟩⟩
      <;> rw [hr]
    · rfl
    · rfl
    · rfl
    · exact isAbandoned_fill rfl
  | expire c | cancel c =>
    simp only [perform, expire, cancel]
    cases hc : r.entry? c with
    | none => rw [remove_of_none hc]
    | some e =>
      rw [remove_of_some hc]
      exact isAbandoned_fill rfl
  | sweep now grace =>
    have slot := getElem?_foldl_fill (r.entries.filter (r.isStale now grace)) r.slots t
    split at slot
    · have closed : (r.sweep now grace).1.isAbandoned t =
          Registry.isAbandoned { r with slots := fill r.slots t .closed } t :=
        isAbandoned_congr slot
      exact closed.trans (isAbandoned_fill rfl)
    · exact isAbandoned_congr slot
  | take u =>
    simp only [perform, take]
    split
    · by_cases hu : u = t
      · subst hu
        simp [isAbandoned, slot?, List.getElem?_eq_getElem ht]
      · exact isAbandoned_congr (List.getElem?_modify_ne _ _ hu)
    · rfl
  | drop u =>
    have hu : u ≠ t := fun hu => ho (by rw [hu])
    exact isAbandoned_congr (List.getElem?_modify_ne _ _ hu)

theorem isAbandoned_drop (ht : t < r.slots.length) : (r.drop t).isAbandoned t = true := by
  simp [isAbandoned, slot?, drop, List.getElem?_eq_getElem ht]

theorem sound_register (h : r.Sound) (hp : r.isPending c = false) :
    (r.register c k route d).1.Sound := by
  rw [register_of_not_isPending hp]
  -- The new entry has a correlation id that nobody has, and a ticket beyond all others.
  have fresh : ∀ e ∈ r.entries, e.correlation ≠ c := by
    intro e he hc
    rw [isPending_iff.mpr ⟨e, he, hc⟩] at hp
    cases hp
  have old : ∀ u, u < r.slots.length → (r.slots ++ [⟨true, .waiting⟩])[u]? = r.slots[u]? :=
    fun u hu => List.getElem?_append_left hu
  refine ⟨?_, ?_, ?_, ?_⟩
  · refine List.pairwise_append.mpr ⟨h.distinct, List.pairwise_singleton .., ?_⟩
    intro a ha b hb
    rw [List.mem_singleton] at hb
    subst hb
    exact ⟨fresh a ha, Nat.ne_of_lt (h.issued a ha)⟩
  · intro e he
    simp only [List.mem_append, List.mem_singleton, List.length_append, List.length_singleton]
      at he ⊢
    rcases he with he | rfl
    · have := h.issued e he
      omega
    · simp
  · intro e he
    rcases List.mem_append.mp he with he | he
    · exact (content_congr (old _ (h.issued e he))).trans (h.waiting e he)
    · rw [List.mem_singleton] at he
      subst he
      simp [content, slot?]
  · intro u hu ha hw
    by_cases hul : u < r.slots.length
    · have ha' := (isAbandoned_congr (old u hul)).symm.trans ha
      have hw' := (content_congr (old u hul)).symm.trans hw
      obtain ⟨e, he, hte⟩ := h.live u hul ha' hw'
      exact ⟨e, List.mem_append_left _ he, hte⟩
    · simp only [List.length_append, List.length_singleton] at hu
      refine ⟨_, List.mem_append_right _ (List.mem_singleton_self _), ?_⟩
      show r.slots.length = u
      omega

theorem sound_perform (h : r.Sound) (o : Op) : (r.perform o).1.Sound := by
  rcases perform_shrinks r o with ⟨c, k, route, d, rfl, hp⟩ | ⟨sub, hlen⟩
  · exact sound_register h hp
  · refine ⟨h.distinct.sublist sub, ?_, ?_, ?_⟩
    · intro e he
      rw [hlen]
      exact h.issued e (sub.subset he)
    · intro e he
      have hw := h.waiting e (sub.subset he)
      -- An entry that is still there was not ended, and nothing can be taken from its slot.
      obtain ⟨_, content | ⟨m, full⟩⟩ :=
        (h.turn (h.issued e (sub.subset he)) o).of_live ⟨e, he, rfl⟩
      · rw [content, hw]
      · rw [hw] at full
        cases full
    · intro u hu ha hw
      rw [hlen] at hu
      by_cases ho : o = .drop u
      · subst ho
        rw [show (r.perform (.drop u)).1 = r.drop u from rfl, isAbandoned_drop hu] at ha
        cases ha
      · have ha' : r.isAbandoned u = false := (isAbandoned_perform hu ho).symm.trans ha
        have turn := h.turn hu o
        generalize (r.perform o).2 = answer at turn
        cases turn with
        | kept entries content =>
          obtain ⟨e, he, hte⟩ := h.live u hu ha' (content.symm.trans hw)
          exact ⟨e, (entries e hte).mpr he, hte⟩
        | taken _ _ content => rw [content] at hw; cases hw
        | delivered _ _ _ _ _ content => rw [content] at hw; cases hw
        | lost _ _ _ _ abandoned _ _ => rw [ha'] at abandoned; cases abandoned
        | expired _ _ _ content => rw [content] at hw; cases hw
        | cancelled _ _ _ content => rw [content] at hw; cases hw
        | swept _ _ _ _ content => rw [content] at hw; cases hw

end

end Registry

end PaymentRelay
