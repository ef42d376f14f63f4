import PaymentRelay.Proofs.Registry.Conservation
import PaymentRelay.Proofs.Registry.Share

/-
  Calls under different correlation ids do not see each other.

  A desk is a registry together with the tickets that it gave to each id, so that a request can name
  a receiver by its id and a number. A request on an id does to the share of the id what it asks
  for, and answers what it answers there (`Filed.own_serve`); the shares of the other ids stay as
  they are (`Filed.other_serve`). From this follow both forms of independence: two runs that agree
  on the share of an id go on to agree, so that requests on other ids can be struck from a run
  (`Machine.filter_transcript`), and requests on two ids can be exchanged.

  The sweep takes from every share. How many entries it takes is the only answer that depends on
  more than one id.
-/

namespace PaymentRelay

namespace Registry

/-- A request on the registry. A receiver is named by its correlation id and by how many calls were
registered under that id before. -/
inductive Request where
  | register (correlation channel route : String) (deadline : Instant)
  | resolve (m : Message)
  | expire (correlation : String)
  | cancel (correlation : String)
  | sweep (now : Instant) (grace : Span)
  | take (correlation : String) (receiver : Nat)
  | drop (correlation : String) (receiver : Nat)

namespace Request

/-- The correlation id that a request is on; the sweep is on none. -/
def key : Request → Option String
  | .register c .. | .expire c | .cancel c | .take c _ | .drop c _ => some c
  | .resolve m => some m.correlation
  | .sweep .. => none

/-- A request is on a correlation id, or it is the sweep. -/
def concerns (c : String) (q : Request) : Bool := q.key = none || q.key = some c

/-- What a request asks for where there is no other id. -/
def own : Request → Op
  | .register c k route d => .register c k route d
  | .resolve m => .resolve m
  | .expire c => .expire c
  | .cancel c => .cancel c
  | .sweep now grace => .sweep now grace
  | .take _ n => .take n
  | .drop _ n => .drop n

end Request

/-- A registry, and the tickets that it gave to calls, each with the correlation id. -/
structure Desk where
  registry : Registry
  issued : List (String × Nat)

namespace Desk

def empty : Desk := ⟨.empty, []⟩

/-- The tickets of a correlation id. -/
def tickets (d : Desk) (c : String) : List Nat := (d.issued.filter fun x => x.1 = c).map (·.2)

/-- What a request asks of the registry. -/
def op (d : Desk) : Request → Op
  | .take c n => .take (d.registry.ticketOf (d.tickets c) n)
  | .drop c n => .drop (d.registry.ticketOf (d.tickets c) n)
  | q => q.own

/-- The desk as a machine. To a call that is registered it tells the number of its receiver. -/
def serve : Machine Desk Request Answer := fun d q =>
  match q, d.registry.perform (d.op q) with
  | .register c .., (r, .ticket (some t)) =>
    (⟨r, d.issued ++ [(c, t)]⟩, .ticket (some (d.tickets c).length))
  | _, (r, answer) => (⟨r, d.issued⟩, answer)

/-- What one correlation id has at the desk. -/
def share (d : Desk) (c : String) : Registry := d.registry.share c (d.tickets c)

/-- What one correlation id sees of a request: the answer, unless it is that of the sweep, and
whether the id is pending then. -/
def watch (c : String) : Machine Desk Request (Option Answer × Bool) := fun d q =>
  let (d', answer) := d.serve q
  (d', if q.key = none then none else some answer, d'.registry.isPending c)

/-- Nobody can tell two desks apart: every id has the same share, and the counters are the same. -/
structure Alike (d d' : Desk) : Prop where
  shares : ∀ c, d.share c = d'.share c
  counters : d.registry.counters = d'.registry.counters

/-- Every ticket was given once, and entries have theirs from the desk. -/
structure Filed (d : Desk) : Prop where
  distinct : (d.issued.map (·.2)).Nodup
  known : ∀ t, t ∈ d.issued.map (·.2) ↔ t < d.registry.slots.length
  listed : ∀ e ∈ d.registry.entries, (e.correlation, e.ticket) ∈ d.issued

theorem filed_empty : Filed empty :=
  ⟨.nil, by simp [empty, Registry.empty], by simp [empty, Registry.empty]⟩

section
variable {d d' : Desk} {q : Request} {c : String}

theorem mem_tickets {t : Nat} : t ∈ d.tickets c ↔ (c, t) ∈ d.issued := by
  simp [tickets]

theorem Filed.fits (h : d.Filed) (c : String) : d.registry.Fits c (d.tickets c) := by
  refine ⟨h.distinct.sublist (List.filter_sublist.map _), ?_, ?_⟩
  · intro t ht
    exact (h.known t).mp (List.mem_map_of_mem (mem_tickets.mp ht))
  · intro e he
    have listed := h.listed e he
    rw [mem_tickets]
    constructor
    · rintro rfl
      exact listed
    · intro given
      exact congrArg Prod.fst (List.inj_on_of_nodup_map h.distinct listed given rfl)

/-- The ticket of a receiver is none of another id. -/
theorem Filed.ticketOf_notMem (h : d.Filed) {c' : String} (hne : c' ≠ c) (n : Nat) :
    d.registry.ticketOf (d.tickets c') n ∉ d.tickets c := by
  intro mem
  simp only [ticketOf, List.getD_eq_getElem?_getD] at mem
  cases hn : (d.tickets c')[n]? with
  | none =>
    rw [hn] at mem
    exact Nat.lt_irrefl _ ((h.fits c).issued _ mem)
  | some t =>
    rw [hn] at mem
    have given := mem_tickets.mp (List.mem_of_getElem? hn)
    have same := List.inj_on_of_nodup_map h.distinct given (mem_tickets.mp mem) rfl
    exact hne (congrArg Prod.fst same)

/-! ## One request -/

/-- A call is registered and given the next ticket, or the desk does what the registry does, which
then gives no ticket. -/
theorem serve_cases (d : Desk) (q : Request) :
    (∃ c k route dl, q = .register c k route dl ∧ d.registry.isPending c = false ∧
      d.serve q = (⟨(d.registry.register c k route dl).1,
        d.issued ++ [(c, d.registry.slots.length)]⟩, .ticket (some (d.tickets c).length))) ∨
    ((d.registry.perform (d.op q)).1.entries.Sublist d.registry.entries ∧
      (d.registry.perform (d.op q)).1.slots.length = d.registry.slots.length ∧
      d.serve q = (⟨(d.registry.perform (d.op q)).1, d.issued⟩,
        (d.registry.perform (d.op q)).2)) := by
  rcases perform_shrinks d.registry (d.op q) with ⟨c, k, route, dl, hop, hp⟩ | ⟨sub, length⟩
  · cases q with
    | register c' k' route' dl' =>
      obtain ⟨rfl, rfl, rfl, rfl⟩ : c' = c ∧ k' = k ∧ route' = route ∧ dl' = dl := by
        simpa [op, Request.own] using hop
      refine .inl ⟨_, _, _, _, rfl, hp, ?_⟩
      simp only [serve, op, Request.own, perform, register_of_not_isPending hp]
    | _ => simp [op, Request.own] at hop
  · refine .inr ⟨sub, length, ?_⟩
    cases q with
    | register c k route dl =>
      cases hp : d.registry.isPending c with
      | true => simp only [serve, op, Request.own, perform, register_of_isPending hp]
      | false =>
        simp [op, Request.own, perform, register_of_not_isPending hp] at length
    | _ => rfl

theorem registry_serve (d : Desk) (q : Request) :
    (d.serve q).1.registry = (d.registry.perform (d.op q)).1 := by
  rcases serve_cases d q with ⟨c, k, route, dl, rfl, hp, hs⟩ | ⟨_, _, hs⟩
  · rw [hs]
    rfl
  · rw [hs]

theorem filed_serve (h : d.Filed) (q : Request) : (d.serve q).1.Filed := by
  rcases serve_cases d q with ⟨c, k, route, dl, rfl, hp, hs⟩ | ⟨sub, length, hs⟩ <;> rw [hs]
  · rw [register_of_not_isPending hp]
    refine ⟨?_, ?_, ?_⟩
    · -- The next ticket is beyond all that were given.
      simp only [List.map_append, List.map_cons, List.map_nil]
      refine List.nodup_append.mpr ⟨h.distinct, List.nodup_singleton _, ?_⟩
      intro t ht u hu
      rw [List.mem_singleton] at hu
      have := (h.known t).mp ht
      omega
    · intro t
      simp only [List.map_append, List.map_cons, List.map_nil, List.mem_append, h.known,
        List.mem_singleton, List.length_append, List.length_singleton]
      omega
    · intro e he
      rcases List.mem_append.mp he with he | he
      · exact List.mem_append_left _ (h.listed e he)
      · simp [List.mem_singleton.mp he]
  · exact ⟨h.distinct, fun t => length ▸ h.known t, fun e he => h.listed e (sub.subset he)⟩

/-- A request on an id does to its share what it asks for, and answers what it answers there. -/
theorem Filed.own_serve (h : d.Filed) (hq : q.key = some c) :
    (d.serve q).1.share c = ((d.share c).perform q.own).1.bare ∧
      (d.serve q).2 = ((d.share c).perform q.own).2 := by
  have fits := h.fits c
  have waits : (d.share c).isPending c = d.registry.isPending c := isPending_share
  rcases serve_cases d q with ⟨c', k, route, dl, rfl, hp, hs⟩ | ⟨_, length, hs⟩
  · obtain rfl : c' = c := by simpa [Request.key] using hq
    rw [hs]
    have tickets : tickets ⟨(d.registry.register c' k route dl).1,
        d.issued ++ [(c', d.registry.slots.length)]⟩ c' =
        d.tickets c' ++ [d.registry.slots.length] := by
      simp [Desk.tickets]
    have length : (d.share c').slots.length = (d.tickets c').length := List.length_map ..
    rw [share, tickets, fits.share_register hp]
    refine ⟨rfl, ?_⟩
    simp only [Request.own, perform, register_of_not_isPending (waits.trans hp), length]
  · rw [hs]
    cases q with
    | register c' k route dl =>
      obtain rfl : c' = c := by simpa [Request.key] using hq
      cases hp : d.registry.isPending c' with
      | true =>
        simp only [op, Request.own, perform, register_of_isPending hp,
          register_of_isPending (waits.trans hp)]
        exact ⟨rfl, trivial⟩
      | false => simp [op, Request.own, perform, register_of_not_isPending hp] at length
    | resolve m =>
      obtain ⟨share, answer⟩ := fits.share_resolve (m := m) (by simpa [Request.key] using hq)
      exact ⟨share, congrArg Answer.resolution answer⟩
    | expire c' =>
      obtain rfl : c' = c := by simpa [Request.key] using hq
      obtain ⟨share, answer⟩ := fits.share_remove fun n => { n with timeouts := n.timeouts + 1 }
      exact ⟨share, congrArg Answer.removed answer⟩
    | cancel c' =>
      obtain rfl : c' = c := by simpa [Request.key] using hq
      obtain ⟨share, answer⟩ := fits.share_remove fun n => { n with cancelled := n.cancelled + 1 }
      exact ⟨share, congrArg Answer.removed answer⟩
    | sweep now grace => simp [Request.key] at hq
    | take c' n =>
      obtain rfl : c' = c := by simpa [Request.key] using hq
      obtain ⟨share, answer⟩ := fits.share_take n
      exact ⟨share, congrArg Answer.found answer⟩
    | drop c' n =>
      obtain rfl : c' = c := by simpa [Request.key] using hq
      exact ⟨fits.share_drop n, rfl⟩

/-- It does nothing to the share of another id. -/
theorem Filed.other_serve (h : d.Filed) {c' : String} (hq : q.key = some c') (hne : c' ≠ c) :
    (d.serve q).1.share c = d.share c := by
  have fits := h.fits c
  rcases serve_cases d q with ⟨c'', k, route, dl, rfl, hp, hs⟩ | ⟨_, _, hs⟩
  · obtain rfl : c'' = c' := by simpa [Request.key] using hq
    rw [hs]
    have tickets : tickets ⟨(d.registry.register c'' k route dl).1,
        d.issued ++ [(c'', d.registry.slots.length)]⟩ c = d.tickets c := by
      simp [Desk.tickets, hne]
    rw [share, tickets]
    exact fits.share_register_ne hne
  · rw [hs]
    cases q with
    | register c'' k route dl =>
      obtain rfl : c'' = c' := by simpa [Request.key] using hq
      exact fits.share_register_ne hne
    | resolve m =>
      obtain rfl : m.correlation = c' := by simpa [Request.key] using hq
      exact fits.share_resolve_ne hne
    | expire c'' =>
      obtain rfl : c'' = c' := by simpa [Request.key] using hq
      exact fits.share_remove_ne hne fun n => { n with timeouts := n.timeouts + 1 }
    | cancel c'' =>
      obtain rfl : c'' = c' := by simpa [Request.key] using hq
      exact fits.share_remove_ne hne fun n => { n with cancelled := n.cancelled + 1 }
    | sweep now grace => simp [Request.key] at hq
    | take c'' n =>
      obtain rfl : c'' = c' := by simpa [Request.key] using hq
      exact share_take_of_notMem (h.ticketOf_notMem hne n)
    | drop c'' n =>
      obtain rfl : c'' = c' := by simpa [Request.key] using hq
      exact share_drop_of_notMem (h.ticketOf_notMem hne n)

/-- The sweep is the sweep of every share. -/
theorem Filed.sweep_serve (h : d.Filed) (now : Instant) (grace : Span) (c : String) :
    (d.serve (.sweep now grace)).1.share c = ((d.share c).sweep now grace).1.bare :=
  (h.fits c).share_sweep now grace

theorem isPending_eq (d : Desk) (c : String) : d.registry.isPending c = (d.share c).isPending c :=
  isPending_share.symm

/-! ## Two desks -/

/-- Desks with the same share for an id have it after the same request, and where the request is on
the id the answer is the same. -/
theorem serve_share_congr (h : d.Filed) (h' : d'.Filed) (same : d.share c = d'.share c)
    (q : Request) :
    (d.serve q).1.share c = (d'.serve q).1.share c ∧
      (q.key = some c → (d.serve q).2 = (d'.serve q).2) := by
  cases hq : q.key with
  | none =>
    cases q with
    | sweep now grace => simp [h.sweep_serve, h'.sweep_serve, same]
    | _ => simp [Request.key] at hq
  | some c' =>
    by_cases hc : c' = c
    · subst hc
      obtain ⟨share, answer⟩ := h.own_serve hq
      obtain ⟨share', answer'⟩ := h'.own_serve hq
      rw [share, share', answer, answer', same]
      exact ⟨rfl, fun _ => rfl⟩
    · rw [h.other_serve hq hc, h'.other_serve hq hc]
      exact ⟨same, fun other => absurd (Option.some.inj other) hc⟩

/-- What an id sees of a run is what it sees of the run without the requests on other ids. -/
theorem filter_transcript_watch (h : d.Filed) (h' : d'.Filed) (same : d.share c = d'.share c)
    (qs : List Request) :
    (((watch c).transcript d qs).filter fun x => x.1.concerns c) =
      (watch c).transcript d' (qs.filter (Request.concerns c)) := by
  refine (watch c).filter_transcript
    (R := fun d d' => d.Filed ∧ d'.Filed ∧ d.share c = d'.share c) ?_ ?_ ⟨h, h', same⟩ qs
  · rintro d d' q ⟨h, h', same⟩ hq
    refine ⟨filed_serve h q, h', ?_⟩
    cases hk : q.key with
    | none => simp [Request.concerns, hk] at hq
    | some c' =>
      have hne : c' ≠ c := by
        rintro rfl
        simp [Request.concerns, hk] at hq
      exact (h.other_serve hk hne).trans same
  · rintro d d' q ⟨h, h', same⟩ hq
    obtain ⟨next, answer⟩ := serve_share_congr h h' same q
    refine ⟨⟨filed_serve h q, filed_serve h' q, next⟩, ?_⟩
    have pending : (d.serve q).1.registry.isPending c = (d'.serve q).1.registry.isPending c := by
      rw [isPending_eq, isPending_eq, next]
    simp only [watch, pending]
    split
    · rfl
    · next hk =>
      have on : q.key = some c := by simpa [Request.concerns, hk] using hq
      rw [answer on]

/-- What a request adds to the counters depends on the request and the answer. -/
theorem counters_serve (hq : q.key = some c) :
    (d.serve q).1.registry.counters = d.registry.counters + toll q.own (d.serve q).2 := by
  rcases serve_cases d q with ⟨c', k, route, dl, rfl, hp, hs⟩ | ⟨_, _, hs⟩
  · rw [hs, register_of_not_isPending hp]
    simp only [Request.own, toll, Counters.add_def, Nat.add_zero]
  · have counters : (d.registry.perform (d.op q)).1.counters =
        d.registry.counters + toll (d.op q) (d.registry.perform (d.op q)).2 := by
      refine counters_perform fun now grace hop => ?_
      cases q <;> simp [op, Request.own, Request.key] at hop hq
    rw [hs]
    cases q <;> exact counters

theorem filed_after (qs : List Request) : (serve.after empty qs).Filed :=
  serve.after_keeps (P := Filed) (fun _ q h => filed_serve h q) filed_empty qs

/-- Requests on two ids answer alike in either order, and leave the same. -/
theorem Filed.serve_comm (h : d.Filed) {q₁ q₂ : Request} {c₁ c₂ : String}
    (h₁ : q₁.key = some c₁) (h₂ : q₂.key = some c₂) (hne : c₁ ≠ c₂) :
    ((d.serve q₁).1.serve q₂).2 = (d.serve q₂).2 ∧
      ((d.serve q₂).1.serve q₁).2 = (d.serve q₁).2 ∧
      ((d.serve q₁).1.serve q₂).1.Alike ((d.serve q₂).1.serve q₁).1 := by
  have filed₁ := filed_serve h q₁
  have filed₂ := filed_serve h q₂
  -- Each of the two finds the share of its own id as if the other had not come first.
  obtain ⟨share₂, answer₂⟩ := serve_share_congr filed₁ h (h.other_serve h₁ hne) q₂
  obtain ⟨share₁, answer₁⟩ := serve_share_congr filed₂ h (h.other_serve h₂ hne.symm) q₁
  refine ⟨answer₂ h₂, answer₁ h₁, ?_, ?_⟩
  · intro c
    by_cases hc : c₁ = c
    · subst hc
      rw [filed₁.other_serve h₂ hne.symm, share₁]
    · -- Whatever the first does, it is on another id.
      have same := h.other_serve h₁ hc
      rw [(serve_share_congr filed₁ h same q₂).1, filed₂.other_serve h₁ hc]
  · rw [counters_serve h₂, counters_serve h₁, counters_serve h₁, counters_serve h₂, answer₂ h₂,
      answer₁ h₁, Counters.add_right_comm]

/-- Whatever ticket an operation names, there is a request that asks for it. -/
theorem Filed.exists_request (h : d.Filed) (o : Op) :
    ∃ q, d.registry.perform (d.op q) = d.registry.perform o := by
  -- A ticket was given to a receiver, or to nobody, and then it is as good as any other.
  have receiver : ∀ t, (∃ c n, d.registry.ticketOf (d.tickets c) n = t) ∨
      d.registry.slots.length ≤ t ∧ d.registry.ticketOf (d.tickets "") (d.tickets "").length =
        d.registry.slots.length := by
    intro t
    by_cases ht : t < d.registry.slots.length
    · obtain ⟨⟨c, t⟩, hx, rfl⟩ := List.mem_map.mp ((h.known t).mpr ht)
      refine .inl ⟨c, (d.tickets c).idxOf t, ?_⟩
      simp [ticketOf, List.getD_eq_getElem?_getD, List.getElem?_idxOf (mem_tickets.mpr hx)]
    · exact .inr ⟨Nat.not_lt.mp ht, by simp [ticketOf]⟩
  cases o with
  | register c k route dl => exact ⟨.register c k route dl, rfl⟩
  | resolve m => exact ⟨.resolve m, rfl⟩
  | expire c => exact ⟨.expire c, rfl⟩
  | cancel c => exact ⟨.cancel c, rfl⟩
  | sweep now grace => exact ⟨.sweep now grace, rfl⟩
  | take t =>
    rcases receiver t with ⟨c, n, rfl⟩ | ⟨beyond, none⟩
    · exact ⟨.take c n, rfl⟩
    · refine ⟨.take "" (d.tickets "").length, ?_⟩
      have closed : ∀ u, d.registry.slots.length ≤ u → d.registry.content u = .closed := by
        intro u hu
        simp [content, slot?, List.getElem?_eq_none hu]
      simp only [op, none, perform, take, closed _ (Nat.le_refl _), closed _ beyond]
  | drop t =>
    rcases receiver t with ⟨c, n, rfl⟩ | ⟨beyond, none⟩
    · exact ⟨.drop c n, rfl⟩
    · refine ⟨.drop "" (d.tickets "").length, ?_⟩
      simp only [op, none, perform, drop, List.modify_eq_self (Nat.le_refl _),
        List.modify_eq_self beyond]

/-- Every run of the registry is a run of the desk. -/
theorem Filed.exists_requests (h : d.Filed) (ops : List Op) :
    ∃ qs, (serve.after d qs).registry = perform.after d.registry ops := by
  induction ops generalizing d with
  | nil => exact ⟨[], rfl⟩
  | cons o rest ih =>
    obtain ⟨q, hq⟩ := h.exists_request o
    obtain ⟨qs, hqs⟩ := ih (filed_serve h q)
    refine ⟨q :: qs, ?_⟩
    rw [Machine.after, hqs, registry_serve, hq]
    rfl

/-- What an id sees of a run, the sweeps and its pending included, is what it sees of the run from
which all requests on other ids are struck; and requests on two ids, wherever in a run they meet,
can be exchanged: each is answered as before, and the desk is the same afterwards. -/
theorem ids_independent :
    (∀ c qs, (((watch c).transcript empty qs).filter fun x => x.1.concerns c) =
      (watch c).transcript empty (qs.filter (Request.concerns c))) ∧
    ∀ qs q₁ q₂ c₁ c₂, q₁.key = some c₁ → q₂.key = some c₂ → c₁ ≠ c₂ →
      let d := serve.after empty qs
      ((d.serve q₁).1.serve q₂).2 = (d.serve q₂).2 ∧
        ((d.serve q₂).1.serve q₁).2 = (d.serve q₁).2 ∧
        ((d.serve q₁).1.serve q₂).1.Alike ((d.serve q₂).1.serve q₁).1 := by
  constructor
  · intro c qs
    exact filter_transcript_watch filed_empty filed_empty rfl qs
  · intro qs q₁ q₂ c₁ c₂ h₁ h₂ hne
    exact (filed_after qs).serve_comm h₁ h₂ hne

/-- Two calls wait. A reply to the first and a cancellation of the second can come in either order:
the one is delivered and the other removes an entry. -/
theorem ids_independent_crosswise :
    let m : Message := { Message.new "payment.ack" "inv-1" .epoch with correlation := "c-1" }
    let d := serve.after empty
      [.register "c-1" "inv-1" "payment" .start, .register "c-2" "inv-1" "payment" .start]
    (d.serve (.resolve m)).2 = .resolution .delivered ∧
      ((d.serve (.cancel "c-2")).1.serve (.resolve m)).2 = .resolution .delivered ∧
      ((d.serve (.resolve m)).1.serve (.cancel "c-2")).2 = .removed true ∧
      ((d.serve (.resolve m)).1.serve (.cancel "c-2")).1.Alike
        ((d.serve (.cancel "c-2")).1.serve (.resolve m)).1 := by
  intro m d
  have delivered : (d.serve (.resolve m)).2 = .resolution .delivered := rfl
  have removed : (d.serve (.cancel "c-2")).2 = .removed true := rfl
  obtain ⟨second, first, alike⟩ := ids_independent.2
    [.register "c-1" "inv-1" "payment" .start, .register "c-2" "inv-1" "payment" .start]
    (.resolve m) (.cancel "c-2") "c-1" "c-2" rfl rfl (by decide)
  exact ⟨delivered, first.trans delivered, second.trans removed, alike⟩

end

end Desk

end Registry

end PaymentRelay
