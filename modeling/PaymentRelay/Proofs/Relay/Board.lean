import PaymentRelay.Proofs.Relay.Connection

/-
  What the loops of the switchboard come to.

  Writing to the wallets, ending the sessions that are idle and answering the requests whose calls
  have ended go through a list one after another, and each turn works on what the earlier ones have
  left. As sessions have numbers and peers of their own, no turn gets in the way of another one, and
  the loop does to all sessions at once what a turn does to one (`foldl_sessions`). From this
  follows what settling does to sessions (`Switchboard.writeAll_eq`), in particular where the peers
  have read everything (`Switchboard.writeAll_of_drained`), or everything but one message
  (`Switchboard.writeAll_of_delivered`), what the end of idle sessions does
  (`Switchboard.finishIdle_eq`), and who is answered (`Switchboard.respond_eq`).
-/

namespace PaymentRelay

namespace Hub

/-- The hub after some peers have left, one after another. -/
def without (h : Hub) (ids : List Nat) : Hub := ids.foldl leave h

section
variable {h : Hub} {id : Nat} {ids ids' : List Nat} {p : Peer}

theorem peer?_without : (h.without ids).peer? id = if id ∈ ids then none else h.peer? id := by
  induction ids generalizing h with
  | nil => simp [without]
  | cons gone rest ih =>
    have step : h.without (gone :: rest) = (h.leave gone).without rest := rfl
    rw [step, ih, peer?_leave]
    by_cases left : id ∈ rest <;> by_cases same : id = gone <;> simp [left, same]

theorem foldl_drain {c : Session → Prop} [DecidablePred c] {l : List Session} :
    l.foldl (fun h x => if c x then h.drain [x.peer] else h) h =
      h.drain ((l.filter fun x => c x).map (·.peer)) := by
  induction l generalizing h with
  | nil => exact drain_nil.symm
  | cons x rest ih =>
    rw [List.foldl_cons, ih]
    by_cases hx : c x <;> simp [hx, drain_drain]

theorem foldl_leave {c : Session → Bool} {l : List Session} :
    l.foldl (fun h x => if c x then h.leave x.peer else h) h =
      h.without ((l.filter fun x => c x).map (·.peer)) := by
  induction l generalizing h with
  | nil => rfl
  | cons x rest ih =>
    rw [List.foldl_cons, ih]
    by_cases hx : c x = true <;> simp [hx, without]

theorem streams_without : (h.without ids).streams = h.streams := by
  induction ids generalizing h with
  | nil => rfl
  | cons gone rest ih => exact (ih (h := h.leave gone)).trans (streams_leave gone)

theorem fixed_without (h : Hub) (ids : List Nat) :
    (h.without ids).capacity = h.capacity ∧ (h.without ids).limit = h.limit := by
  induction ids generalizing h with
  | nil => exact ⟨rfl, rfl⟩
  | cons gone rest ih =>
    obtain ⟨capacity, limit, _⟩ := (Effect.left (h := h) gone).fixed
    obtain ⟨capacity', limit'⟩ := ih (h.leave gone)
    exact ⟨capacity'.trans capacity, limit'.trans limit⟩

end

end Hub

namespace Switchboard

section
variable {s : Switchboard} {x y : Session} {done rest : List Session}

/-! ## Sessions -/

/-- A session is put in its own place. -/
theorem sessions_update (sessions : s.sessions = done ++ x :: rest)
    (numbers : (s.sessions.map (·.number)).Nodup) (same : y.number = x.number) :
    (s.update y).sessions = done ++ y :: rest := by
  have others (z) (hz : z ∈ done ∨ z ∈ rest) : z.number ≠ y.number := by
    rw [sessions, List.map_append, List.map_cons, List.nodup_middle, List.nodup_cons,
      List.mem_append] at numbers
    intro eq
    refine numbers.1 (hz.imp ?_ ?_) <;>
    · intro hz
      rw [← same, ← eq]
      exact List.mem_map_of_mem hz
  have stay {l : List Session} (hl : ∀ z ∈ l, z.number ≠ y.number) :
      (l.map fun z => if z.number = y.number then y else z) = l :=
    (List.map_congr_left fun z hz => if_neg (hl z hz)).trans l.map_id
  rw [update, sessions, List.map_append, List.map_cons, if_pos same.symm,
    stay fun z hz => others z (.inl hz), stay fun z hz => others z (.inr hz)]

/-- A session that is put in its own place as it is changes nothing. -/
theorem update_same (numbers : (s.sessions.map (·.number)).Nodup) (hx : x ∈ s.sessions) :
    s.update x = s := by
  obtain ⟨done, rest, sessions⟩ := List.append_of_mem hx
  have same := sessions_update sessions numbers rfl
  rw [← sessions] at same
  calc s.update x = { s with sessions := (s.update x).sessions } := rfl
    _ = s := by rw [same]

/-- A loop over the sessions in which each turn is about one of them, whatever the earlier ones
have done, does to all of them what the turns do. -/
theorem foldl_sessions {step : Switchboard → Session → Switchboard} {f : Hub → Session → Hub}
    {g : Session → Session} {P : Switchboard → Session → Prop}
    (number : ∀ x, (g x).number = x.number)
    (turn : ∀ s x, x ∈ s.sessions → (s.sessions.map (·.number)).Nodup → P s x →
      step s x = (s.withHub (f s.bridge.hub x)).update (g x))
    (done : List Session) (sessions : s.sessions = done ++ rest)
    (numbers : (s.sessions.map (·.number)).Nodup) (holds : ∀ x ∈ rest, P s x)
    (keeps : rest.Pairwise fun x y => ∀ s, P s y →
      P ((s.withHub (f s.bridge.hub x)).update (g x)) y) :
    rest.foldl step s =
      { s.withHub (rest.foldl f s.bridge.hub) with sessions := done ++ rest.map g } := by
  induction rest generalizing s done with
  | nil =>
    rw [List.foldl_nil, List.foldl_nil, List.map_nil, ← sessions]
    rfl
  | cons x rest ih =>
    obtain ⟨keep, keeps⟩ := List.pairwise_cons.mp keeps
    have there : x ∈ s.sessions := by simp [sessions]
    have first := turn s x there numbers (holds x (List.mem_cons_self ..))
    have after : ((s.withHub (f s.bridge.hub x)).update (g x)).sessions = (done ++ [g x]) ++ rest :=
      (sessions_update (s := s.withHub (f s.bridge.hub x)) sessions numbers (number x)).trans
        (by simp)
    have numbers' :
        (((s.withHub (f s.bridge.hub x)).update (g x)).sessions.map (·.number)).Nodup := by
      rw [after]
      rw [sessions] at numbers
      simpa [number] using numbers
    have later := ih (done ++ [g x]) after numbers'
      (fun y hy => keep y hy s (holds y (List.mem_cons_of_mem _ hy))) keeps
    rw [List.foldl_cons, first, later]
    simp [withHub, update]

/-! ## Writing to the wallets -/

/-- The session with a message written to the wallet, if it is open and on the channel. -/
def written (channel : String) (m : Message) (now : Instant) (x : Session) : Session :=
  if x.isOpen ∧ x.channel = channel then x.put (.message m) now else x

/-- Where the peer has read everything, nothing is written. -/
theorem write_of_drained {p : Peer} (numbers : (s.sessions.map (·.number)).Nodup)
    (hx : x ∈ s.sessions) (found : s.bridge.hub.peer? x.peer = some p) (drained : p.unread = []) :
    s.write x = s := by
  simp only [write, found, drained, List.foldl_nil]
  exact update_same numbers hx

/-- Where the peers of all open sessions have read everything, nothing is written. -/
theorem writeAll_of_drained (numbers : (s.sessions.map (·.number)).Nodup)
    (drained : ∀ x ∈ s.sessions, x.isOpen = true →
      ∃ p, s.bridge.hub.peer? x.peer = some p ∧ p.unread = []) : s.writeAll = s := by
  have stays (l : List Session) (hl : ∀ x ∈ l, x ∈ s.sessions) :
      l.foldl (fun s x => if x.isOpen then s.write x else s) s = s := by
    induction l with
    | nil => rfl
    | cons x rest ih =>
      have first : (if x.isOpen then s.write x else s) = s := by
        split
        · next isOpen =>
          have hx := hl x (List.mem_cons_self ..)
          obtain ⟨p, found, read⟩ := drained x hx isOpen
          exact write_of_drained numbers hx found read
        · rfl
      rw [List.foldl_cons, first]
      exact ih fun y hy => hl y (List.mem_cons_of_mem _ hy)
  exact stays s.sessions fun _ => id

/-- The peer of a session, if it is open, has not read these messages. -/
structure Unwritten (waiting : Session → List Message) (now : Instant) (s : Switchboard)
    (x : Session) : Prop where
  now : s.bridge.now = now
  queue : x.isOpen = true → ∃ p, s.bridge.hub.peer? x.peer = some p ∧ p.unread = waiting x

/-- The session after what waits for its peer was written to the wallet, if it is open. -/
def caughtUp (waiting : Session → List Message) (now : Instant) (x : Session) : Session :=
  if x.isOpen then sentTo now (waiting x) x else x

theorem Unwritten.write {waiting : Session → List Message} {now : Instant}
    (unwritten : Unwritten waiting now s x) (hx : x ∈ s.sessions)
    (numbers : (s.sessions.map (·.number)).Nodup) :
    (if x.isOpen then s.write x else s) =
      (s.withHub (if x.isOpen ∧ waiting x ≠ [] then s.bridge.hub.drain [x.peer]
        else s.bridge.hub)).update (caughtUp waiting now x) := by
  have same : (s.withHub s.bridge.hub).update x = s := update_same numbers hx
  by_cases isOpen : x.isOpen = true
  · obtain ⟨p, found, unread⟩ := unwritten.queue isOpen
    rw [if_pos isOpen, write_eq found, caughtUp, if_pos isOpen, unread, unwritten.now]
    by_cases nothing : waiting x = [] <;> simp [isOpen, nothing]
  · simp only [caughtUp, isOpen, Bool.false_eq_true, false_and, if_false]
    exact same.symm

/-- What one peer reads does not concern another. -/
theorem Unwritten.others {waiting : Session → List Message} {now : Instant} {c : Prop}
    [Decidable c] (unwritten : Unwritten waiting now s y) (apart : x.peer ≠ y.peer) (z : Session) :
    Unwritten waiting now
      ((s.withHub (if c then s.bridge.hub.drain [x.peer] else s.bridge.hub)).update z) y := by
  refine ⟨unwritten.now, fun isOpen => ?_⟩
  obtain ⟨p, found, unread⟩ := unwritten.queue isOpen
  refine ⟨p, ?_, unread⟩
  simp only [update_bridge, withHub_hub]
  split
  · rw [Hub.peer?_drain, found]
    simp [Ne.symm apart]
  · exact found

/-- What waits for the peers of the open sessions is written to their wallets. -/
theorem writeAll_eq (waiting : Session → List Message)
    (numbers : (s.sessions.map (·.number)).Nodup) (peers : (s.sessions.map (·.peer)).Nodup)
    (queues : ∀ x ∈ s.sessions, x.isOpen = true →
      ∃ p, s.bridge.hub.peer? x.peer = some p ∧ p.unread = waiting x) :
    s.writeAll =
      { s.withHub (s.bridge.hub.drain
          ((s.sessions.filter fun x => x.isOpen ∧ waiting x ≠ []).map (·.peer))) with
        sessions := s.sessions.map (caughtUp waiting s.bridge.now) } := by
  have number (x) : (caughtUp waiting s.bridge.now x).number = x.number := by
    unfold caughtUp
    split <;> rfl
  have all := foldl_sessions (P := Unwritten waiting s.bridge.now)
    (f := fun h x => if x.isOpen ∧ waiting x ≠ [] then h.drain [x.peer] else h) number
    (fun t x hx numbers unwritten => unwritten.write hx numbers) [] rfl numbers
    (fun x hx => ⟨rfl, queues x hx⟩)
    ((List.pairwise_map.mp peers).imp fun apart t unwritten => unwritten.others apart _)
  rw [Hub.foldl_drain] at all
  exact all

/-- Where one message was published to a channel and the peers of open sessions have read all
others, it is written to those of the channel. -/
theorem writeAll_of_delivered (channel : String) (m : Message)
    (numbers : (s.sessions.map (·.number)).Nodup) (peers : (s.sessions.map (·.peer)).Nodup)
    (delivered : ∀ x ∈ s.sessions, x.isOpen = true → ∃ p, s.bridge.hub.peer? x.peer = some p ∧
      p.unread = if x.channel = channel then [m] else []) :
    s.writeAll =
      { s.withHub (s.bridge.hub.drain
          ((s.sessions.filter fun x => x.isOpen ∧ x.channel = channel).map (·.peer))) with
        sessions := s.sessions.map (written channel m s.bridge.now) } := by
  have reached (x : Session) : (x.isOpen = true ∧ (if x.channel = channel then [m] else []) ≠ []) ↔
      x.isOpen = true ∧ x.channel = channel := by
    by_cases mine : x.channel = channel <;> simp [mine]
  have same : caughtUp (fun x => if x.channel = channel then [m] else []) s.bridge.now =
      written channel m s.bridge.now := by
    funext x
    rw [caughtUp, written]
    by_cases isOpen : x.isOpen = true <;> by_cases mine : x.channel = channel <;>
      simp [isOpen, mine, sentTo_nil, sentTo_singleton]
  have all := writeAll_eq _ numbers peers delivered
  rw [same] at all
  simpa only [reached] using all

/-! ## Sessions that end -/

/-- The session as it is after the idle ones were ended. -/
def cleared (limit : Span) (now : Instant) (x : Session) : Session :=
  if x.isIdle limit now then x.finish [.close] else x

/-- Every session that is idle ends, and its peer leaves. -/
theorem finishIdle_eq (numbers : (s.sessions.map (·.number)).Nodup) :
    s.finishIdle =
      { s.withHub (s.bridge.hub.without
          ((s.sessions.filter fun x => x.isIdle s.limits.idle s.bridge.now).map (·.peer))) with
        sessions := s.sessions.map (cleared s.limits.idle s.bridge.now) } := by
  have number (x) : (cleared s.limits.idle s.bridge.now x).number = x.number := by
    unfold cleared
    split <;> rfl
  have turn (t : Switchboard) (x) (hx : x ∈ t.sessions)
      (numbers : (t.sessions.map (·.number)).Nodup)
      (same : t.limits.idle = s.limits.idle ∧ t.bridge.now = s.bridge.now) :
      (if x.isIdle t.limits.idle t.bridge.now then t.finish x [.close] else t) =
        (t.withHub (if x.isIdle s.limits.idle s.bridge.now then t.bridge.hub.leave x.peer
          else t.bridge.hub)).update (cleared s.limits.idle s.bridge.now x) := by
    simp only [same.1, same.2, cleared]
    split
    · rfl
    · exact (update_same numbers hx).symm
  have all := foldl_sessions
    (P := fun t _ => t.limits.idle = s.limits.idle ∧ t.bridge.now = s.bridge.now)
    (f := fun h x => if x.isIdle s.limits.idle s.bridge.now then h.leave x.peer else h)
    number turn [] rfl numbers (fun _ _ => ⟨rfl, rfl⟩) (List.pairwise_of_forall fun _ _ _ => id)
  have gone : s.sessions.foldl
        (fun h x => if x.isIdle s.limits.idle s.bridge.now then h.leave x.peer else h)
        s.bridge.hub =
      s.bridge.hub.without
        ((s.sessions.filter fun x => x.isIdle s.limits.idle s.bridge.now).map (·.peer)) :=
    Hub.foldl_leave
  rw [gone] at all
  exact all

/-! ## Requests whose calls have ended -/

/-- Everybody whose call has ended is answered, and waits no longer. -/
theorem respond_eq (s : Switchboard) {outcomes : List (Nat × Outcome)}
    (distinct : (outcomes.map (·.1)).Nodup) :
    s.respond outcomes =
      ({ s with jobs := s.jobs.filter fun j => j.number ∉ outcomes.map (·.1) },
        outcomes.filterMap fun o =>
          (s.jobs.find? fun j => j.number = o.1).map fun j => (o.1, j.respond o.2)) := by
  induction outcomes generalizing s with
  | nil => simp [respond]
  | cons o rest ih =>
    obtain ⟨other, distinct⟩ := List.nodup_cons.mp distinct
    have later : rest.filterMap (fun p =>
        ((s.jobs.filter fun j => j.number ≠ o.1).find? fun j => j.number = p.1).map fun j =>
          (p.1, j.respond p.2)) =
        rest.filterMap fun p =>
          (s.jobs.find? fun j => j.number = p.1).map fun j => (p.1, j.respond p.2) := by
      refine List.filterMap_congr fun p hp => ?_
      have apart : p.1 ≠ o.1 := fun eq => other (List.mem_map.mpr ⟨p, hp, eq⟩)
      rw [List.find?_filter]
      congr 2
      funext j
      by_cases hj : j.number = p.1 <;> simp [hj, apart]
    have gone : (s.jobs.filter fun j => j.number ≠ o.1).filter
          (fun j => j.number ∉ rest.map (·.1)) =
        s.jobs.filter fun j => j.number ∉ (o :: rest).map (·.1) := by
      rw [List.filter_filter]
      refine List.filter_congr fun j _ => ?_
      by_cases first : j.number = o.1 <;> simp [first]
    simp only [respond, ih _ distinct, List.filterMap_cons, later, gone]
    cases s.jobs.find? fun j => j.number = o.1 <;> rfl

end

end Switchboard

end PaymentRelay
