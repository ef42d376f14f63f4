import PaymentRelay.Proofs.Relay.Share

/-
  Steps of peers, of wallets and of the clock, as the shares of invoices have them.

  What comes of a step is said of all invoices at once (`Comes`): the office is in order again, the
  share of each invoice has made the step, and the invoice was told what its share tells
  (`Comes.of_step`). The steps of a peer or a wallet are about its channel, and the shares of others
  stay as they are. A reply goes to the one listener, and there ends the calls that have its id and
  its channel, so that it ends none of another channel whatever id it claims (`share_close_other`).
-/

namespace PaymentRelay

namespace Office

section
variable {used : List String} {o : Office} {c k : String} {n m : Nat} {x y : Session}

/-! ## Settling -/

theorem told_append (k : String) (xs ys : List Report) :
    told k (xs ++ ys) = told k xs ++ told k ys := List.filterMap_append

/-- The office is in order, and this is what every invoice has of it and is told. -/
structure Comes (used : List String) (x : Office × List Report) (s : String → Share × List Event) :
    Prop where
  filed : x.1.Filed used
  shares : ∀ k, x.1.share k = (s k).1
  told : ∀ k, told k x.2 = (s k).2

/-- Where nothing is unread, nothing is written. -/
theorem Housed.writeAll (housed : o.Housed) : o.board.writeAll = o.board :=
  Switchboard.writeAll_of_drained housed.numbers.distinct fun x hx isOpen =>
    ⟨_, housed.seated.drained x hx isOpen, rfl⟩

/-- Settling again changes nothing that an invoice has. -/
theorem Filed.settle (filed : o.Filed used) :
    Comes used (o.settled o.board.settle) fun k => (o.share k, []) := by
  obtain ⟨filed', shares⟩ := (filed.ready.closes Bridge.timedOut).filed filed.housed filed.booked
    fun _ => ⟨rfl, rfl⟩
  have settle : o.board.settle = Switchboard.respond
      { o.board with bridge := o.board.bridge.settle.1 } o.board.bridge.settle.2 := by
    rw [Switchboard.settle, filed.housed.writeAll]
  have none (k) : (o.share k).close (fun _ => false) Bridge.timedOut = (o.share k, []) := by
    simp [Share.close]
  rw [settle]
  exact ⟨filed', fun k => congrArg Prod.fst ((shares k).trans (none k)),
    fun k => congrArg Prod.snd ((shares k).trans (none k))⟩

/-- After a step that leaves the office in order, settling changes nothing. -/
theorem Comes.settle {x : Office × List Report} {s : String → Share × List Event}
    (comes : Comes used x s) :
    Comes used ((x.1.settled x.1.board.settle).1, x.2 ++ (x.1.settled x.1.board.settle).2) s := by
  have later := comes.filed.settle
  refine ⟨later.filed, fun k => (later.shares k).trans (comes.shares k), fun k => ?_⟩
  rw [told_append, comes.told k, later.told k, List.append_nil]

/-- When a switchboard settles twice, those who have asked get all responses. -/
theorem settled_twice (o : Office) (x : Switchboard × List (Nat × Http.Response)) :
    ((((o.settled x).1).settled (o.settled x).1.board.settle).1,
        (o.settled x).2 ++ ((o.settled x).1.settled (o.settled x).1.board.settle).2) =
      o.settled (x.1.settle.1, x.2 ++ x.1.settle.2) := by
  simp only [settled, List.map_append]

/-- What a step comes to for the invoices that it is about, and for the others. -/
theorem Comes.of_step {x : Office × List Report} {a : Step} (filed : x.1.Filed used)
    (own : ∀ k, a.Concerns k → x.1.share k = ((o.share k).act a).1 ∧
      Office.told k x.2 = ((o.share k).act a).2)
    (other : ∀ k, ¬ a.Concerns k → x.1.share k = o.share k ∧ Office.told k x.2 = []) :
    Comes used x fun k => (o.share k).step a := by
  have all (k) : x.1.share k = ((o.share k).step a).1 ∧
      Office.told k x.2 = ((o.share k).step a).2 := by
    by_cases mine : a.Concerns k
    · have step : (o.share k).step a = (o.share k).act a := if_pos mine
      rw [step]
      exact own k mine
    · have step : (o.share k).step a = (o.share k, []) := if_neg mine
      rw [step]
      exact other k mine
  exact ⟨filed, fun k => (all k).1, fun k => (all k).2⟩

/-- A step, but for those of the clock, is an act after which everything settles. -/
theorem step_eq {a : Step} {x : Office × List Report} (act : o.act a = x)
    (still : ∀ span, a ≠ .advance span) :
    o.step a = ((x.1.settled x.1.board.settle).1, x.2 ++ (x.1.settled x.1.board.settle).2) := by
  subst act
  cases a with
  | advance span => exact absurd rfl (still span)
  | _ => rfl

/-! ## The hub -/

theorem Housed.unread (housed : o.Housed) {b : Bridge}
    (listener : b.listener = o.board.bridge.listener)
    (streams : b.hub.streams = o.board.bridge.hub.streams) : b.unread = [] := by
  obtain ⟨id, listens, drained⟩ := housed.listening
  simp [Bridge.unread, listener, listens, Hub.stream?, streams, drained]

/-- An office stays in order when peers come, go and read. -/
theorem Filed.withHub (filed : o.Filed used) {hub : Hub} {joined : List (String × Nat)}
    (streams : hub.streams = o.board.bridge.hub.streams)
    (seated : Seated hub joined o.board.sessions) :
    Filed used { o.withHub hub with joined } where
  housed := ⟨seated, filed.housed.numbers, by
    obtain ⟨id, listener, drained⟩ := filed.housed.listening
    exact ⟨id, listener, streams.trans drained⟩⟩
  ready := filed.ready.withHub (filed.housed.unread rfl streams)
  booked := filed.booked

theorem share_withHub (hub : Hub) (joined : List (String × Nat))
    (capacity : hub.capacity = o.board.bridge.hub.capacity)
    (limit : hub.limit = o.board.bridge.hub.limit) (k : String) :
    Office.share { o.withHub hub with joined } k =
      { o.share k with peers := queues hub joined k } := by
  have capacity' : ({ o.withHub hub with joined } : Office).board.bridge.hub.capacity =
      o.board.bridge.hub.capacity := capacity
  have limit' : ({ o.withHub hub with joined } : Office).board.bridge.hub.limit =
      o.board.bridge.hub.limit := limit
  rw [Office.share, capacity', limit']
  rfl

theorem Filed.comes_join (filed : o.Filed used) (c : String) :
    Comes used (o.act (.join c)) fun k => (o.share k).step (.join c) := by
  have seated := filed.housed.seated
  have share (k) := share_withHub (o := o) (o.board.bridge.hub.join c).1
    (o.joined ++ [(c, o.board.bridge.hub.nextId)]) rfl rfl k
  refine .of_step (filed.withHub rfl (seated.join c))
    (fun k (mine : c = k) => ⟨(share k).trans ?_, rfl⟩)
    fun k (other : c ≠ k) => ⟨(share k).trans ?_, rfl⟩
  · rw [seated.queues_join c k, if_pos mine]
    rfl
  · rw [seated.queues_join c k, if_neg other]
    rfl

/-- The peers of a channel are counted alike by the office and by the share of the channel. -/
theorem share_peer? (h : (peersOf o.joined c)[n]? = some m) :
    (o.share c).peers[n]? = some ((o.board.bridge.hub.peer? m).map (·.unread)) := by
  simp [Office.share, queues, h]

/-- A step that does nothing does nothing to any share. -/
theorem Filed.comes_nothing (filed : o.Filed used) {a : Step}
    (nothing : ∀ k, a.Concerns k → (o.share k).act a = (o.share k, [])) :
    Comes used (o, []) fun k => (o.share k).step a := by
  refine .of_step filed (fun k mine => ?_) fun k _ => ⟨rfl, rfl⟩
  rw [nothing k mine]
  exact ⟨rfl, rfl⟩

/-- Nothing comes of what is done in the name of a peer that is not there. -/
theorem Filed.comes_absent (filed : o.Filed used) (act : PeerAct)
    (absent : ∀ id, (peersOf o.joined c)[n]? = some id → o.board.bridge.hub.peer? id = none) :
    Comes used (o.act (.peer c n act)) fun k => (o.share k).step (.peer c n act) := by
  have nothing : o.act (.peer c n act) = (o, []) := by
    cases hid : (peersOf o.joined c)[n]? with
    | none => simp only [Office.act, hid]
    | some id =>
      have gone := absent id hid
      have left : o.board.bridge.hub.leave id = o.board.bridge.hub := by
        rw [Hub.leave, gone]
      have same : o.withHub o.board.bridge.hub = o := rfl
      cases act <;> simp only [Office.act, hid, peerAct, left, Hub.act, gone, same]
  rw [nothing]
  refine filed.comes_nothing fun k (mine : c = k) => ?_
  subst mine
  cases hid : (peersOf o.joined c)[n]? with
  | none =>
    have none : (o.share c).peers[n]? = none := by simp [Office.share, queues, hid]
    simp only [Share.act, none]
  | some id =>
    have gone := share_peer? hid
    rw [absent id hid, Option.map_none] at gone
    simp only [Share.act, gone]

theorem Filed.comes_leave (filed : o.Filed used) {id : Nat} {p : Peer}
    (hid : (peersOf o.joined c)[n]? = some id) (found : o.board.bridge.hub.peer? id = some p) :
    Comes used (o.act (.peer c n .leave)) fun k => (o.share k).step (.peer c n .leave) := by
  have seated := filed.housed.seated
  have there : (c, id) ∈ o.joined := mem_peersOf.mp (List.mem_of_getElem? hid)
  have act : o.act (.peer c n .leave) = (o.withHub (o.board.bridge.hub.leave id), []) := by
    simp only [Office.act, hid, peerAct]
  have fixed := (Hub.Effect.left (h := o.board.bridge.hub) id).fixed
  have share (k) := share_withHub (o := o) _ o.joined fixed.1 fixed.2.1 k
  have seated' : Seated (o.board.bridge.hub.leave id) o.joined o.board.sessions := by
    have stays := seated.without [id] (f := fun x => x) (fun _ _ => ⟨rfl, rfl⟩)
      fun x hx => by simp [seated.apart there hx]
    rwa [List.map_id'] at stays
  rw [act]
  refine .of_step (filed.withHub (Hub.streams_leave id) seated') (fun k (mine : c = k) => ?_)
    fun k (other : c ≠ k) => ⟨(share k).trans ?_, rfl⟩
  · subst mine
    have peer := share_peer? hid
    rw [found, Option.map_some] at peer
    have left := seated.queues_leave hid c
    rw [if_pos rfl] at left
    simp only [Share.act, peer, Share.peerAct]
    refine ⟨(share c).trans ?_, rfl⟩
    rw [left]
    rfl
  · rw [seated.queues_leave hid k, if_neg other]
    rfl

theorem Filed.comes_receive (filed : o.Filed used) {id : Nat} {p : Peer}
    (hid : (peersOf o.joined c)[n]? = some id) (found : o.board.bridge.hub.peer? id = some p) :
    Comes used (o.act (.peer c n .receive)) fun k => (o.share k).step (.peer c n .receive) := by
  have seated := filed.housed.seated
  have peer := share_peer? hid
  rw [found, Option.map_some] at peer
  cases unread : p.unread with
  | nil =>
    have act : o.act (.peer c n .receive) = (o, []) := by
      simp only [Office.act, hid, peerAct, Hub.act, found, Hub.receive, unread]
      rfl
    rw [act]
    refine filed.comes_nothing fun k (mine : c = k) => ?_
    subst mine
    simp only [Share.act, peer, Share.peerAct, unread]
  | cons m rest =>
    have act : o.act (.peer c n .receive) =
        (o.withHub (o.board.bridge.hub.drawn id rest), [(some c, .received n m)]) := by
      simp only [Office.act, hid, peerAct, Hub.act, found, Hub.receive, unread,
        (Hub.mem_of_peer? found).2]
      rfl
    have share (k) := share_withHub (o := o) (o.board.bridge.hub.drawn id rest) o.joined rfl rfl k
    rw [act]
    refine .of_step (filed.withHub rfl (seated.drawn
      (mem_peersOf.mp (List.mem_of_getElem? hid)) rest)) (fun k (mine : c = k) => ?_)
      fun k (other : c ≠ k) => ⟨(share k).trans ?_, ?_⟩
    · subst mine
      have drawn := seated.queues_drawn hid found rest c
      rw [if_pos rfl] at drawn
      simp only [Share.act, peer, Share.peerAct, unread]
      refine ⟨(share c).trans ?_, ?_⟩
      · rw [drawn]
        rfl
      · simp [Office.told]
    · rw [seated.queues_drawn hid found rest k, if_neg other]
      rfl
    · simp [Office.told, other]

/-! ## Sessions -/

theorem Housed.session? (housed : o.Housed) (hx : x ∈ o.board.sessions) :
    o.board.session? x.number = some x := find?_of_key housed.numbers.distinct hx

theorem Housed.open? (housed : o.Housed) (hx : x ∈ o.board.sessions) :
    o.board.open? x.number = if x.isOpen then some x else none := by
  rw [Switchboard.open?, housed.session? hx, Option.filter_some]

theorem share_line? (h : (linesOf o.board.sessions c)[n]? = some x) :
    (o.share c).lines[n]? = some x.bare := by
  simp [Office.share, lines, h]

/-- The numbers of the sessions stay when one of them is put in its place. -/
theorem numbers_update (s : Switchboard) (y : Session) :
    (s.update y).sessions.map (·.number) = s.sessions.map (·.number) := by
  rw [Switchboard.update, List.map_map]
  refine List.map_congr_left fun z _ => ?_
  rw [Function.comp_apply]
  split
  · next same => exact same.symm
  · rfl

/-- What a session turns into: the same one, with other content. -/
structure Turns (x y : Session) : Prop where
  number : y.number = x.number
  peer : y.peer = x.peer
  channel : y.channel = x.channel

/-- The sessions stay in place when one of them is put there with other content, or ends and its
peer leaves. -/
theorem Housed.update (housed : o.Housed) (hx : x ∈ o.board.sessions) (turns : Turns x y)
    (gone : List Nat) (isOpen : y.isOpen = true ↔ x.isOpen = true ∧ x.peer ∉ gone)
    (own : ∀ id ∈ gone, id = x.peer) :
    Seated (o.board.bridge.hub.without gone) o.joined (o.board.update y).sessions := by
  have unique (z) (hz : z ∈ o.board.sessions) (same : z.number = y.number) : z = x :=
    List.inj_on_of_nodup_map housed.numbers.distinct hz hx (same.trans turns.number)
  refine housed.seated.without gone (fun z hz => ?_) fun z hz => ?_
  · split
    · next same =>
      rw [unique z hz same]
      exact ⟨turns.peer, turns.channel⟩
    · exact ⟨rfl, rfl⟩
  · split
    · next same =>
      rw [unique z hz same]
      exact isOpen
    · next apart =>
      refine (and_iff_left fun left => apart ?_).symm
      have peers := (List.nodup_append.mp housed.seated.ids.distinct).1
      rw [List.inj_on_of_nodup_map peers hz hx (own _ left), turns.number]

/-- What is done at one end of a session is seen by its channel alone. -/
theorem Filed.comes_line (filed : o.Filed used) (hx : (linesOf o.board.sessions c)[n]? = some x)
    (turns : Turns x y) (gone : List Nat)
    (isOpen : y.isOpen = true ↔ x.isOpen = true ∧ x.peer ∉ gone) (own : ∀ id ∈ gone, id = x.peer) :
    let o' : Office :=
      { o with board := (o.board.withHub (o.board.bridge.hub.without gone)).update y }
    o'.Filed used ∧ o'.share c = (o.share c).put n y.bare ∧
      ∀ k, c ≠ k → o'.share k = o.share k := by
  intro o'
  have housed := filed.housed
  have there : x ∈ o.board.sessions := (mem_linesOf.mp (List.mem_of_getElem? hx)).1
  have streams : (o.board.bridge.hub.without gone).streams = o.board.bridge.hub.streams :=
    Hub.streams_without
  have queues (k) : queues (o.board.bridge.hub.without gone) o.joined k =
      queues o.board.bridge.hub o.joined k :=
    housed.seated.queues_without (fun id left => ⟨x, there, (own id left).symm⟩) k
  have lines (k) := lines_update housed.numbers.distinct hx turns.number turns.channel k
  have capacity : (o.board.bridge.hub.without gone).capacity = o.board.bridge.hub.capacity ∧
      (o.board.bridge.hub.without gone).limit = o.board.bridge.hub.limit := Hub.fixed_without ..
  have share (k) : o'.share k = { o.share k with
      lines := PaymentRelay.lines (o.board.update y).sessions k } := by
    show Share.mk k (o.board.bridge.hub.without gone).capacity
      (o.board.bridge.hub.without gone).limit _ _
      (PaymentRelay.queues (o.board.bridge.hub.without gone) o.joined k) _ _ = _
    rw [capacity.1, capacity.2, queues k]
    rfl
  refine ⟨⟨⟨?_, ?_, ?_⟩, filed.ready.withHub (housed.unread rfl streams), filed.booked⟩, ?_, ?_⟩
  · exact housed.update there turns gone isOpen own
  · have numbers : o'.board.sessions.map (·.number) = o.board.sessions.map (·.number) :=
      numbers_update o.board y
    rw [numbers]
    exact housed.numbers
  · obtain ⟨id, listener, drained⟩ := housed.listening
    exact ⟨id, listener, streams.trans drained⟩
  · rw [share, lines c, if_pos rfl]
    rfl
  · intro k other
    rw [share, lines k, if_neg other]
    rfl

/-- A wallet does something at its end of its session, and the session turns into another one. -/
theorem Filed.comes_turn (filed : o.Filed used) (hx : (linesOf o.board.sessions c)[n]? = some x)
    (turns : Turns x y) (gone : List Nat)
    (isOpen : y.isOpen = true ↔ x.isOpen = true ∧ x.peer ∉ gone) (own : ∀ id ∈ gone, id = x.peer)
    {act : LineAct} (events : List Event)
    (office : o.act (.line c n act) =
      ({ o with board := (o.board.withHub (o.board.bridge.hub.without gone)).update y },
        events.map fun e => (some c, e)))
    (share : (o.share c).act (.line c n act) = ((o.share c).put n y.bare, events)) :
    Comes used (o.act (.line c n act)) fun k => (o.share k).step (.line c n act) := by
  obtain ⟨filed', mine, others⟩ := filed.comes_line hx turns gone isOpen own
  rw [office]
  refine .of_step filed' (fun k (here : c = k) => ?_) fun k (other : c ≠ k) => ⟨others k other, ?_⟩
  · subst here
    rw [share]
    exact ⟨mine, by simp [Office.told]⟩
  · simp [Office.told, other]

/-- Nothing comes of what is done at the end of a session that is not open, but for reading. -/
theorem Filed.comes_closed (filed : o.Filed used) {act : LineAct}
    (closed : ∀ x, (linesOf o.board.sessions c)[n]? = some x → x.isOpen = false ∧ act ≠ .read) :
    Comes used (o.act (.line c n act)) fun k => (o.share k).step (.line c n act) := by
  have nothing : o.act (.line c n act) = (o, []) := by
    cases hx : (linesOf o.board.sessions c)[n]? with
    | none => simp only [Office.act, hx]
    | some x =>
      obtain ⟨ended, other⟩ := closed x hx
      have found := filed.housed.open? (mem_linesOf.mp (List.mem_of_getElem? hx)).1
      rw [ended, if_neg Bool.false_ne_true] at found
      cases act with
      | read => exact absurd rfl other
      | _ => simp only [Office.act, hx, lineAct, Switchboard.frame, Switchboard.ping,
          Switchboard.hangUp, Switchboard.cut, found]
  rw [nothing]
  refine filed.comes_nothing fun k (mine : c = k) => ?_
  subst mine
  cases hx : (linesOf o.board.sessions c)[n]? with
  | none =>
    have none : (o.share c).lines[n]? = none := by simp [Office.share, lines, hx]
    simp only [Share.act, none]
  | some x =>
    obtain ⟨ended, other⟩ := closed x hx
    have bare : x.bare.isOpen = false := ended
    cases act with
    | read => exact absurd rfl other
    | _ => simp only [Share.act, share_line? hx, Share.lineAct, bare, Bool.false_eq_true, if_false]

theorem Filed.comes_ping (filed : o.Filed used) (hx : (linesOf o.board.sessions c)[n]? = some x)
    (isOpen : x.isOpen = true) (content : List UInt8) :
    Comes used (o.act (.line c n (.ping content))) fun k =>
      (o.share k).step (.line c n (.ping content)) := by
  have found := filed.housed.open? (mem_linesOf.mp (List.mem_of_getElem? hx)).1
  rw [if_pos isOpen] at found
  have bare : x.bare.isOpen = true := isOpen
  refine filed.comes_turn (y := x.put (.pong content) o.board.bridge.now) hx
    ⟨rfl, rfl, rfl⟩ [] (by simp [Session.put]) (by simp) [] ?_ ?_
  · simp only [Office.act, hx, lineAct, Switchboard.ping, found]
    rfl
  · simp only [Share.act, share_line? hx, Share.lineAct, bare, if_true]
    rfl

theorem Filed.comes_hangUp (filed : o.Filed used) (hx : (linesOf o.board.sessions c)[n]? = some x)
    (isOpen : x.isOpen = true) :
    Comes used (o.act (.line c n .hangUp)) fun k => (o.share k).step (.line c n .hangUp) := by
  have found := filed.housed.open? (mem_linesOf.mp (List.mem_of_getElem? hx)).1
  rw [if_pos isOpen] at found
  have bare : x.bare.isOpen = true := isOpen
  refine filed.comes_turn (y := x.finish [.close]) hx ⟨rfl, rfl, rfl⟩ [x.peer]
    (by simp [Session.finish]) (by simp) [] ?_ ?_
  · simp only [Office.act, hx, lineAct, Switchboard.hangUp, found]
    rfl
  · simp only [Share.act, share_line? hx, Share.lineAct, bare, if_true]
    rfl

theorem Filed.comes_cut (filed : o.Filed used) (hx : (linesOf o.board.sessions c)[n]? = some x)
    (isOpen : x.isOpen = true) :
    Comes used (o.act (.line c n .cut)) fun k => (o.share k).step (.line c n .cut) := by
  have found := filed.housed.open? (mem_linesOf.mp (List.mem_of_getElem? hx)).1
  rw [if_pos isOpen] at found
  have bare : x.bare.isOpen = true := isOpen
  refine filed.comes_turn (y := x.finish []) hx ⟨rfl, rfl, rfl⟩ [x.peer]
    (by simp [Session.finish]) (by simp) [] ?_ ?_
  · simp only [Office.act, hx, lineAct, Switchboard.cut, found]
    rfl
  · simp only [Share.act, share_line? hx, Share.lineAct, bare, if_true]
    rfl

theorem Filed.comes_read (filed : o.Filed used) (hx : (linesOf o.board.sessions c)[n]? = some x) :
    Comes used (o.act (.line c n .read)) fun k => (o.share k).step (.line c n .read) := by
  have found := filed.housed.session? (mem_linesOf.mp (List.mem_of_getElem? hx)).1
  have line := share_line? hx
  cases unread : x.unread with
  | nil =>
    have bare : x.bare.unread = [] := unread
    have nothing : o.act (.line c n .read) = (o, []) := by
      simp only [Office.act, hx, lineAct, Switchboard.read, found, unread]
    rw [nothing]
    refine filed.comes_nothing fun k (mine : c = k) => ?_
    subst mine
    simp only [Share.act, line, Share.lineAct, bare]
  | cons out rest =>
    have bare : x.bare.unread = out :: rest := unread
    refine filed.comes_turn (y := { x with unread := rest }) hx ⟨rfl, rfl, rfl⟩ []
      (by simp) (by simp) [.read n out] ?_ ?_
    · simp only [Office.act, hx, lineAct, Switchboard.read, found, unread]
      rfl
    · simp only [Share.act, line, Share.lineAct, bare]
      rfl

/-! ## Replies -/

theorem mem_waits {calls : List Call} {jobs : List Job} {asked : Nat → Option String × Nat}
    {w : Wait} (hw : w ∈ waits calls jobs asked k) : w.call.channel = k := by
  obtain ⟨v, hv, rfl⟩ := List.mem_map.mp hw
  have mine : v.1.channel = k := by simpa using (List.mem_filter.mp hv).2
  exact mine

/-- A reply on one channel ends no call on another. -/
theorem share_close_other {m : Message} (other : m.channel ≠ k) :
    (o.share k).close (fun c => Bridge.IsFor m c) (fun _ => .ok m) = (o.share k, []) := by
  have noOne (w) (hw : w ∈ (o.share k).waits) : ¬ Bridge.IsFor m w.call :=
    fun mine => other (mine.2.trans (mem_waits hw))
  have none : ((o.share k).waits.filter fun w => Bridge.IsFor m w.call) = [] := by
    simpa using noOne
  have all : ((o.share k).waits.filter fun w => !decide (Bridge.IsFor m w.call)) =
      (o.share k).waits := by
    simpa using noOne
  simp only [Share.close, none, all, List.map_nil]

/-- The listener reads a reply that was taken in, and the calls that it is for find it. -/
theorem Filed.comes_heard (filed : o.Filed used) (m : Message) :
    let o' := o.withHub (o.board.bridge.hub.spread m)
    Comes used (o'.settled o'.board.settle) fun k =>
      (o.share k).close (fun c => Bridge.IsFor m c) fun _ => .ok m := by
  intro o'
  obtain ⟨id, listener, streams⟩ := filed.housed.listening
  have housed := filed.housed
  obtain ⟨queued, heard⟩ :=
    Bridge.listen_spread listener streams housed.seated.sound.capacity m
  have closes := filed.ready.closes_heard queued
  rw [heard] at closes
  -- The office at the moment when the listener has read the reply.
  let o'' : Office := { o with board := { o.board with bridge :=
    { o.board.bridge with registry := (o.board.bridge.registry.resolve m).1 } } }
  obtain ⟨filed', shares⟩ := Bridge.Closes.filed (o := o'') closes
    ⟨housed.seated, housed.numbers, housed.listening⟩ filed.booked fun _ => ⟨rfl, rfl⟩
  have unwritten : o'.board.writeAll = o'.board :=
    Switchboard.writeAll_of_drained (s := o'.board) housed.numbers.distinct
      fun x hx isOpen => ⟨_, housed.seated.drained x hx isOpen, rfl⟩
  have settle : o'.settled o'.board.settle = o''.settled (Switchboard.respond
      { o''.board with bridge := o'.board.bridge.settle.1 } o'.board.bridge.settle.2) := by
    rw [Switchboard.settle, unwritten]
    rfl
  rw [settle]
  exact ⟨filed', fun k => congrArg Prod.fst (shares k), fun k => congrArg Prod.snd (shares k)⟩

/-- After a reply of a peer, the calls on its channel that it is for end. -/
theorem Filed.heard (filed : o.Filed used) (p : Peer) (m : Message) :
    let o' := o.withHub (o.board.bridge.hub.reply p m).1
    Comes used (o'.settled o'.board.settle) fun k =>
      if p.channel = k then (o.share k).hear m else (o.share k, []) := by
  intro o'
  obtain ⟨id, listener, streams⟩ := filed.housed.listening
  have answer := Hub.reply_answer o.board.bridge.hub p m
  rcases Hub.reply_cases o.board.bridge.hub p m with ⟨⟨e, failed⟩, same⟩ | ⟨ok, sent⟩
  · -- The reply is too large, and nothing changes.
    have large : o.board.bridge.hub.limit < (m.stamped p.channel).size := by
      rw [failed] at answer
      split at answer
      · assumption
      · simp [streams] at answer
    have quiet : o' = o := by
      show o.withHub _ = o
      rw [same]
      rfl
    have nothing (k) : (if p.channel = k then (o.share k).hear m else (o.share k, [])) =
        (o.share k, []) := by
      split
      · next mine =>
        subst mine
        exact if_pos large
      · rfl
    simp only [quiet, nothing]
    exact filed.settle
  · -- The listener reads the reply, and the calls that it is for find it.
    have fits : ¬ o.board.bridge.hub.limit < (m.stamped p.channel).size := by
      intro large
      rw [ok, if_pos large] at answer
      cases answer
    have ends (k) : (if p.channel = k then (o.share k).hear m else (o.share k, [])) =
        (o.share k).close (fun c => Bridge.IsFor (m.stamped p.channel) c)
          fun _ => .ok (m.stamped p.channel) := by
      split
      · next mine =>
        subst mine
        exact if_neg fits
      · next other => exact (share_close_other other).symm
    have taken : o' = o.withHub (o.board.bridge.hub.spread (m.stamped p.channel)) :=
      congrArg o.withHub sent
    simp only [taken, ends]
    exact filed.comes_heard _

theorem Filed.comes_reply (filed : o.Filed used) {id : Nat} {p : Peer} (m : Message)
    (hid : (peersOf o.joined c)[n]? = some id) (found : o.board.bridge.hub.peer? id = some p) :
    Comes used (o.step (.peer c n (.reply m))) fun k =>
      (o.share k).step (.peer c n (.reply m)) := by
  have channel : p.channel = c :=
    filed.housed.seated.channel (mem_peersOf.mp (List.mem_of_getElem? hid)) found
  have act : o.act (.peer c n (.reply m)) =
      (o.withHub (o.board.bridge.hub.reply p m).1, []) := by
    simp only [Office.act, hid, peerAct, Hub.act, found]
  have peer := share_peer? hid
  rw [found, Option.map_some] at peer
  have heard := filed.heard p m
  rw [step_eq act (fun _ => Step.noConfusion)]
  refine .of_step heard.filed (fun k (mine : c = k) => ?_) fun k (other : c ≠ k) => ?_
  · subst mine
    have shares := heard.shares c
    have told := heard.told c
    rw [if_pos channel] at shares told
    simp only [Share.act, peer, Share.peerAct, List.nil_append]
    exact ⟨shares, told⟩
  · have shares := heard.shares k
    have told := heard.told k
    rw [if_neg fun mine => other (channel.symm.trans mine)] at shares told
    exact ⟨shares, told⟩

/-- A frame that is dropped is traffic. -/
theorem Filed.comes_dropped (filed : o.Filed used)
    (hx : (linesOf o.board.sessions c)[n]? = some x) (isOpen : x.isOpen = true)
    {bytes : List UInt8} {now : Timestamp}
    (dropped : Frame.read? o.board.limits.frame c now bytes = none) :
    Comes used (o.act (.line c n (.frame bytes now))) fun k =>
      (o.share k).step (.line c n (.frame bytes now)) := by
  obtain ⟨there, channel⟩ := mem_linesOf.mp (List.mem_of_getElem? hx)
  have found := filed.housed.open? there
  rw [if_pos isOpen] at found
  have bare : x.bare.isOpen = true := isOpen
  refine filed.comes_turn (y := x.touch o.board.bridge.now) hx ⟨rfl, rfl, rfl⟩ []
    (by simp [Session.touch]) (by simp) [] ?_ ?_
  · simp only [Office.act, hx, lineAct, Switchboard.frame, found, Switchboard.update_limits,
      channel, dropped]
    rfl
  · have dropped' : Frame.read? (o.share c).limits.frame (o.share c).channel now bytes = none :=
      dropped
    simp only [Share.act, share_line? hx, Share.lineAct, bare, if_true, dropped']
    rfl

/-- A frame that holds a message is traffic and a reply on the channel of its session. -/
theorem Filed.comes_message (filed : o.Filed used)
    (hx : (linesOf o.board.sessions c)[n]? = some x) (isOpen : x.isOpen = true)
    {bytes : List UInt8} {now : Timestamp} {m : Message}
    (read : Frame.read? o.board.limits.frame c now bytes = some m) :
    Comes used (o.step (.line c n (.frame bytes now))) fun k =>
      (o.share k).step (.line c n (.frame bytes now)) := by
  obtain ⟨there, channel⟩ := mem_linesOf.mp (List.mem_of_getElem? hx)
  have found := filed.housed.open? there
  rw [if_pos isOpen] at found
  have bare : x.bare.isOpen = true := isOpen
  -- First the session is touched, and then its peer replies.
  let o₁ : Office := { o with board :=
    (o.board.withHub (o.board.bridge.hub.without [])).update (x.touch o.board.bridge.now) }
  obtain ⟨touched, mine, others⟩ : o₁.Filed used ∧
      o₁.share c = (o.share c).put n (x.touch o.board.bridge.now).bare ∧
        ∀ k, c ≠ k → o₁.share k = o.share k :=
    filed.comes_line (y := x.touch o.board.bridge.now) hx ⟨rfl, rfl, rfl⟩ []
      (by simp [Session.touch]) (by simp)
  have peer := filed.housed.seated.drained x there isOpen
  have act : o.act (.line c n (.frame bytes now)) =
      (o₁.withHub (o₁.board.bridge.hub.reply ⟨x.peer, x.channel, []⟩ m).1, []) := by
    simp only [Office.act, hx, lineAct, Switchboard.frame, found, Switchboard.update_limits,
      channel, read, Switchboard.reply, Switchboard.update_bridge, peer]
    rfl
  have heard := touched.heard ⟨x.peer, x.channel, []⟩ m
  rw [step_eq act (fun _ => Step.noConfusion)]
  refine .of_step heard.filed (fun k (here : c = k) => ?_) fun k (other : c ≠ k) => ?_
  · subst here
    have shares := heard.shares c
    have told := heard.told c
    rw [if_pos channel, mine] at shares told
    have read' : Frame.read? (o.share c).limits.frame (o.share c).channel now bytes = some m :=
      read
    simp only [Share.act, share_line? hx, Share.lineAct, bare, if_true, read', List.nil_append]
    exact ⟨shares, told⟩
  · have shares := heard.shares k
    have told := heard.told k
    rw [if_neg fun mine => other (channel.symm.trans mine), others k other] at shares told
    exact ⟨shares, told⟩

theorem Filed.comes_frame (filed : o.Filed used) (hx : (linesOf o.board.sessions c)[n]? = some x)
    (isOpen : x.isOpen = true) (bytes : List UInt8) (now : Timestamp) :
    Comes used (o.step (.line c n (.frame bytes now))) fun k =>
      (o.share k).step (.line c n (.frame bytes now)) := by
  cases read : Frame.read? o.board.limits.frame c now bytes with
  | none =>
    rw [step_eq rfl (fun _ => Step.noConfusion)]
    exact (filed.comes_dropped hx isOpen read).settle
  | some m => exact filed.comes_message hx isOpen read

/-! ## The clock -/

/-- The peers of the sessions that are idle. -/
def idlers (o : Office) (now : Instant) : List Nat :=
  (o.board.sessions.filter fun x => x.isIdle o.board.limits.idle now).map (·.peer)

/-- The office when the clock has moved on and the idle sessions have ended. -/
def later (o : Office) (span : Span) : Office :=
  let now := o.board.bridge.now.after span
  { o with board := { o.board with
      bridge := { o.board.bridge.ticked span with
        hub := o.board.bridge.hub.without (o.idlers now) }
      sessions := o.board.sessions.map (Switchboard.cleared o.board.limits.idle now) } }

theorem Housed.later (housed : o.Housed) (span : Span) : (o.later span).Housed := by
  have kept (x) : (Switchboard.cleared o.board.limits.idle (o.board.bridge.now.after span) x).peer =
        x.peer ∧
      (Switchboard.cleared o.board.limits.idle (o.board.bridge.now.after span) x).channel =
        x.channel ∧
      (Switchboard.cleared o.board.limits.idle (o.board.bridge.now.after span) x).number =
        x.number := by
    unfold Switchboard.cleared
    split <;> exact ⟨rfl, rfl, rfl⟩
  refine ⟨housed.seated.without _ (fun x _ => ⟨(kept x).1, (kept x).2.1⟩) fun x hx => ?_, ?_, ?_⟩
  · have idle : x.peer ∈ o.idlers (o.board.bridge.now.after span) ↔
        x.isIdle o.board.limits.idle (o.board.bridge.now.after span) = true := by
      rw [idlers, List.mem_map]
      constructor
      · rintro ⟨z, hz, same⟩
        obtain ⟨there, idle⟩ := List.mem_filter.mp hz
        have peers := (List.nodup_append.mp housed.seated.ids.distinct).1
        rwa [← List.inj_on_of_nodup_map peers there hx same]
      · exact fun idle => ⟨x, List.mem_filter.mpr ⟨hx, idle⟩, rfl⟩
    rw [idle, Switchboard.cleared]
    split
    · next idle => simp [Session.finish, idle]
    · next busy => simp [busy]
  · have numbers : (o.later span).board.sessions.map (·.number) =
        o.board.sessions.map (·.number) := by
      rw [Office.later, List.map_map]
      exact List.map_congr_left fun x _ => (kept x).2.2
    rw [numbers]
    exact housed.numbers
  · obtain ⟨id, listener, drained⟩ := housed.listening
    exact ⟨id, listener, Hub.streams_without.trans drained⟩

theorem Housed.share_later (housed : o.Housed) (span : Span) (k : String) :
    (o.later span).share k = { o.share k with
      now := o.board.bridge.now.after span
      lines := (o.share k).lines.map
        (Switchboard.cleared o.board.limits.idle (o.board.bridge.now.after span)) } := by
  have queues : queues (o.board.bridge.hub.without (o.idlers (o.board.bridge.now.after span)))
      o.joined k = queues o.board.bridge.hub o.joined k := by
    refine housed.seated.queues_without (fun id gone => ?_) k
    obtain ⟨x, hx, same⟩ := List.mem_map.mp gone
    exact ⟨x, List.mem_of_mem_filter hx, same⟩
  have fixed := Hub.fixed_without o.board.bridge.hub
    (o.idlers (o.board.bridge.now.after span))
  show Share.mk k (o.board.bridge.hub.without _).capacity (o.board.bridge.hub.without _).limit _ _
    (PaymentRelay.queues (o.board.bridge.hub.without _) o.joined k)
    (lines (o.board.sessions.map _) k) _ = _
  rw [fixed.1, fixed.2, queues, lines_cleared]
  rfl

/-- When the clock moves on, the sessions that are idle then end, and the calls that are due. -/
theorem Filed.comes_advance (filed : o.Filed used) (span : Span) :
    Comes used (o.step (.advance span)) fun k => (o.share k).step (.advance span) := by
  have housed := filed.housed
  have closes := filed.ready.closes_advance span
  let x := o.board.bridge.advance span
  let hub := o.board.bridge.hub.without (o.idlers (o.board.bridge.now.after span))
  let early : Switchboard := { o.board with bridge := x.1 }
  let late : Switchboard := { (o.later span).board with bridge := { x.1 with hub } }
  have silent : Bridge.unread { x.1 with hub } = [] :=
    housed.unread closes.around.listener Hub.streams_without
  have ended : early.finishIdle = late := by
    rw [Switchboard.finishIdle_eq (s := early) housed.numbers.distinct]
    simp only [Switchboard.withHub, early, late, x, closes.around.now, closes.around.hub]
    rfl
  let y := (o.later span).settled (late.respond x.2)
  have comes : Comes used y fun k => ((o.later span).share k).close
      (fun c => c.deadline ≤ o.board.bridge.now.after span) Bridge.timedOut := by
    obtain ⟨filed', shares⟩ := Bridge.Closes.filed (o := o.later span) (closes.withHub silent)
      (housed.later span) filed.booked fun _ => ⟨rfl, rfl⟩
    exact ⟨filed', fun k => congrArg Prod.fst (shares k), fun k => congrArg Prod.snd (shares k)⟩
  have step : o.step (.advance span) =
      ((y.1.settled y.1.board.settle).1, y.2 ++ (y.1.settled y.1.board.settle).2) := by
    have advance : o.board.advance span =
        ((late.respond x.2).1.settle.1, (late.respond x.2).2 ++ (late.respond x.2).1.settle.2) := by
      rw [← ended]
      rfl
    rw [Office.step, advance, (o.later span).settled_twice]
    rfl
  rw [step]
  have settled := comes.settle
  refine .of_step settled.filed (fun k _ => ?_) fun k no => absurd trivial no
  have share := housed.share_later span k
  refine ⟨(settled.shares k).trans ?_, (settled.told k).trans ?_⟩ <;>
  · rw [share]
    rfl

end

end Office

end PaymentRelay
