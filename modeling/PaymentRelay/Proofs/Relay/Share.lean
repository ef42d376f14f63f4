import PaymentRelay.Proofs.Relay.Office

/-
  The share that one invoice has in the relay.

  A share is what one invoice has of an office: the queues of its peers, its sessions and its
  requests that wait, with nothing in it that depends on other invoices; so numbers, tickets and the
  ids of peers are left out. It is a machine of its own (`Share.step`), in which the steps about
  other invoices do nothing. An office that has settled is in order (`Filed`), and then the calls
  that end when it settles again are, for each invoice, those that end in its share
  (`Closes.filed`).
-/

namespace PaymentRelay

/-- A request that waits: its client, its call and its job, without their numbers. -/
structure Wait where
  client : Nat
  call : Call
  job : Job

/-- What one invoice has of an office. -/
structure Share where
  channel : String
  capacity : Nat
  limit : Nat
  limits : Limits
  now : Instant
  /-- What the peers have not read that have joined the hub themselves; nothing for those that have
  left. -/
  peers : List (Option (List Message))
  lines : List Session
  waits : List Wait

namespace Share

open Office (Event PeerAct LineAct)

/-- Some calls end: their requests are answered, and wait no longer. -/
def close (s : Share) (ends : Call → Bool) (f : Call → Outcome) : Share × List Event :=
  ({ s with waits := s.waits.filter fun w => !ends w.call },
    (s.waits.filter fun w => ends w.call).map fun w =>
      .response w.client (w.job.respond (f w.call)))

/-- The calls that are due end. -/
def expire (s : Share) : Share × List Event :=
  s.close (fun c => c.deadline ≤ s.now) Bridge.timedOut

/-- A reply on the channel: the calls that it is for end. -/
def hear (s : Share) (m : Message) : Share × List Event :=
  if s.limit < (m.stamped s.channel).size then (s, [])
  else s.close (fun c => Bridge.IsFor (m.stamped s.channel) c) fun _ => .ok (m.stamped s.channel)

/-- Why a message is not published. -/
def refusal? (s : Share) (m : Message) : Option BusError :=
  if s.limit < m.size then some (.tooLarge m.size s.limit)
  else if isServed s.peers s.lines = false then some (.channelNotFound s.channel)
  else none

/-- A message is published, and written to the wallets. -/
def publish (s : Share) (m : Message) : Share :=
  { s with
    peers := s.peers.map (Option.map fun q => enqueue s.capacity q m)
    lines := s.lines.map fun x => if x.isOpen then x.put (.message m) s.now else x }

/-- A request with its message waits. -/
def await (s : Share) (client : Nat) (e : Errand) (q : Question) (m : Message) (errorId : String)
    (head : Bool) : Share :=
  { s with waits := s.waits ++
      [⟨client, ⟨0, m.correlation, s.channel, 0, s.now, s.now.after s.limits.reply, .background,
        .waiting⟩, ⟨0, e, q, errorId, head⟩⟩] }

/-- An errand is taken to the wallets. -/
def carryOut (s : Share) (client : Nat) (e : Errand) (stamp : Stamp) (head : Bool) :
    Share × List Event :=
  match Socket.dispatch e stamp with
  | .notice m =>
    match s.refusal? m with
    | some why => (s, [.response client
        (.toErrand e false (Socket.concludeNotice (.error (.ofBus why))))])
    | none => (s.publish m, [.response client
        (.toErrand e false (Socket.concludeNotice (.ok ())))])
  | .call q m =>
    match s.refusal? m with
    | some why => (s, [.response client
        (.toErrand e head (Socket.conclude stamp.errorId q (.error (.ofBus why))))])
    | none => ((s.publish m).await client e q m stamp.errorId head).expire

/-- A client makes a request. -/
def request (s : Share) (client : Nat) (q : Http.Request) (stamp : Stamp) : Share × List Event :=
  match Http.Verdict.of true q with
  | .respond r => (s, [.response client r])
  | .errand e => s.carryOut client e stamp q.isHead
  | .connect _ => ({ s with lines := s.lines ++ [.new 0 0 s.channel s.now] }, [.connected client])

/-- A peer does something that has not read some messages. -/
def peerAct (s : Share) (n : Nat) (unread : List Message) : PeerAct → Share × List Event
  | .leave => ({ s with peers := s.peers.set n none }, [])
  | .reply m => s.hear m
  | .receive =>
    match unread with
    | [] => (s, [])
    | m :: rest => ({ s with peers := s.peers.set n (some rest) }, [.received n m])

/-- A session is put in its place. -/
def put (s : Share) (n : Nat) (x : Session) : Share := { s with lines := s.lines.set n x }

/-- The wallet of a session does something. -/
def lineAct (s : Share) (n : Nat) (x : Session) : LineAct → Share × List Event
  | .frame bytes now =>
    if x.isOpen then
      match Frame.read? s.limits.frame s.channel now bytes with
      | some m => (s.put n (x.touch s.now)).hear m
      | none => (s.put n (x.touch s.now), [])
    else (s, [])
  | .ping content => if x.isOpen then (s.put n (x.put (.pong content) s.now), []) else (s, [])
  | .hangUp => if x.isOpen then (s.put n (x.finish [.close]), []) else (s, [])
  | .cut => if x.isOpen then (s.put n (x.finish []), []) else (s, [])
  | .read =>
    match x.unread with
    | [] => (s, [])
    | o :: rest => (s.put n { x with unread := rest }, [.read n o])

/-- What a step about the invoice does. -/
def act (s : Share) : Office.Step → Share × List Event
  | .request client q stamp => s.request client q stamp
  | .join _ => ({ s with peers := s.peers ++ [some []] }, [])
  | .peer _ n act =>
    match s.peers[n]? with
    | some (some unread) => s.peerAct n unread act
    | _ => (s, [])
  | .line _ n act =>
    match s.lines[n]? with
    | some x => s.lineAct n x act
    | none => (s, [])
  | .advance span =>
    let s := { s with now := s.now.after span }
    { s with lines := s.lines.map (Switchboard.cleared s.limits.idle s.now) }.expire

/-- The share as a machine. -/
def step : Machine Share Office.Step (List Event) := fun s a =>
  if a.Concerns s.channel then s.act a else (s, [])

end Share

/-- A request that waits, with its client. -/
def Wait.of (asked : Nat → Option String × Nat) (w : Call × Job) : Wait :=
  ⟨(asked w.1.number).2, { w.1 with number := 0, ticket := 0 }, { w.2 with number := 0 }⟩

/-- The requests about an invoice that wait. -/
def waits (calls : List Call) (jobs : List Job) (asked : Nat → Option String × Nat) (k : String) :
    List Wait :=
  ((calls.zip jobs).filter fun w => w.1.channel = k).map (Wait.of asked)

/-- The requests that wait are those of the calls, and are known to be about their channels. -/
structure Booked (used : List String) (calls : List Call) (jobs : List Job)
    (asked : Nat → Option String × Nat) : Prop where
  numbers : calls.map (·.number) = jobs.map (·.number)
  own : ∀ c ∈ calls, (asked c.number).1 = some c.channel
  known : ∀ c ∈ calls, c.correlation ∈ used

namespace Office

/-- What an invoice has of an office. -/
def share (o : Office) (k : String) : Share where
  channel := k
  capacity := o.board.bridge.hub.capacity
  limit := o.board.bridge.hub.limit
  limits := o.board.limits
  now := o.board.bridge.now
  peers := queues o.board.bridge.hub o.joined k
  lines := lines o.board.sessions k
  waits := waits o.board.bridge.calls o.board.jobs o.asked k

/-- Everybody is in place, and no reply is unread. -/
structure Housed (o : Office) : Prop where
  seated : Seated o.board.bridge.hub o.joined o.board.sessions
  numbers : Hub.Issued o.board.nextSession (o.board.sessions.map (·.number))
  listening : ∃ id, o.board.bridge.listener = some id ∧ o.board.bridge.hub.streams = [⟨id, []⟩]

/-- An office that has settled, in which these correlation ids have been used. -/
structure Filed (used : List String) (o : Office) : Prop where
  housed : o.Housed
  ready : o.board.bridge.Ready
  booked : Booked used o.board.bridge.calls o.board.jobs o.asked

end Office

/-! ## Calls that end -/

section
variable {used : List String} {calls : List Call} {jobs : List Job}
  {asked : Nat → Option String × Nat} {ends : Call → Bool} {f : Call → Outcome}

theorem Booked.numbers_zip (booked : Booked used calls jobs asked) {w : Call × Job}
    (hw : w ∈ calls.zip jobs) : w.2.number = w.1.number := by
  obtain ⟨i, hi⟩ := List.mem_iff_getElem?.mp hw
  obtain ⟨hc, hj⟩ := List.getElem?_zip_eq_some.mp hi
  have same := congrArg (·[i]?) booked.numbers
  simpa [hc, hj] using same.symm

theorem Booked.zip_fst (booked : Booked used calls jobs asked) :
    (calls.zip jobs).map (·.1) = calls :=
  List.map_fst_zip (Nat.le_of_eq (by simpa using congrArg List.length booked.numbers))

theorem Booked.zip_snd (booked : Booked used calls jobs asked) :
    (calls.zip jobs).map (·.2) = jobs :=
  List.map_snd_zip (Nat.le_of_eq (by simpa using (congrArg List.length booked.numbers).symm))

/-- The requests whose calls have ended are answered in the order of the calls. -/
theorem Booked.respond (booked : Booked used calls jobs asked) (ends : Call → Bool)
    (f : Call → Outcome) (distinct : (calls.map (·.number)).Nodup) (s : Switchboard)
    (same : s.jobs = jobs) :
    s.respond ((calls.filter ends).map fun c => (c.number, f c)) =
      ({ s with jobs := ((calls.zip jobs).filter fun w => !ends w.1).map (·.2) },
        ((calls.zip jobs).filter fun w => ends w.1).map fun w =>
          (w.1.number, w.2.respond (f w.1))) := by
  let pairs := calls.zip jobs
  have fst : pairs.map (·.1) = calls := booked.zip_fst
  have snd : pairs.map (·.2) = jobs := booked.zip_snd
  have ended : (calls.filter ends).map (fun c => (c.number, f c)) =
      (pairs.filter fun w => ends w.1).map fun w => (w.1.number, f w.1) := by
    rw [← fst, List.filter_map, List.map_map]
    rfl
  have keys : (pairs.map fun w => w.1.number).Nodup := by
    have same : (pairs.map fun w => w.1.number) = calls.map (·.number) := by
      rw [← fst, List.map_map]
      rfl
    rwa [same]
  have endedKeys : (((pairs.filter fun w => ends w.1).map fun w => (w.1.number, f w.1)).map
      (·.1)) = (pairs.filter fun w => ends w.1).map fun w => w.1.number := List.map_map
  rw [ended, Switchboard.respond_eq s (endedKeys ▸ keys.sublist (List.filter_sublist.map _)),
    endedKeys, same]
  congr 1
  · congr 1
    conv_lhs => rw [← snd, List.filter_map]
    congr 1
    refine List.filter_congr fun w hw => ?_
    have number : w.2.number = w.1.number := booked.numbers_zip hw
    have answered : w.1.number ∈ (pairs.filter fun w => ends w.1).map (fun w => w.1.number) ↔
        ends w.1 = true := by
      rw [List.mem_map]
      constructor
      · rintro ⟨v, hv, eq⟩
        obtain ⟨there, ends⟩ := List.mem_filter.mp hv
        rwa [← List.inj_on_of_nodup_map keys there hw eq]
      · exact fun ends => ⟨w, List.mem_filter.mpr ⟨hw, ends⟩, rfl⟩
    simp only [Function.comp_apply, number, answered]
    cases ends w.1 <;> rfl
  · rw [List.filterMap_map, ← List.filterMap_eq_map]
    refine List.filterMap_congr fun w hw => ?_
    have there : w ∈ pairs := List.mem_of_mem_filter hw
    have number : w.2.number = w.1.number := booked.numbers_zip there
    have job : w.2 ∈ jobs := snd ▸ List.mem_map_of_mem there
    have found : (jobs.find? fun j => j.number = w.1.number) = some w.2 :=
      number ▸ find?_of_key (booked.numbers ▸ distinct) job
    simp only [Function.comp_apply, found, Option.map_some]

theorem Booked.filter (booked : Booked used calls jobs asked) (p : Call → Bool) :
    Booked used (calls.filter p) (((calls.zip jobs).filter fun w => p w.1).map (·.2)) asked where
  numbers := by
    conv_lhs => rw [← booked.zip_fst, List.filter_map, List.map_map]
    rw [List.map_map]
    refine List.map_congr_left fun w hw => ?_
    exact (booked.numbers_zip (List.mem_of_mem_filter hw)).symm
  own c hc := booked.own c (List.mem_of_mem_filter hc)
  known c hc := booked.known c (List.mem_of_mem_filter hc)

/-- What is left of the requests when some calls have ended. -/
theorem Booked.waits_filter (booked : Booked used calls jobs asked) {p : Call → Bool}
    (bare : ∀ c : Call, p { c with number := 0, ticket := 0 } = p c) (k : String) :
    waits (calls.filter p) (((calls.zip jobs).filter fun w => p w.1).map (·.2)) asked k =
      (waits calls jobs asked k).filter fun w => p w.call := by
  have zip : (calls.filter p).zip (((calls.zip jobs).filter fun w => p w.1).map (·.2)) =
      (calls.zip jobs).filter fun w => p w.1 := by
    have fst : calls.filter p = ((calls.zip jobs).filter fun w => p w.1).map (·.1) := by
      conv_lhs => rw [← booked.zip_fst, List.filter_map]
      rfl
    rw [fst]
    exact (List.zip_of_prod rfl rfl).symm
  have kept (w : Call × Job) : p (Wait.of asked w).call = p w.1 := bare w.1
  rw [waits, zip, waits, List.filter_map, List.filter_filter, List.filter_filter]
  congr 1
  refine List.filter_congr fun w _ => ?_
  rw [Function.comp_apply, kept, Bool.and_comm]

/-- An invoice is told of the requests about it whose calls have ended. -/
theorem Booked.told_ended (booked : Booked used calls jobs asked)
    (bare : ∀ c : Call, ends { c with number := 0, ticket := 0 } = ends c ∧
      f { c with number := 0, ticket := 0 } = f c) (k : String) :
    Office.told k (((calls.zip jobs).filter fun w => ends w.1).map fun w =>
        ((asked w.1.number).1, .response (asked w.1.number).2 (w.2.respond (f w.1)))) =
      ((waits calls jobs asked k).filter fun w => ends w.call).map fun w =>
        .response w.client (w.job.respond (f w.call)) := by
  rw [Office.told, waits, List.filterMap_map, List.filter_map, List.map_map, List.filter_filter,
    ← List.filterMap_eq_map, ← List.filterMap_eq_filter, ← List.filterMap_eq_filter,
    List.filterMap_filterMap, List.filterMap_filterMap]
  refine List.filterMap_congr fun w hw => ?_
  have about : (asked w.1.number).1 = some w.1.channel := booked.own w.1 (List.of_mem_zip hw).1
  obtain ⟨same, outcome⟩ := bare w.1
  rcases eq_or_ne w.1.channel k with rfl | other
  · by_cases ended : ends w.1 = true <;>
      simp [Option.guard, ended, Wait.of, Job.respond, about, same, outcome]
  · by_cases ended : ends w.1 = true <;> simp [Option.guard, ended, other, about]

/-- The office when calls have ended: their requests wait no longer, and are answered. -/
theorem Bridge.Closes.settled {o : Office} {x : Bridge × List (Nat × Outcome)}
    (closes : Closes o.board.bridge x ends f)
    (booked : Booked used o.board.bridge.calls o.board.jobs o.asked) :
    o.settled (Switchboard.respond { o.board with bridge := x.1 } x.2) =
      ({ o with board := { o.board with
          bridge := x.1
          jobs := ((o.board.bridge.calls.zip o.board.jobs).filter fun w => !ends w.1).map
            (·.2) } },
        ((o.board.bridge.calls.zip o.board.jobs).filter fun w => ends w.1).map fun w =>
          ((o.asked w.1.number).1,
            .response (o.asked w.1.number).2 (w.2.respond (f w.1)))) := by
  have distinct : (o.board.bridge.calls.map (·.number)).Nodup :=
    List.pairwise_map.mpr (closes.sound.distinct.imp And.left)
  rw [closes.told, booked.respond ends f distinct { o.board with bridge := x.1 } rfl,
    Office.settled, List.map_map]
  rfl

/-- The calls that end when an office settles are, for each invoice, those that end in its
share. -/
theorem Bridge.Closes.filed {o : Office} {x : Bridge × List (Nat × Outcome)}
    (closes : Closes o.board.bridge x ends f) (housed : o.Housed)
    (booked : Booked used o.board.bridge.calls o.board.jobs o.asked)
    (bare : ∀ c : Call, ends { c with number := 0, ticket := 0 } = ends c ∧
      f { c with number := 0, ticket := 0 } = f c) :
    let y := o.settled (Switchboard.respond { o.board with bridge := x.1 } x.2)
    y.1.Filed used ∧
      ∀ k, (y.1.share k, Office.told k y.2) = (o.share k).close ends f := by
  intro y
  obtain ⟨board, reports⟩ := Prod.ext_iff.mp (closes.settled booked)
  have filed : Office.Filed used { o with board := { o.board with
      bridge := x.1
      jobs := ((o.board.bridge.calls.zip o.board.jobs).filter fun w => !ends w.1).map (·.2) } } :=
    ⟨⟨closes.around.hub ▸ housed.seated, housed.numbers,
      closes.around.hub ▸ closes.around.listener ▸ housed.listening⟩, closes.ready,
      closes.calls ▸ booked.filter _⟩
  have rest (k) : waits x.1.calls
      (((o.board.bridge.calls.zip o.board.jobs).filter fun w => !ends w.1).map (·.2)) o.asked k =
      (waits o.board.bridge.calls o.board.jobs o.asked k).filter fun w => !ends w.call := by
    rw [closes.calls]
    exact booked.waits_filter (p := fun c => !ends c) (fun c => congrArg _ (bare c).1) k
  refine ⟨board ▸ filed, fun k => Prod.ext ?_ ?_⟩
  · rw [show y.1 = _ from board]
    simp only [Office.share, closes.around.hub, closes.around.now, rest, Share.close]
  · rw [show y.2 = _ from reports]
    exact booked.told_ended bare k

end

end PaymentRelay
