import PaymentRelay.Proofs.Bridge.Sweeping
import PaymentRelay.Proofs.Hub.Act

/-
  What settling does to a bridge, and what it tells.

  In calm each call has at most one reason to end. When all calls have looked, those with a reason
  have ended with it, in the order of the calls, and the others are what they were
  (`Calm.pollEach_all`). So each step of the program comes to the same thing: some calls end, each
  in its own way, and nothing else is different (`Closes`). After a step that neither replies nor
  starts a call, none ends (`Ready.closes`); after a reply, the one that it is for
  (`Ready.closes_heard`); after a call was started and when the clock has moved on, those that are
  due (`Ready.closes_dialled`, `Ready.closes_advance`).
-/

namespace PaymentRelay

namespace Bridge

/-- Everything is the same but the registry, the calls and the sweepers. -/
structure Around (b b' : Bridge) : Prop where
  hub : b'.hub = b.hub
  listener : b'.listener = b.listener
  signals : b'.signals = b.signals
  nextCall : b'.nextCall = b.nextCall
  now : b'.now = b.now

/-- What is told of a call when it looks. -/
def closing (b : Bridge) (c : Call) : Option (Nat × Outcome) :=
  (b.prospect c).map fun o => (c.number, o)

/-- The bridge when the clock has moved on, and nothing else has happened. -/
def ticked (b : Bridge) (span : Span) : Bridge := { b with now := b.now.after span }

/-- Between a step and its settling. -/
structure Poised (b : Bridge) : Prop where
  calm : b.Calm
  dated : b.Dated
  /-- No call has been due for as long as a sweep waits. -/
  early : ∀ c ∈ b.calls, b.now < c.deadline.after sweepGrace

/-- When everything has settled. -/
structure Ready (b : Bridge) : Prop where
  calm : b.Calm
  dated : b.Dated
  silent : b.unread = []
  quiet : ∀ c ∈ b.calls, b.prospect c = none

/-- Some calls of a bridge have ended, and nothing else is different: what the bridge is then, and
what is told of the calls. -/
structure Closes (b : Bridge) (x : Bridge × List (Nat × Outcome)) (ends : Call → Bool)
    (f : Call → Outcome) : Prop where
  sound : b.Sound
  told : x.2 = (b.calls.filter ends).map fun c => (c.number, f c)
  around : Around b x.1
  calls : x.1.calls = b.calls.filter fun c => !ends c
  ready : x.1.Ready

section
variable {b b' b'' : Bridge} {c : Call}

theorem Around.refl (b : Bridge) : Around b b := ⟨rfl, rfl, rfl, rfl, rfl⟩

theorem Around.trans (h : Around b b') (h' : Around b' b'') : Around b b'' :=
  ⟨h'.hub.trans h.hub, h'.listener.trans h.listener, h'.signals.trans h.signals,
    h'.nextCall.trans h.nextCall, h'.now.trans h.now⟩

/-- Acts keep the deadlines of entries and calls together. -/
theorem Turns.dated {ended : List (Nat × Outcome)} (h : Turns b b' ended) (sound : b.Sound)
    (dated : b.Dated) : b'.Dated := by
  obtain ⟨acts, _, rfl, _⟩ := h
  exact (act.after_keeps (P := fun b => b.Sound ∧ b.Dated)
    (fun _ a kept => ⟨sound_act kept.1 a, kept.1.dated_act kept.2 a⟩) ⟨sound, dated⟩ acts).2

/-- A call that looks ends if it has a reason, and is what it was if it has none. -/
theorem Calm.pollFully_eq (calm : b.Calm) (hc : c ∈ b.calls) :
    (b.pollFully c.number).2 = b.prospect c ∧ Around b (b.pollFully c.number).1 ∧
      (b.pollFully c.number).1.calls =
        b.calls.filter (fun d => (b.prospect d).isNone || decide (d.number ≠ c.number)) ∧
      ∀ d ∈ (b.pollFully c.number).1.calls, (b.pollFully c.number).1.prospect d = b.prospect d := by
  have alone (d) (hd : d ∈ b.calls) (same : d.number = c.number) : d = c :=
    calm.sound.unique hc d hd same
  rcases calm.pollFully_cases hc with ⟨stays, quiet⟩ | ⟨branch, o, r, ends, turn, same⟩
  · rw [stays]
    refine ⟨quiet.symm, .refl b, (List.filter_eq_self.mpr fun d hd => ?_).symm, fun _ _ => rfl⟩
    by_cases own : d.number = c.number
    · simp [alone d hd own, quiet]
    · simp [own]
  · rcases calm.poll_cases hc branch with still | ⟨o', r', ends', prospect, _⟩
    · rw [still] at turn
      cases congrArg Prod.snd turn
    · rw [turn] at ends'
      obtain rfl : o = o' := Option.some.inj (congrArg Prod.snd ends')
      rw [ends]
      refine ⟨prospect.symm, ⟨rfl, rfl, rfl, rfl, rfl⟩, List.filter_congr fun d hd => ?_,
        fun d hd => ?_⟩
      · by_cases own : d.number = c.number
        · simp [alone d hd own, prospect]
        · simp [own]
      · obtain ⟨_, content⟩ := sameProspects_depart same d hd
        exact prospect_congr content rfl rfl

/-- When calls look one after another, those with a reason end with it, and the rest are what they
were. -/
theorem Calm.pollEach_eq (calm : b.Calm) {cs : List Call} (inFlight : ∀ c ∈ cs, c ∈ b.calls)
    (distinct : cs.Pairwise fun c d => c.number ≠ d.number) :
    (b.pollEach (cs.map (·.number))).2 = cs.filterMap b.closing ∧
      Around b (b.pollEach (cs.map (·.number))).1 ∧
      (b.pollEach (cs.map (·.number))).1.calls =
        b.calls.filter fun d =>
          (b.prospect d).isNone || decide (∀ c ∈ cs, d.number ≠ c.number) := by
  induction cs generalizing b with
  | nil => simp [pollEach, Around.refl]
  | cons c rest ih =>
    obtain ⟨told, around, calls, prospects⟩ :=
      calm.pollFully_eq (inFlight c (List.mem_cons_self ..))
    obtain ⟨apart, distinct⟩ := List.pairwise_cons.mp distinct
    obtain ⟨turns, _, _⟩ := calm.pollFully_turns c.number
    have bridge : (b.pollEach ((c :: rest).map (·.number))).1 =
        ((b.pollFully c.number).1.pollEach (rest.map (·.number))).1 := by
      simp only [List.map_cons, pollEach]
      split <;> rfl
    have ended : (b.pollEach ((c :: rest).map (·.number))).2 =
        (b.closing c).toList ++ ((b.pollFully c.number).1.pollEach (rest.map (·.number))).2 := by
      simp only [List.map_cons, pollEach, closing, ← told]
      cases (b.pollFully c.number).2 <;> rfl
    -- The calls that look later are still in flight, with the reasons that they had.
    have later (d) (hd : d ∈ rest) : d ∈ (b.pollFully c.number).1.calls := by
      rw [calls, List.mem_filter]
      exact ⟨inFlight d (List.mem_cons_of_mem _ hd), by simp [Ne.symm (apart d hd)]⟩
    obtain ⟨told', around', calls'⟩ := ih (turns.calm calm) later distinct
    rw [bridge, ended, told', calls', calls]
    refine ⟨?_, around.trans around', ?_⟩
    · have same : rest.filterMap (b.pollFully c.number).1.closing = rest.filterMap b.closing :=
        List.filterMap_congr fun d hd => by rw [closing, prospects d (later d hd), closing]
      rw [same, List.filterMap_cons]
      cases b.closing c <;> rfl
    · rw [List.filter_filter]
      refine List.filter_congr fun d hd => ?_
      by_cases stays : d ∈ (b.pollFully c.number).1.calls
      · have kept := stays
        rw [calls, List.mem_filter] at kept
        rw [prospects d stays, kept.2]
        cases hp : b.prospect d with
        | none => simp
        | some o =>
          have other : d.number ≠ c.number := by simpa [hp] using kept.2
          simp [other]
      · rw [calls, List.mem_filter] at stays
        have gone : ((b.prospect d).isNone || decide (d.number ≠ c.number)) = false :=
          Bool.eq_false_iff.mpr fun kept => stays ⟨hd, kept⟩
        rw [gone, Bool.and_false]
        simp_all

/-- When all calls have looked, those with a reason have ended, and the rest are what they were. -/
theorem Calm.pollEach_all (calm : b.Calm) (dated : b.Dated) :
    (b.pollEach (b.calls.map (·.number))).2 = b.calls.filterMap b.closing ∧
      Around b (b.pollEach (b.calls.map (·.number))).1 ∧
      (b.pollEach (b.calls.map (·.number))).1.calls =
        b.calls.filter (fun d => (b.prospect d).isNone) ∧
      (b.pollEach (b.calls.map (·.number))).1.Calm ∧
      (b.pollEach (b.calls.map (·.number))).1.Dated ∧
      (b.pollEach (b.calls.map (·.number))).1.unread = b.unread ∧
      ∀ d ∈ (b.pollEach (b.calls.map (·.number))).1.calls,
        (b.pollEach (b.calls.map (·.number))).1.prospect d = none := by
  obtain ⟨told, around, calls⟩ :=
    calm.pollEach_eq (fun _ => id) (calm.sound.distinct.imp And.left)
  obtain ⟨turns, leaves, quiet⟩ := calm.pollEach_turns (b.calls.map (·.number))
  refine ⟨told, around, ?_, turns.calm calm, turns.dated calm.sound dated, leaves.unread, ?_⟩
  · rw [calls]
    refine List.filter_congr fun d hd => ?_
    have looked : ¬ ∀ c ∈ b.calls, d.number ≠ c.number := fun others => others d hd rfl
    simp [looked]
  · exact fun d hd => quiet d hd (List.mem_map_of_mem (leaves.prospects d hd).1)

/-- Where some calls have a reason to end, these end with it, and the others stay. -/
theorem closings_of_prospects {ends : Call → Bool} {f : Call → Outcome}
    (prospect : ∀ c ∈ b.calls, b.prospect c = if ends c then some (f c) else none) :
    b.calls.filterMap b.closing = (b.calls.filter ends).map (fun c => (c.number, f c)) ∧
      b.calls.filter (fun c => (b.prospect c).isNone) = b.calls.filter fun c => !ends c := by
  refine ⟨?_, List.filter_congr fun c hc => ?_⟩
  · rw [← List.filterMap_eq_map, ← List.filterMap_eq_filter, List.filterMap_filterMap]
    refine List.filterMap_congr fun c hc => ?_
    rw [closing, prospect c hc]
    cases h : ends c <;> simp [h, Option.guard]
  · rw [prospect c hc]
    cases ends c <;> rfl

/-- A call that waits ends when it is due. -/
theorem prospect_of_waiting (waits : b.registry.content c.ticket = .waiting)
    (uncancelled : c.context.isCancelled b.signals = false) :
    b.prospect c = if decide (c.deadline ≤ b.now) then some (timedOut c) else none := by
  by_cases due : c.deadline ≤ b.now
  · simp [due, prospect_of_due waits due]
  · simpa [due] using prospect_eq_none_iff.mpr ⟨waits, due, uncancelled⟩

/-! ## Settling -/

theorem Ready.poised (ready : b.Ready) : b.Poised :=
  ⟨ready.calm, ready.dated, fun c hc => Instant.lt_after_of_not_le
    (prospect_eq_none_iff.mp (ready.quiet c hc)).2.1 sweepGrace⟩

/-- A round of the sweepers moves them on, and nothing else. -/
theorem Poised.sweepDue_eq (poised : b.Poised) : ∃ ss, b.sweepDue = { b with sweepers := ss } :=
  ⟨_, Spared.sweepDue_eq ⟨poised.calm, poised.dated, fun _ => poised.early⟩⟩

/-- Settling where nothing is unread: the calls that have a reason end. -/
theorem Poised.settle_silent (poised : b.Poised) (silent : b.unread = []) :
    b.settle.2 = b.calls.filterMap b.closing ∧ Around b b.settle.1 ∧
      b.settle.1.calls = b.calls.filter (fun d => (b.prospect d).isNone) ∧ b.settle.1.Ready := by
  obtain ⟨ss, swept⟩ := poised.sweepDue_eq
  have settle : b.settle = pollEach { b with sweepers := ss } (b.calls.map (·.number)) := by
    simp only [settle, listenAll_eq, silent, List.foldl_nil, swept]
  obtain ⟨told, around, calls, calm, dated, unread, quiet⟩ :=
    (poised.calm.sweepers ss).pollEach_all poised.dated
  rw [settle]
  exact ⟨told, ⟨around.hub, around.listener, around.signals, around.nextCall, around.now⟩, calls,
    calm, dated, unread.trans silent, quiet⟩

theorem Poised.closes (poised : b.Poised) (silent : b.unread = []) {ends : Call → Bool}
    {f : Call → Outcome}
    (prospect : ∀ c ∈ b.calls, b.prospect c = if ends c then some (f c) else none) :
    Closes b b.settle ends f := by
  obtain ⟨told, around, calls, ready⟩ := poised.settle_silent silent
  obtain ⟨ended, stay⟩ := closings_of_prospects prospect
  exact ⟨poised.calm.sound, told.trans ended, around, calls.trans stay, ready⟩

/-- Settling what has settled ends no call. -/
theorem Ready.closes (ready : b.Ready) (f : Call → Outcome) :
    Closes b b.settle (fun _ => false) f :=
  ready.poised.closes ready.silent fun c hc => ready.quiet c hc

/-- The reply is for the call. -/
def IsFor (m : Message) (c : Call) : Prop :=
  m.correlation = c.correlation ∧ m.channel = c.channel

instance (m : Message) (c : Call) : Decidable (IsFor m c) :=
  inferInstanceAs (Decidable (_ ∧ _))

/-- A bridge that has settled is calm when one reply comes in. -/
theorem Ready.calm_hub (ready : b.Ready) {hub : Hub} {m : Message}
    (queued : unread { b with hub } = [m]) : Calm { b with hub } where
  sound := ready.calm.sound.congr rfl rfl rfl
  unclosed := ready.calm.unclosed
  answered := ready.calm.answered
  due := ready.calm.due
  unread := .inr ⟨⟨m, queued⟩, ready.quiet⟩

/-- Settling after one reply: the calls that it is for end with it. -/
theorem Ready.closes_heard (ready : b.Ready) {hub : Hub} {m : Message}
    (queued : unread { b with hub } = [m]) :
    Closes (listen { b with hub }) (settle { b with hub }) (fun c => IsFor m c)
      fun _ => .ok m := by
  have calm := ready.calm_hub queued
  obtain ⟨streams, heard, silent⟩ := listen_of_cons queued
  have calls : (listen { b with hub }).calls = b.calls := by rw [heard]
  have now : (listen { b with hub }).now = b.now := by rw [heard]
  have signals : (listen { b with hub }).signals = b.signals := by rw [heard]
  have poised : (listen { b with hub }).Poised := by
    refine ⟨calm.calm_listen, ?_, by rw [calls, now]; exact ready.poised.early⟩
    rw [← act_listen]
    exact calm.sound.dated_act ready.dated .listen
  have settle : settle { b with hub } = (listen { b with hub }).settle := by
    simp only [Bridge.settle, listenAll_eq, queued, silent, List.foldl_cons, List.foldl_nil]
  rw [settle]
  refine poised.closes silent fun c hc => ?_
  rw [calls] at hc
  -- As nobody had a reason to end before, the reply is the only one.
  obtain ⟨waits, early, uncancelled⟩ := prospect_eq_none_iff.mp (ready.quiet c hc)
  have content := calm.sound.content_listen hc queued waits
  by_cases mine : IsFor m c
  · simp only [mine, decide_true, if_true]
    exact prospect_of_reply (content.trans (if_pos mine))
  · simp only [mine, decide_false, Bool.false_eq_true, if_false]
    rw [prospect_eq_none_iff, now, signals]
    exact ⟨content.trans (if_neg mine), early, uncancelled⟩

/-- Once the listener has read the only reply, only the registry is different. -/
theorem listen_spread {id : Nat} (listener : b.listener = some id)
    (streams : b.hub.streams = [⟨id, []⟩]) (capacity : 0 < b.hub.capacity) (m : Message) :
    unread { b with hub := b.hub.spread m } = [m] ∧
      listen { b with hub := b.hub.spread m } =
        { b with registry := (b.registry.resolve m).1 } := by
  have spread : (b.hub.spread m).streams = [⟨id, [m]⟩] := by
    simp [Hub.spread, streams, enqueue_nil capacity]
  have found : (b.hub.spread m).stream? id = some ⟨id, [m]⟩ := by simp [Hub.stream?, spread]
  have drained : { b.hub.spread m with streams := [⟨id, []⟩] } = b.hub := by
    rw [← streams]
    rfl
  refine ⟨by simp [unread, listener, found], ?_⟩
  simp only [listen, listener, Option.bind_some, found, Hub.receiveReply, spread, List.map_cons,
    List.map_nil, if_true, drained]

theorem advance_eq (b : Bridge) (span : Span) : b.advance span =
    let looked := (b.ticked span).pollEach (b.calls.map (·.number))
    (looked.1.settle.1, looked.2 ++ looked.1.settle.2) := rfl

/-- When the clock moves on, the calls that are due then end. -/
theorem Ready.closes_advance (ready : b.Ready) (span : Span) :
    Closes (b.ticked span) (b.advance span) (fun c => c.deadline ≤ b.now.after span) timedOut := by
  have settled : b.Settled := ready.calm.sound.settled_iff.mpr ⟨ready.silent, ready.quiet⟩
  have calm : (b.ticked span).Calm :=
    ready.calm.calm_act (a := .tick span) (.inr ⟨settled, fun _ => Act.noConfusion⟩)
  have calls : (b.ticked span).calls = b.calls := rfl
  obtain ⟨told, around, stay, calm', dated, unread, quiet⟩ := calm.pollEach_all ready.dated
  rw [calls] at told around stay calm' dated unread quiet
  have later := Ready.closes ⟨calm', dated, unread.trans ready.silent, quiet⟩ timedOut
  have prospect (c) (hc : c ∈ (b.ticked span).calls) : (b.ticked span).prospect c =
      if decide (c.deadline ≤ b.now.after span) then some (timedOut c) else none :=
    have ⟨waits, _, uncancelled⟩ := prospect_eq_none_iff.mp (ready.quiet c hc)
    prospect_of_waiting waits uncancelled
  obtain ⟨due, early⟩ := closings_of_prospects prospect
  rw [advance_eq]
  refine ⟨calm.sound, ?_, around.trans later.around, ?_, later.ready⟩
  · simp only [told, later.told, List.filter_false, List.map_nil, List.append_nil]
    exact due
  · simp only [later.calls, stay, Bool.not_false, List.filter_true]
    exact early

/-! ## Other hubs -/

/-- What has settled does so at any hub where no reply is unread. -/
theorem Ready.withHub (ready : b.Ready) {hub : Hub} (silent : unread { b with hub } = []) :
    Ready { b with hub } where
  calm := ⟨ready.calm.sound.congr rfl rfl rfl, ready.calm.unclosed, ready.calm.answered,
    ready.calm.due, .inl silent⟩
  dated := ready.dated
  silent := silent
  quiet := ready.quiet

theorem Closes.withHub {x : Bridge × List (Nat × Outcome)} {ends : Call → Bool} {f : Call → Outcome}
    (closes : Closes b x ends f) {hub : Hub} (silent : unread { x.1 with hub } = []) :
    Closes { b with hub } ({ x.1 with hub }, x.2) ends f where
  sound := closes.sound.congr rfl rfl rfl
  told := closes.told
  around := ⟨rfl, closes.around.listener, closes.around.signals, closes.around.nextCall,
    closes.around.now⟩
  calls := closes.calls
  ready := closes.ready.withHub silent

/-! ## Calls that start -/

/-- A call of the relay: it has the correlation id of its message, and only its reply or its
deadline end it. -/
def dial (m : Message) (timeout : Span) : Dial := ⟨.background, m.channel, m, timeout⟩

theorem correlation_dial (m : Message) (timeout : Span) :
    (dial m timeout).correlation m.correlation = m.correlation := ite_self _

/-- The bridge with the call for a message that was published. -/
def dialled (b : Bridge) (m : Message) (timeout : Span) (hub : Hub) : Bridge :=
  { b with
    hub
    registry := b.enroll (dial m timeout) m.correlation
    calls := b.calls ++ [b.opened (dial m timeout) m.correlation]
    nextCall := b.nextCall + 1 }

/-- The bridge with the entry withdrawn for a message that was not published. -/
def refused (b : Bridge) (m : Message) (timeout : Span) : Bridge :=
  { b with registry := b.withdraw (dial m timeout) m.correlation }

/-- A call whose correlation id is free starts if its message is published. -/
theorem start_dial {m : Message} (timeout : Span)
    (free : b.registry.isPending m.correlation = false) :
    b.start (dial m timeout) m.correlation =
      match b.hub.publish m.channel m with
      | (hub, .ok _) => (b.dialled m timeout hub, .ok b.nextCall)
      | (_, .error e) => (b.refused m timeout, .error (.ofBus e)) := by
  have filled : (if (dial m timeout).message.correlation = "" then
      { (dial m timeout).message with correlation := m.correlation }
      else (dial m timeout).message) = m := ite_self _
  have enrolled : b.registry.register m.correlation m.channel m.route
      ((dial m timeout).context.effectiveDeadline b.now (dial m timeout).timeout) =
      (b.enroll (dial m timeout) m.correlation, some b.registry.slots.length) := by
    rw [enroll, correlation_dial]
    exact (Registry.register_of_not_isPending free).trans
      (by rw [Registry.register_of_not_isPending free]; rfl)
  have uncancelled : (dial m timeout).context.isCancelled b.signals = false := rfl
  have channel : (dial m timeout).channel = m.channel := rfl
  have opened : b.opened (dial m timeout) m.correlation = ⟨b.nextCall, m.correlation, m.channel,
      b.registry.slots.length, b.now, (dial m timeout).context.effectiveDeadline b.now
        (dial m timeout).timeout, (dial m timeout).context, .waiting⟩ := by
    rw [Bridge.opened, correlation_dial, channel]
  unfold start
  simp only [filled, uncancelled, Bool.false_eq_true, if_false, enrolled, channel]
  generalize b.hub.publish m.channel m = published
  obtain ⟨hub, e | reached⟩ := published
  · simp only [refused, withdraw, correlation_dial]
  · simp only [dialled, opened]

/-- An entry that is withdrawn leaves everything settled. -/
theorem Ready.refused (ready : b.Ready) {m : Message} (timeout : Span)
    (free : b.registry.isPending m.correlation = false) : (b.refused m timeout).Ready := by
  have hp : b.registry.isPending ((dial m timeout).correlation m.correlation) = false := by
    rwa [correlation_dial]
  have content (c) (hc : c ∈ b.calls) : (b.refused m timeout).registry.content c.ticket =
      b.registry.content c.ticket :=
    Registry.content_congr (slot_withdraw hp (ready.calm.sound.held c hc).1)
  have quiet (c) (hc : c ∈ b.calls) : (b.refused m timeout).prospect c = none :=
    (prospect_congr (content c hc) rfl rfl).trans (ready.quiet c hc)
  refine ⟨.of_waiting (ready.calm.sound.sound_withdraw hp) ?_ (.inl ?_) ready.silent, ?_,
    ready.silent, quiet⟩
  · exact fun c hc => (prospect_eq_none_iff.mp (quiet c hc)).1
  · exact fun c hc => (prospect_eq_none_iff.mp (quiet c hc)).2.1
  · intro e he
    rw [Bridge.refused, withdraw, enroll, (Registry.register_withdrawn hp).1] at he
    exact ready.dated e he

/-- Settling after a call was started: it waits, unless it is due at once. -/
theorem Ready.closes_dialled (ready : b.Ready) {m : Message} (timeout : Span)
    (free : b.registry.isPending m.correlation = false) {hub : Hub}
    (silent : unread { b with hub } = []) :
    Closes (b.dialled m timeout hub) (b.dialled m timeout hub).settle (fun c => c.deadline ≤ b.now)
      timedOut := by
  have hp : b.registry.isPending ((dial m timeout).correlation m.correlation) = false := by
    rwa [correlation_dial]
  have cases (c) (hc : c ∈ (b.dialled m timeout hub).calls) :
      c ∈ b.calls ∨ c = b.opened (dial m timeout) m.correlation := by
    simpa [dialled] using hc
  have waits (c) (hc : c ∈ (b.dialled m timeout hub).calls) :
      (b.dialled m timeout hub).registry.content c.ticket = .waiting := by
    rcases cases c hc with old | rfl
    · exact (Registry.content_congr (slot_enroll (ready.calm.sound.held c old).1)).trans
        (prospect_eq_none_iff.mp (ready.quiet c old)).1
    · exact (content_opened hp).1
  have uncancelled (c) (hc : c ∈ (b.dialled m timeout hub).calls) :
      c.context.isCancelled b.signals = false := by
    rcases cases c hc with old | rfl
    · exact (prospect_eq_none_iff.mp (ready.quiet c old)).2.2
    · rfl
  have silent' : (b.dialled m timeout hub).unread = [] := (unread_congr rfl rfl).trans silent
  have poised : (b.dialled m timeout hub).Poised := by
    refine ⟨.of_waiting ((ready.calm.sound.sound_opened hp).congr rfl rfl rfl) waits
      (.inr uncancelled) silent', ?_, fun c hc => ?_⟩
    · exact ready.calm.sound.dated_opened ready.dated _ _
    · rcases cases c hc with old | rfl
      · exact ready.poised.early c old
      · have ahead : 0 < sweepGrace.nanos := by decide
        show b.now.nanos < b.now.nanos + timeout.nanos + sweepGrace.nanos
        omega
  exact poised.closes silent' fun c hc => prospect_of_waiting (waits c hc) (uncancelled c hc)

end

end Bridge

end PaymentRelay
