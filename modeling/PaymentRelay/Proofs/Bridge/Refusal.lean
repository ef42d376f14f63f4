import PaymentRelay.Proofs.Bridge.Books
import PaymentRelay.Proofs.Hub.Act

/-
  Calls that cannot start.

  A call is refused for three causes, which are looked at in this order: it was cancelled before it
  started, its correlation id is taken, or its message cannot be published (`start_eq`). In the
  first two cases nothing happens at all. In the third one the registration that was made for the
  call is withdrawn, and what is left of it is a slot of its own that nobody holds and two counters
  (`Sound.same_withdraw`). So nobody else can tell, and the id is as free as it was: a call
  under it starts as soon as none of the causes holds (`failed_start_leaves_no_trace`).
-/

namespace PaymentRelay

/-- The message of a call under its correlation id. -/
def Dial.filled (d : Dial) (fresh : String) : Message :=
  if d.message.correlation = "" then { d.message with correlation := fresh } else d.message

namespace Bridge

/-- Nobody but the caller can tell one bridge from another: the hub with the queues of its peers,
its streams and its count, the calls in flight with their entries and what is in their slots. -/
structure SameToOthers (b b' : Bridge) : Prop where
  hub : b'.hub = b.hub
  entries : b'.registry.entries = b.registry.entries
  slots : ∀ c ∈ b.calls, b'.registry.slot? c.ticket = b.registry.slot? c.ticket
  calls : b'.calls = b.calls
  nextCall : b'.nextCall = b.nextCall
  signals : b'.signals = b.signals
  listener : b'.listener = b.listener
  now : b'.now = b.now
  sweepers : b'.sweepers = b.sweepers

section
variable {b : Bridge} {d : Dial} {fresh : String}

/-- The same ids are taken. -/
theorem SameToOthers.isPending {b' : Bridge} (same : b.SameToOthers b') (id : String) :
    b'.registry.isPending id = b.registry.isPending id := by
  rw [Registry.isPending, Registry.isPending, Registry.entry?, Registry.entry?, same.entries]

/-- What starting a call comes to: the first of the three causes that holds, or the call. -/
theorem start_eq (b : Bridge) (d : Dial) (fresh : String) :
    b.start d fresh =
      if d.context.isCancelled b.signals then (b, .error (.cancelled (d.correlation fresh)))
      else if b.registry.isPending (d.correlation fresh) then
        (b, .error (.duplicate (d.correlation fresh)))
      else match b.hub.publish d.channel (d.filled fresh) with
        | (_, .error e) => ({ b with registry := b.withdraw d fresh }, .error (.ofBus e))
        | (hub, .ok _) =>
          ({ b with
              hub
              registry := b.enroll d fresh
              calls := b.calls ++ [b.opened d fresh]
              nextCall := b.nextCall + 1 }, .ok b.nextCall) := by
  have filled : (if d.message.correlation = "" then { d.message with correlation := fresh }
      else d.message) = d.filled fresh := rfl
  unfold start
  simp only [correlation_filled, route_filled]
  rw [filled]
  split
  · rfl
  · cases hp : b.registry.isPending (d.correlation fresh) with
    | true =>
      rw [Registry.register_of_isPending hp]
      rfl
    | false =>
      have enrolled : b.registry.register (d.correlation fresh) d.channel d.message.route
          (d.context.effectiveDeadline b.now d.timeout) =
          (b.enroll d fresh, some b.registry.slots.length) := by
        rw [enroll, Registry.register_of_not_isPending hp]
      rw [enrolled]
      rcases b.hub.publish d.channel (d.filled fresh) with ⟨hub, e | reached⟩ <;> rfl

/-- A registration that is withdrawn is seen by nobody else. -/
theorem Sound.same_withdraw (h : b.Sound)
    (hp : b.registry.isPending (d.correlation fresh) = false) :
    b.SameToOthers { b with registry := b.withdraw d fresh } where
  hub := rfl
  entries := by
    show (b.withdraw d fresh).entries = b.registry.entries
    rw [withdraw, enroll, (Registry.register_withdrawn hp).1]
  slots c hc := slot_withdraw hp (h.held c hc).1
  calls := rfl
  nextCall := rfl
  signals := rfl
  listener := rfl
  now := rfl
  sweepers := rfl

/-! ## The causes -/

/-- A call starts when none of the causes holds. -/
theorem start_ok_iff :
    (b.start d fresh).2 = .ok b.nextCall ↔
      d.context.isCancelled b.signals = false ∧
      b.registry.isPending (d.correlation fresh) = false ∧
      ∃ n, (b.hub.publish d.channel (d.filled fresh)).2 = .ok n := by
  rw [start_eq]
  cases d.context.isCancelled b.signals with
  | true => exact iff_of_false nofun nofun
  | false =>
    cases b.registry.isPending (d.correlation fresh) with
    | true => exact iff_of_false nofun nofun
    | false =>
      rcases b.hub.publish d.channel (d.filled fresh) with ⟨hub, e | n⟩
      · exact iff_of_false nofun nofun
      · exact iff_of_true rfl ⟨rfl, rfl, n, rfl⟩

theorem start_of_cancelled (given : d.context.isCancelled b.signals = true) :
    b.start d fresh = (b, .error (.cancelled (d.correlation fresh))) := by
  rw [start_eq, if_pos given]

theorem start_of_pending (given : d.context.isCancelled b.signals = false)
    (taken : b.registry.isPending (d.correlation fresh) = true) :
    b.start d fresh = (b, .error (.duplicate (d.correlation fresh))) := by
  rw [start_eq, given, if_neg Bool.false_ne_true, if_pos taken]

/-- A bus error is passed on, but for a channel that is not found, which is one of the call. -/
theorem ofBus_publish {h : Hub} {channel : String} {m : Message} {e : BusError}
    (refused : (h.publish channel m).2 = .error e) :
    CallError.ofBus e =
      if e = .channelNotFound channel then .channelNotFound channel else .transport e := by
  unfold Hub.publish Hub.checkSize at refused
  split at refused
  · next large =>
    split at large
    · cases large
      cases refused
      rfl
    · cases large
  · split at refused
    · cases refused
      exact (if_pos rfl).symm
    · cases refused

theorem start_of_unpublished {e : BusError} (given : d.context.isCancelled b.signals = false)
    (free : b.registry.isPending (d.correlation fresh) = false)
    (refused : (b.hub.publish d.channel (d.filled fresh)).2 = .error e) :
    b.start d fresh = ({ b with registry := b.withdraw d fresh }, .error (.ofBus e)) := by
  rw [start_eq, given, if_neg Bool.false_ne_true, free, if_neg Bool.false_ne_true]
  rcases published : b.hub.publish d.channel (d.filled fresh) with ⟨hub, e' | n⟩
  · rw [published] at refused
    cases refused
    rfl
  · rw [published] at refused
    cases refused

/-- A channel is looked for when the message is within the limit. -/
theorem fits_of_channelNotFound {h : Hub} {channel c : String} {m : Message}
    (refused : (h.publish channel m).2 = .error (.channelNotFound c)) : m.size ≤ h.limit := by
  by_contra large
  have size : h.checkSize m = .error (.tooLarge m.size h.limit) := if_pos (Nat.lt_of_not_le large)
  rw [Hub.publish, size] at refused
  cases refused

/-- What is left of a call whose message cannot be published. -/
theorem Sound.unpublished (h : b.Sound) {e : BusError}
    (given : d.context.isCancelled b.signals = false)
    (free : b.registry.isPending (d.correlation fresh) = false)
    (refused : (b.hub.publish d.channel (d.filled fresh)).2 = .error e) :
    (b.start d fresh).2 = .error
      (if e = .channelNotFound d.channel then .channelNotFound d.channel else .transport e) ∧
    (b.hub.publish d.channel (d.filled fresh)).1 = b.hub ∧
    b.SameToOthers (b.start d fresh).1 ∧
    (b.start d fresh).1.registry.counters = { b.registry.counters with
      registered := b.registry.counters.registered + 1
      cancelled := b.registry.counters.cancelled + 1 } := by
  have eq := start_of_unpublished given free refused
  refine ⟨?_, ?_, ?_, ?_⟩
  · rw [eq, ofBus_publish refused]
  · rcases b.hub.publish_cases d.channel (d.filled fresh) with ⟨-, kept⟩ | ⟨⟨n, published⟩, -⟩
    · exact kept
    · rw [published] at refused
      cases refused
  · rw [eq]
    exact h.same_withdraw free
  · rw [eq]
    exact counters_withdraw free

/-- A peer that joins the channel takes away the cause of a call whose channel was not found. -/
theorem SameToOthers.start_join {b' : Bridge} {c : String} (same : b.SameToOthers b')
    (given : d.context.isCancelled b.signals = false)
    (free : b.registry.isPending (d.correlation fresh) = false)
    (missing : (b.hub.publish d.channel (d.filled fresh)).2 = .error (.channelNotFound c)) :
    ((b'.act (.join d.channel)).1.start d fresh).2 = .ok b.nextCall := by
  have fits : (d.filled fresh).size ≤ b'.hub.limit := by
    rw [same.hub]
    exact fits_of_channelNotFound missing
  have uncancelled : d.context.isCancelled b'.signals = false := by
    rw [same.signals]
    exact given
  have still := (same.isPending _).trans free
  -- The message was within the limit already, or its channel would not have been looked for.
  obtain ⟨hub, reached, published⟩ := Hub.publish_join d.channel fits
  rw [← same.nextCall]
  exact start_ok_iff.mpr ⟨uncancelled, still, reached, congrArg Prod.snd published⟩

end

/-- A call that cannot start leaves no trace. The causes are looked at in their order: a call that
was cancelled, an id that is taken, a message that cannot be published. The first two change nothing
at all. After the third, nothing was published and nobody else can tell; one more call is counted as
registered and as cancelled. So a call under the same id starts, at once or whenever later, when none
of the causes holds, and for a channel that was not found as soon as a peer has joined it. -/
theorem failed_start_leaves_no_trace (capacity limit : Nat) (listening : Bool) (acts : List Act)
    (d : Dial) (fresh : String) :
    let b := act.after (new (.new capacity limit) listening) acts
    let id := d.correlation fresh
    let b' := (b.start d fresh).1
    (d.context.isCancelled b.signals = true → b.start d fresh = (b, .error (.cancelled id))) ∧
    (d.context.isCancelled b.signals = false → b.registry.isPending id = true →
      b.start d fresh = (b, .error (.duplicate id))) ∧
    (∀ e, d.context.isCancelled b.signals = false → b.registry.isPending id = false →
      (b.hub.publish d.channel (d.filled fresh)).2 = .error e →
      (b.start d fresh).2 = .error
        (if e = .channelNotFound d.channel then .channelNotFound d.channel else .transport e) ∧
      (b.hub.publish d.channel (d.filled fresh)).1 = b.hub ∧
      b.SameToOthers b' ∧ b'.registry.isPending id = false ∧
      b'.registry.counters = { b.registry.counters with
        registered := b.registry.counters.registered + 1
        cancelled := b.registry.counters.cancelled + 1 } ∧
      (e = .channelNotFound d.channel →
        ((b'.act (.join d.channel)).1.start d fresh).2 = .ok b.nextCall)) ∧
    ∀ acts' d' fresh', d'.correlation fresh' = id →
      let later := act.after b' acts'
      (later.start d' fresh').2 = .ok later.nextCall ↔
        d'.context.isCancelled later.signals = false ∧ later.registry.isPending id = false ∧
        ∃ n, (later.hub.publish d'.channel (d'.filled fresh')).2 = .ok n := by
  intro b id b'
  have sound : b.Sound := sound_after (sound_new _ listening) acts
  refine ⟨start_of_cancelled, start_of_pending, fun e given free refused => ?_,
    fun acts' d' fresh' same => same ▸ start_ok_iff⟩
  obtain ⟨error, kept, same, counted⟩ := sound.unpublished given free refused
  refine ⟨error, kept, same, (same.isPending id).trans free, counted, fun missing => ?_⟩
  exact same.start_join given free (missing ▸ refused)

/-- A payment of an invoice that no wallet serves, until one does. -/
theorem failed_start_leaves_no_trace_unserved :
    let b := new (.new 4 10000) true
    let d : Dial := ⟨.background, "inv-1", .new "payment" "inv-1" .epoch, .ofSeconds 10⟩
    (b.start d "c-1").2 = .error (.channelNotFound "inv-1") ∧
      (((b.start d "c-1").1.act (.join "inv-1")).1.start d "c-1").2 = .ok 0 := by
  intro b d
  have small : ¬ 10000 < (d.filled "c-1").size := by decide +kernel
  have refused : (b.hub.publish "inv-1" (d.filled "c-1")).2 =
      .error (.channelNotFound "inv-1") := by
    have size : b.hub.checkSize (d.filled "c-1") = .ok () := if_neg small
    rw [Hub.publish, size]
    rfl
  obtain ⟨-, -, unpublished, -⟩ := failed_start_leaves_no_trace 4 10000 true [] d "c-1"
  obtain ⟨error, -, -, -, -, again⟩ := unpublished _ rfl rfl refused
  exact ⟨error, again rfl⟩

end Bridge

end PaymentRelay
