import PaymentRelay.Proofs.Bridge.Refusal
import PaymentRelay.Proofs.Call.Tree

/-
  What a cancellation reaches.

  A context has one signal, that of the last handle on its chain. It keeps the cancellation of the
  context it was derived from as long as it gets no handle of its own; a handle of its own takes the
  place of the earlier ones, which cancel it no longer (`child_outlives_parent`).

  What is cancelled is over: whoever waits for it is woken at the next look, no call starts on it,
  and a call in flight on it ends with the cancellation, if everything had settled before
  (`Bridge.Calm.ends_at_signal`).
-/

namespace PaymentRelay

namespace Bridge

/-- A call in flight that nothing else has decided about ends with the signal of its context. -/
theorem Calm.ends_at_signal {b : Bridge} (calm : b.Calm) (settled : b.Settled) {c : Call} {n : Nat}
    (hc : c ∈ b.calls) (own : c.context.signal = some n) {turns : List Act}
    (tasks : ∀ a ∈ turns, a.isTurn = true) (rest : (act.after (b.signal n) turns).Settled) :
    outcomes c.number (act.transcript (b.signal n) turns) = [cancelled c] := by
  have inOrder : b.InOrder (.signal n) := .inr ⟨settled, fun _ => Act.noConfusion⟩
  have quiet : b.prospect c = none := (calm.sound.settled_iff.mp settled).2 c hc
  obtain ⟨stands, -⟩ := calm.judged inOrder hc quiet
  have decided : judge c b.now (.signal n, (b.act (.signal n)).2) = .ended (cancelled c) :=
    if_pos own
  rw [decided] at stands
  have next : (b.signal n).Calm := calm.calm_act inOrder
  have orderly : Orderly (b.signal n) turns := orderly_of_turns tasks
  have fares := next.ending_run orderly stands.1 stands.2
  have sound := (next.calm_after orderly).sound
  exact (fares.of_settled fun mem => (sound.settled_iff.mp rest).2 c mem).1

/-- One more signal is no news to anybody. -/
theorem Calm.calm_make {b : Bridge} (calm : b.Calm) :
    Calm { b with signals := b.signals.make.1 } where
  sound := ⟨calm.sound.registry, calm.sound.distinct, calm.sound.counted, calm.sound.held,
    calm.sound.owned, calm.sound.answered, calm.sound.resolved⟩
  unclosed := calm.unclosed
  answered := calm.answered
  due := calm.due
  unread := calm.unread

end Bridge

namespace Lineage

/-- An act that may happen in an orderly run: one that may happen at the bridge, and a signal when
everything there has settled. -/
def InOrder (l : Lineage) : Act → Prop
  | .elsewhere a => l.bridge.InOrder a
  | .cancel _ => l.bridge.Settled
  | _ => True

def Orderly : Lineage → List Act → Prop
  | _, [] => True
  | l, a :: rest => l.InOrder a ∧ Orderly (l.act a).1 rest

section
variable {l : Lineage} {t : List (Act × Report)} {n : Nat}

theorem calm_act (calm : l.bridge.Calm) {a : Act} (inOrder : l.InOrder a) :
    (l.act a).1.bridge.Calm := by
  cases a with
  | background | look => exact calm
  | derive source d =>
    simp only [act]
    split
    · exact calm
    · cases d with
      | cancellable => exact calm.calm_make
      | _ => exact calm
  | cancel n =>
    simp only [act]
    split
    · exact calm.calm_act (a := .signal n) (.inr ⟨inOrder, fun _ => Bridge.Act.noConfusion⟩)
    · exact calm
  | drop n | wait i =>
    simp only [act]
    split <;> exact calm
  | elsewhere a =>
    show (elsewhere l.bridge a).Calm
    unfold elsewhere
    split
    · exact calm
    · exact calm.calm_act inOrder

theorem calm_run (calm : l.bridge.Calm) {acts : List Act} (orderly : Orderly l acts) :
    (act.after l acts).bridge.Calm := by
  induction acts generalizing l with
  | nil => exact calm
  | cons a rest ih => exact ih (calm_act calm orderly.1) orderly.2

/-- Where there is no signal on a chain, nothing is cancelled. -/
theorem isCancelled_of_no_signal {chain : List Link} (none : Link.signals chain = [])
    (s : Signals) : (Link.context chain).isCancelled s = false := by
  rw [Context.isCancelled, Link.signal_context, none]
  rfl

end

/-- A cancellation reaches what has the signal, and the signal of a context is that of the last
handle on its chain. In every run, a context without a handle on its chain is never cancelled, and
one with handles is cancelled just when the last of them was there and gave its signal; so a context
that is derived without a handle of its own is cancelled whenever the one it was derived from is, be
it before or afterwards. When a context is cancelled, whoever waits for it is woken at the next
look, and a call on it is refused before anything is registered or published. A call in flight on
it, when everything at the bridge has settled, ends with the cancellation. -/
theorem cancelled_by_last_handle (capacity limit : Nat) (listening : Bool) (acts : List Act) :
    let s := new (.new capacity limit) listening
    let l := act.after s acts
    let t := act.transcript s acts
    let g := Ledger.of acts
    (∀ (i j : Nat) (c c' : Context), (i, j) ∈ g.kin → l.contexts[i]? = some c →
      l.contexts[j]? = some c' → ∀ more : List Act,
        c'.isCancelled (act.after l more).bridge.signals =
          c.isCancelled (act.after l more).bridge.signals) ∧
    ∀ (i : Nat) (c : Context), l.contexts[i]? = some c → ∃ chain, g.chains[i]? = some chain ∧
      (Link.signals chain = [] → c.isCancelled l.bridge.signals = false) ∧
      (∀ n, (Link.signals chain).getLast? = some n →
        (c.isCancelled l.bridge.signals = true ↔ (.cancel n, .given) ∈ t)) ∧
      (c.isCancelled l.bridge.signals = true →
        (∀ k : Nat, g.waits[k]? = some i →
          ∃ w, (l.act (.look k)).1.waiters[k]? = some w ∧ w.vigil = .woken) ∧
        ∀ (d : Dial) (fresh : String), d.context = c →
          l.bridge.start d fresh = (l.bridge, .error (.cancelled (d.correlation fresh)))) ∧
      ∀ (n : Nat) (call : Call) (turns : List Bridge.Act),
        (Link.signals chain).getLast? = some n → l.holds n = true →
        Orderly s acts → l.bridge.Settled → call ∈ l.bridge.calls → call.context = c →
        (∀ a ∈ turns, a.isTurn = true) →
        let b := (l.act (.cancel n)).1.bridge
        (Bridge.act.after b turns).Settled →
        Bridge.outcomes call.number (Bridge.act.transcript b turns) = [Bridge.cancelled call] := by
  intro s l t g
  have follows : l.Follows g := follows_run _ listening acts
  have kept : Kept t l := kept_run _ listening acts
  refine ⟨fun i j c c' kin here there more => ?kin, fun i c there => ?context⟩
  case kin =>
    exact (follows.isCancelled_of_kin (Ledger.shares_of acts) (.rel i j kin) here there _).symm
  case context =>
    obtain ⟨chain, known, rfl⟩ := follows.context there
    refine ⟨chain, known, fun none => isCancelled_of_no_signal none _, fun n last => ?cancelled,
      fun cancelled => ⟨fun k waits => ?woken, fun d fresh own => ?refused⟩,
      fun n call turns last held orderly settled flying own tasks => ?ended⟩
    case cancelled =>
      rw [kept.isCancelled_iff, last]
      simp
    case woken =>
      obtain ⟨w, waiter, same⟩ := follows.waiter waits there
      obtain ⟨w', looked, -, woken⟩ := kept.woken_look waiter
      rw [same] at woken
      exact ⟨w', looked, woken.mpr cancelled⟩
    case refused =>
      rw [← own] at cancelled
      exact Bridge.start_of_cancelled cancelled
    case ended =>
      have calm : l.bridge.Calm := calm_run (Bridge.calm_idle capacity limit listening) orderly
      have given : (l.act (.cancel n)).1.bridge = l.bridge.signal n := by
        simp only [act, held, if_true]
      have signal : call.context.signal = some n := by rw [own, Link.signal_context, last]
      intro b rest
      have bridge : b = l.bridge.signal n := given
      rw [bridge] at rest ⊢
      exact calm.ends_at_signal settled flying signal tasks rest

/-! ## One run each way -/

/-- A question about a payment, without a correlation id. -/
def question (c : Context) : Dial := ⟨c, "inv-1", .new "payment" "inv-1" .epoch, .ofSeconds 10⟩

theorem size_question (c : Context) : ((question c).filled "c-1").size ≤ 10000 := by
  show Message.size { Message.new "payment" "inv-1" .epoch with correlation := "c-1" } ≤ 10000
  decide +kernel

/-- A context is made cancellable, and a context that is derived from it is made cancellable once
more; somebody waits for the second one, and the handle of the first one gives its signal. -/
def orphaned : List Act :=
  [.background, .derive 0 .cancellable, .derive 1 .cancellable, .wait 2, .cancel 0, .look 0,
    .elsewhere (.join "inv-1")]

/-- The context that was derived outlives the one that it was derived from: that one is cancelled,
but the derived one is not, whoever waits for it waits on, and a call on it is published. -/
theorem child_outlives_parent :
    let l := act.after (new (.new 4 10000) true) orphaned
    let parent : Context := ⟨none, some 0⟩
    let child : Context := ⟨none, some 1⟩
    l.contexts[1]? = some parent ∧ parent.isCancelled l.bridge.signals = true ∧
    l.contexts[2]? = some child ∧ child.isCancelled l.bridge.signals = false ∧
    l.waiters[0]? = some ⟨child, .watching⟩ ∧
    (l.bridge.start (question child) "c-1").2 = .ok 0 := by
  intro l parent child
  refine ⟨rfl, rfl, rfl, rfl, rfl, ?_⟩
  have hub : l.bridge.hub = ((Hub.new 4 10000).subscribe.1.join "inv-1").1 := rfl
  obtain ⟨after, reached, published⟩ :=
    Hub.publish_join (h := (Hub.new 4 10000).subscribe.1) "inv-1" (size_question child)
  refine Bridge.start_ok_iff.mpr ⟨rfl, rfl, reached, ?_⟩
  rw [hub]
  exact congrArg Prod.snd published

/-- A context with a handle and a limit that was set later, somebody who waits for it and a call. -/
def flying : List Act :=
  [.background, .derive 0 .cancellable, .derive 1 (.timeout (.ofSeconds 60)), .wait 2,
    .elsewhere (.join "inv-1"), .elsewhere (.start (question ⟨some ⟨60000000000⟩, some 0⟩) "c-1")]

/-- The call of the run, in flight. -/
def flown : Call :=
  ⟨0, "c-1", "inv-1", 0, .start, ⟨10000000000⟩, ⟨some ⟨60000000000⟩, some 0⟩, .waiting⟩

theorem settled_of_idle {b : Bridge} (calm : b.Calm) (silent : b.unread = [])
    (idle : b.calls = []) : b.Settled :=
  calm.sound.settled_iff.mpr ⟨silent, by simp [idle]⟩

theorem orderly_flying : Orderly (new (.new 4 10000) true) flying := by
  have start : (new (.new 4 10000) true).bridge.Calm := Bridge.calm_new 4 10000
  have early : Orderly (new (.new 4 10000) true) (flying.take 4) :=
    ⟨trivial, trivial, trivial, trivial, trivial⟩
  have made : (act.after (new (.new 4 10000) true) (flying.take 4)).bridge.Calm :=
    calm_run start early
  have join : (act.after (new (.new 4 10000) true) (flying.take 4)).InOrder
      (.elsewhere (.join "inv-1")) :=
    .inr ⟨settled_of_idle made rfl rfl, fun _ => Bridge.Act.noConfusion⟩
  have joined := calm_act made join
  have call : (act.after (new (.new 4 10000) true) (flying.take 5)).InOrder
      (.elsewhere (.start (question ⟨some ⟨60000000000⟩, some 0⟩) "c-1")) :=
    .inr ⟨settled_of_idle joined rfl rfl, fun _ => Bridge.Act.noConfusion⟩
  exact ⟨trivial, trivial, trivial, trivial, join, call, trivial⟩

theorem calm_flying : (act.after (new (.new 4 10000) true) flying).bridge.Calm :=
  calm_run (Bridge.calm_new 4 10000) orderly_flying

theorem calls_flying : (act.after (new (.new 4 10000) true) flying).bridge.calls = [flown] := by
  decide +kernel

/-- Nothing has happened yet that the call in flight would end with. -/
theorem settled_flying : (act.after (new (.new 4 10000) true) flying).bridge.Settled := by
  have silent : (act.after (new (.new 4 10000) true) flying).bridge.unread = [] :=
    List.isEmpty_iff.mp (by decide +kernel)
  have quiet : (act.after (new (.new 4 10000) true) flying).bridge.prospect flown = none :=
    Option.isNone_iff_eq_none.mp (by decide +kernel)
  exact calm_flying.sound.settled_iff.mpr ⟨silent, by simp [calls_flying, quiet]⟩

/-- Once the handle has given its signal, the waiter is woken, a second call is refused and the
first one ends with the cancellation. -/
theorem cancelled_by_last_handle_flying :
    let s := new (.new 4 10000) true
    let c : Context := ⟨some ⟨60000000000⟩, some 0⟩
    let l := act.after s (flying ++ [.cancel 0])
    (c.isCancelled l.bridge.signals = true ∧
      (∃ w, (l.act (.look 0)).1.waiters[0]? = some w ∧ w.vigil = .woken) ∧
      l.bridge.start (question c) "c-2" = (l.bridge, .error (.cancelled "c-2"))) ∧
    Bridge.outcomes 0 (Bridge.act.transcript l.bridge [.poll 0 .cancellation]) =
      [.error (.cancelled "c-1")] := by
  dsimp only
  have there : (act.after (new (.new 4 10000) true) (flying ++ [.cancel 0])).contexts[2]? =
      some ⟨some ⟨60000000000⟩, some 0⟩ := by decide +kernel
  have cancelled : Context.isCancelled ⟨some ⟨60000000000⟩, some 0⟩
      (act.after (new (.new 4 10000) true) (flying ++ [.cancel 0])).bridge.signals = true := by
    decide +kernel
  obtain ⟨-, after⟩ := cancelled_by_last_handle 4 10000 true (flying ++ [.cancel 0])
  obtain ⟨_, -, -, -, ended, -⟩ := after 2 _ there
  obtain ⟨woken, refused⟩ := ended cancelled
  refine ⟨⟨cancelled, woken 0 rfl, refused _ _ rfl⟩, ?_⟩
  -- The call is in flight before the signal is given.
  have here : (act.after (new (.new 4 10000) true) flying).contexts[2]? =
      some ⟨some ⟨60000000000⟩, some 0⟩ := by decide +kernel
  obtain ⟨-, before⟩ := cancelled_by_last_handle 4 10000 true flying
  obtain ⟨chain, known, -, -, -, ends⟩ := before 2 _ here
  obtain rfl : chain = [.signal 0, .limit ⟨60000000000⟩] := (Option.some.inj known).symm
  have given := calm_act calm_flying (a := .cancel 0) settled_flying
  have polled := given.calm_act (a := .poll 0 .cancellation) (.inl rfl)
  rw [act.after_append, Machine.after, Machine.after]
  refine ends 0 flown [.poll 0 .cancellation] rfl (by decide +kernel) orderly_flying settled_flying
    (by simp [calls_flying]) rfl (by simp [Bridge.Act.isTurn]) ?_
  exact settled_of_idle polled (List.isEmpty_iff.mp (by decide +kernel))
    (List.isEmpty_iff.mp (by decide +kernel))

end Lineage

end PaymentRelay
