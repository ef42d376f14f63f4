import PaymentRelay.Proofs.Call.Signals

/-
  Trees of contexts.

  A derivation makes a context unless the clock cannot tell its limit (`made_iff`). However contexts
  are derived from each other, what matters of a chain is the set of its limits and its last signal.
  Contexts that are kin, which are derived from each other without a signal of their own, have the
  same last signal, and so they are cancelled together (`contexts_shrink_and_share`).
-/

namespace PaymentRelay

namespace Lineage

section
variable {l : Lineage} {g : Ledger} {t : List (Act × Report)} {i j : Nat} {c c' : Context}
  {chain : List Link}

theorem Follows.context (follows : l.Follows g) (there : l.contexts[i]? = some c) :
    ∃ chain, g.chains[i]? = some chain ∧ Link.context chain = c := by
  rw [follows.contexts, List.getElem?_map] at there
  exact Option.map_eq_some_iff.mp there

/-- A derivation makes a context, unless the clock cannot tell its limit. -/
theorem made_iff (d : Derivation) (there : l.contexts[i]? = some c) :
    (∃ c', (l.act (.derive i d)).1.contexts = l.contexts ++ [c']) ↔
      ∀ span, d = .timeout span → l.bridge.now.after span ≤ Instant.latest := by
  simp only [act, there, Option.bind_some]
  cases told : d.context? c l.bridge.now l.bridge.signals.made with
  | none =>
    obtain ⟨span, rfl, beyond⟩ := Derivation.context?_eq_none_iff.mp told
    refine iff_of_false (by simp) fun within => ?_
    exact Instant.not_le.mpr beyond (within span rfl)
  | some c' =>
    refine iff_of_true ⟨c', rfl⟩ fun span same => ?_
    by_contra beyond
    rw [Derivation.context?_eq_none_iff.mpr ⟨span, same, Instant.not_le.mp beyond⟩] at told
    cases told

/-- A context is cancelled when the handle of its last signal gave it. -/
theorem Kept.isCancelled_iff (kept : Kept t l) (chain : List Link) :
    (Link.context chain).isCancelled l.bridge.signals = true ↔
      ∃ n, (Link.signals chain).getLast? = some n ∧ (.cancel n, .given) ∈ t := by
  rw [Context.isCancelled_iff, Link.signal_context]
  exact exists_congr fun n => and_congr_right fun _ => kept.given n

/-- Contexts that are kin have the same signals. -/
theorem signals_of_kin (shares : g.Shares) (kin : Relation.EqvGen (fun a b => (a, b) ∈ g.kin) i j) :
    g.chains[i]?.map Link.signals = g.chains[j]?.map Link.signals := by
  induction kin with
  | rel i j related =>
    obtain ⟨chain, chain', here, there, same⟩ := shares i j related
    rw [here, there, Option.map_some, Option.map_some, same]
  | refl i => rfl
  | symm i j _ ih => exact ih.symm
  | trans i j k _ _ ih ih' => exact ih.trans ih'

/-- Contexts that are kin are cancelled together. -/
theorem Follows.isCancelled_of_kin (follows : l.Follows g) (shares : g.Shares)
    (kin : Relation.EqvGen (fun a b => (a, b) ∈ g.kin) i j) (here : l.contexts[i]? = some c)
    (there : l.contexts[j]? = some c') (s : Signals) : c.isCancelled s = c'.isCancelled s := by
  obtain ⟨chain, known, rfl⟩ := follows.context here
  obtain ⟨chain', known', rfl⟩ := follows.context there
  have same := signals_of_kin shares kin
  rw [known, known', Option.map_some, Option.map_some, Option.some_inj] at same
  rw [Context.isCancelled, Context.isCancelled, Link.signal_context, Link.signal_context, same]

/-- A waiter has the context that it waits for. -/
theorem Follows.waiter (follows : l.Follows g) {k : Nat} (waits : g.waits[k]? = some i)
    (there : l.contexts[i]? = some c) : ∃ w, l.waiters[k]? = some w ∧ w.context = c := by
  have whole := congrArg (·[k]?) follows.waiters
  simp only [List.getElem?_map, waits, Option.map_some, there] at whole
  obtain ⟨w, known, same⟩ := Option.map_eq_some_iff.mp whole
  exact ⟨w, known, Option.some.inj same⟩

/-- Signals that are given stay given. -/
theorem isGiven_run (hub : Hub) (listening : Bool) (acts more : List Act) {n : Nat}
    (given : (act.after (new hub listening) acts).bridge.signals.isGiven n = true) :
    (act.after (act.after (new hub listening) acts) more).bridge.signals.isGiven n = true := by
  rw [(kept_run hub listening acts).given] at given
  have later := kept_run hub listening (acts ++ more)
  rw [act.after_append, act.transcript_append] at later
  exact (later.given n).mpr (List.mem_append_left _ given)

end

/-- In every run, whatever contexts are derived from each other at whatever times:

A derivation makes a context, unless it sets a span whose end the clock cannot tell, and no other
contexts are there than the ledger says. The deadline of a context is the earliest of all limits on
its chain, where a span counts from the moment it was set; order, copies and signals in between do
not matter. A call has a deadline if the clock can tell the end of its own span: the earliest of
that and the limits on the chain. A shorter span has one as well, which is no later.

Contexts that are kin are cancelled together, and a context is cancelled when and only when the
handle of the last signal on its chain was there and gave it. That stays so, whatever happens. A
handle that is dropped without having given its signal might as well have been kept: the bridge, the
contexts and who is woken are the same.

A waiter has the context that it began to wait for. If it was woken, that context is cancelled; and
when it looks, it is woken just when that context is cancelled, whichever came first. -/
theorem contexts_shrink_and_share (hub : Hub) (listening : Bool) (acts : List Act) :
    let l := act.after (new hub listening) acts
    let t := act.transcript (new hub listening) acts
    let g := Ledger.of acts
    l.contexts.length = g.chains.length ∧
    (∀ (source : Nat) (d : Derivation) (c : Context), l.contexts[source]? = some c →
      ((∃ c', (l.act (.derive source d)).1.contexts = l.contexts ++ [c']) ↔
        ∀ span, d = .timeout span → l.bridge.now.after span ≤ Instant.latest)) ∧
    (∀ (i : Nat) (c : Context), l.contexts[i]? = some c → ∃ chain, g.chains[i]? = some chain ∧
      Instant.Earliest c.deadline (Link.limits chain) ∧
      (∀ (now : Instant) (span : Span),
        c.effectiveDeadline? now span = none ↔ Instant.latest < now.after span) ∧
      (∀ (now : Instant) (span : Span) (d : Instant), c.effectiveDeadline? now span = some d →
        Instant.Earliest (some d) (now.after span :: Link.limits chain)) ∧
      (∀ (now : Instant) (span span' : Span) (d' : Instant), span.nanos ≤ span'.nanos →
        c.effectiveDeadline? now span' = some d' →
        ∃ d, c.effectiveDeadline? now span = some d ∧ d ≤ d') ∧
      (c.isCancelled l.bridge.signals = true ↔
        ∃ n, (Link.signals chain).getLast? = some n ∧ (.cancel n, .given) ∈ t)) ∧
    (∀ (i j : Nat) (c c' : Context) (chain chain' : List Link), l.contexts[i]? = some c →
      l.contexts[j]? = some c' → g.chains[i]? = some chain → g.chains[j]? = some chain' →
      (∀ a, a ∈ Link.limits chain ↔ a ∈ Link.limits chain') → c.deadline = c'.deadline) ∧
    (∀ (i j : Nat) (c c' : Context), Relation.EqvGen (fun a b => (a, b) ∈ g.kin) i j →
      l.contexts[i]? = some c → l.contexts[j]? = some c' →
      c.isCancelled l.bridge.signals = c'.isCancelled l.bridge.signals) ∧
    (∀ (i : Nat) (c : Context) (more : List Act), l.contexts[i]? = some c →
      (act.after l more).contexts[i]? = some c ∧
      (c.isCancelled l.bridge.signals = true →
        c.isCancelled (act.after l more).bridge.signals = true)) ∧
    (∀ (n : Nat) (more : List Act), l.bridge.signals.isGiven n = false →
      (∀ a ∈ more, a ≠ .cancel n) →
      let kept := act.after l more
      let gone := act.after (l.act (.drop n)).1 more
      gone.bridge = kept.bridge ∧ gone.contexts = kept.contexts ∧
        gone.waiters.map (fun w => (w.context, decide (w.vigil = .woken))) =
          kept.waiters.map fun w => (w.context, decide (w.vigil = .woken))) ∧
    ∀ (k i : Nat) (c : Context), g.waits[k]? = some i → l.contexts[i]? = some c →
      ∃ w, l.waiters[k]? = some w ∧ w.context = c ∧
        (w.vigil = .woken → c.isCancelled l.bridge.signals = true) ∧
        ∃ w', (l.act (.look k)).1.waiters[k]? = some w' ∧ w'.context = c ∧
          (w'.vigil = .woken ↔ c.isCancelled l.bridge.signals = true) := by
  intro l t g
  have follows : l.Follows g := follows_run hub listening acts
  have kept : Kept t l := kept_run hub listening acts
  refine ⟨?length, fun source d c there => made_iff d there, fun i c there => ?chain,
    fun i j c c' chain chain' here there known known' same => ?order,
    fun i j c c' kin here there =>
      follows.isCancelled_of_kin (Ledger.shares_of acts) kin here there _,
    fun i c more there => ⟨?stays, fun cancelled => ?cancelled⟩,
    fun n more ungiven silent => unnoticed_drop ungiven silent,
    fun k i c waits there => ?waiter⟩
  case length =>
    rw [follows.contexts, List.length_map]
  case chain =>
    obtain ⟨chain, known, rfl⟩ := follows.context there
    have earliest := Link.deadline_context chain
    exact ⟨chain, known, earliest, fun now span => Context.effectiveDeadline?_eq_none_iff,
      fun now span d told => Context.earliest_effectiveDeadline? earliest told,
      fun now span span' d' le told => Context.effectiveDeadline?_mono le told,
      kept.isCancelled_iff chain⟩
  case order =>
    obtain ⟨_, known₀, rfl⟩ := follows.context here
    obtain ⟨_, known₁, rfl⟩ := follows.context there
    cases known₀.symm.trans known
    cases known₁.symm.trans known'
    exact (Link.deadline_context chain).unique (Link.deadline_context chain') same
  case stays =>
    obtain ⟨rest, whole⟩ := contexts_run l more
    rw [← whole, List.getElem?_append_left (List.getElem?_eq_some_iff.mp there).1, there]
  case cancelled =>
    obtain ⟨n, own, given⟩ := Context.isCancelled_iff.mp cancelled
    exact Context.isCancelled_iff.mpr ⟨n, own, isGiven_run hub listening acts more given⟩
  case waiter =>
    obtain ⟨w, known, rfl⟩ := follows.waiter waits there
    obtain ⟨w', known', same, woken⟩ := kept.woken_look known
    refine ⟨w, known, rfl, fun is => ?_, w', known', same, woken⟩
    have right := kept.right w (List.mem_of_getElem? known)
    rwa [Waiter.Right, is] at right

/-- A context with two limits, the second of which was set a second later, somebody who waits for
it, and a handle that gives the signal of the context it was derived from and is dropped. A third
limit would lie beyond what the clock can tell. -/
def nested : List Act :=
  [.background, .derive 0 (.timeout (.ofSeconds 60)), .derive 1 .cancellable,
    .elsewhere (.tick (.ofSeconds 1)), .derive 2 (.timeout (.ofMillis 10)),
    .derive 3 (.timeout (.ofSeconds (twoTo 63))), .derive 3 .clone, .wait 4, .cancel 0, .drop 0]

theorem contexts_shrink_and_share_nested :
    let l := act.after (new (.new 4 100) true) nested
    ∃ c, l.contexts[4]? = some c ∧ c.deadline = some ⟨1010000000⟩ ∧
      (∃ d, c.effectiveDeadline? l.bridge.now (.ofMillis 5) = some d ∧ d ≤ ⟨1010000000⟩) ∧
      c.effectiveDeadline? l.bridge.now (.ofSeconds (twoTo 63)) = none ∧
      c.isCancelled l.bridge.signals = true ∧
      ∃ w, (l.act (.look 0)).1.waiters[0]? = some w ∧ w.vigil = .woken := by
  intro l
  obtain ⟨-, -, facts, -, together, -, -, waiting⟩ :=
    contexts_shrink_and_share (.new 4 100) true nested
  have here : l.contexts[4]? = some ⟨some ⟨1010000000⟩, some 0⟩ := rfl
  have root : l.contexts[2]? = some ⟨some ⟨60000000000⟩, some 0⟩ := rfl
  obtain ⟨_, -, -, beyond, -, shorter, -⟩ := facts 4 _ here
  have long : Context.effectiveDeadline? ⟨some ⟨1010000000⟩, some 0⟩ l.bridge.now (.ofSeconds 60) =
      some ⟨1010000000⟩ := rfl
  have short := shorter l.bridge.now (.ofMillis 5) (.ofSeconds 60) _ (by decide) long
  have untold := (beyond l.bridge.now (.ofSeconds (twoTo 63))).mpr (by decide +kernel)
  obtain ⟨chain, known, -, -, -, -, cancelled⟩ := facts 2 _ root
  cases known
  have given : Context.isCancelled ⟨some ⟨60000000000⟩, some 0⟩ l.bridge.signals = true :=
    cancelled.mpr ⟨0, rfl, List.mem_of_getElem? (i := 8) rfl⟩
  have kin : Relation.EqvGen (fun a b => (a, b) ∈ (Ledger.of nested).kin) 2 4 :=
    .trans 2 3 4 (.rel 2 3 (by decide)) (.rel 3 4 (by decide))
  have same := together 2 4 _ _ kin root here
  obtain ⟨w, -, -, -, w', looked, -, woken⟩ := waiting 0 4 _ rfl here
  exact ⟨_, here, rfl, short, untold, same ▸ given, w', looked, woken.mpr (same ▸ given)⟩

end Lineage

end PaymentRelay
