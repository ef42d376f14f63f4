import Mathlib.Data.List.Induction
import PaymentRelay.Proofs.Bridge.Sweeping
import PaymentRelay.Proofs.Call.Deadline

/-
  Contexts that are derived from each other, as a machine.

  A run makes contexts from others, gives signals through their handles or drops the handles, and
  lets waiters wait and look; in between anything may happen at the bridge that the signals belong
  to (`Lineage.act`). What a context was made by is read off the inputs of a run alone (`Ledger`): a
  chain of links from the background on, each a limit that was set at its moment, a signal that was
  made, or a copy. A context is what the links of its chain make of the background
  (`Follows.context`).

  A derivation whose limit the clock cannot tell makes nothing: whoever asks for it panics, and
  neither the lineage nor its ledger changes.
-/

namespace PaymentRelay

/-! ## Derivations -/

/-- How a context is derived from another one. -/
inductive Derivation where
  | timeout (span : Span)
  | deadline (t : Instant)
  | cancellable
  | clone

namespace Derivation

/-- What is derived from a context at a moment, when the next signal has this number. -/
def context? (d : Derivation) (c : Context) (now : Instant) (next : Nat) : Option Context :=
  match d with
  | timeout span => c.withTimeout? now span
  | deadline t => some (c.withDeadline t)
  | cancellable => some (c.withSignal next)
  | clone => some c

/-- Nothing is derived where the clock cannot tell the limit, and only there. -/
theorem context?_eq_none_iff {d : Derivation} {c : Context} {now : Instant} {next : Nat} :
    d.context? c now next = none ↔ ∃ span, d = timeout span ∧ Instant.latest < now.after span := by
  cases d with
  | timeout span =>
    rw [context?, Context.withTimeout?, Option.map_eq_none_iff, Instant.after?_eq_none_iff]
    simp
  | deadline | cancellable | clone => simp [context?]

/-- A signal is made for the context that is derived. -/
def makesSignal : Derivation → Bool
  | cancellable => true
  | _ => false

end Derivation

/-! ## Runs -/

/-- The contexts that were made at a bridge, earliest first, the signals whose handle is dropped,
and those who wait. -/
structure Lineage where
  bridge : Bridge
  contexts : List Context
  dropped : List Nat
  waiters : List Waiter

namespace Lineage

/-- A bridge at which no context was made. -/
def new (hub : Hub) (listening : Bool) : Lineage := ⟨.new hub listening, [], [], []⟩

/-- The handle of a signal was made and not dropped. -/
def holds (l : Lineage) (n : Nat) : Bool :=
  decide (n < l.bridge.signals.made) && !l.dropped.contains n

/-- Something that happens to contexts, their handles, or at the bridge. -/
inductive Act where
  | background
  | derive (source : Nat) (d : Derivation)
  | cancel (handle : Nat)
  | drop (handle : Nat)
  /-- Somebody starts to wait for a context. -/
  | wait (context : Nat)
  | look (waiter : Nat)
  /-- Anything at the bridge but a signal, which only its handle gives. -/
  | elsewhere (a : Bridge.Act)

/-- What an act comes to at a bridge where signals are given by their handles alone. -/
def elsewhere (b : Bridge) (a : Bridge.Act) : Bridge :=
  match a with
  | .signal _ => b
  | a => (b.act a).1

/-- What can be seen of an act. -/
inductive Report where
  | silent
  /-- A handle was there, and its signal is given. -/
  | given
  deriving DecidableEq

/-- The lineage as a machine. -/
def act : Machine Lineage Act Report := fun l a =>
  match a with
  | .background => ({ l with contexts := l.contexts ++ [.background] }, .silent)
  | .derive source d =>
    match l.contexts[source]?.bind (d.context? · l.bridge.now l.bridge.signals.made) with
    | none => (l, .silent)
    | some c =>
      let signals := if d.makesSignal then l.bridge.signals.make.1 else l.bridge.signals
      ({ l with bridge := { l.bridge with signals }, contexts := l.contexts ++ [c] }, .silent)
  | .cancel n =>
    if l.holds n then ({ l with bridge := l.bridge.signal n }, .given) else (l, .silent)
  | .drop n => if l.holds n then ({ l with dropped := n :: l.dropped }, .silent) else (l, .silent)
  | .wait i =>
    match l.contexts[i]? with
    | none => (l, .silent)
    | some c => ({ l with waiters := l.waiters ++ [.on c] }, .silent)
  | .look k =>
    ({ l with waiters := l.waiters.modify k (·.look l.bridge.signals l.dropped) }, .silent)
  | .elsewhere a => ({ l with bridge := elsewhere l.bridge a }, .silent)

end Lineage

/-! ## Chains -/

/-- What one derivation adds to a context. -/
inductive Link where
  /-- A limit, at the moment that was set or at the end of a span from its own moment on. -/
  | limit (t : Instant)
  | signal (n : Nat)
  | copy

/-- The link of a derivation at a moment, when the next signal has this number. -/
def Derivation.link? (d : Derivation) (now : Instant) (next : Nat) : Option Link :=
  match d with
  | timeout span => (now.after? span).map .limit
  | deadline t => some (.limit t)
  | cancellable => some (.signal next)
  | clone => some .copy

namespace Link

def apply (c : Context) : Link → Context
  | limit t => c.withDeadline t
  | signal n => c.withSignal n
  | copy => c

/-- The context at the end of a chain. -/
def context (chain : List Link) : Context := chain.foldl apply .background

/-- The limits of a chain. -/
def limits (chain : List Link) : List Instant :=
  chain.filterMap fun
    | limit t => some t
    | _ => none

/-- The signals of a chain. -/
def signals (chain : List Link) : List Nat :=
  chain.filterMap fun
    | signal n => some n
    | _ => none

theorem map_link? (d : Derivation) (c : Context) (now : Instant) (next : Nat) :
    (d.link? now next).map (apply c) = d.context? c now next := by
  cases d with
  | timeout span => exact Option.map_map ..
  | deadline | cancellable | clone => rfl

theorem context_append (chain : List Link) (link : Link) :
    context (chain ++ [link]) = apply (context chain) link := by
  rw [context, List.foldl_append]
  rfl

theorem signals_append (chain : List Link) (link : Link) :
    signals (chain ++ [link]) = signals chain ++ signals [link] := List.filterMap_append

/-- A derivation that makes no signal adds none to a chain. -/
theorem signals_link? {d : Derivation} (shared : d.makesSignal = false) {now : Instant} {next : Nat}
    {link : Link} (told : d.link? now next = some link) : signals [link] = [] := by
  cases d with
  | timeout span =>
    obtain ⟨t, -, rfl⟩ := Option.map_eq_some_iff.mp told
    rfl
  | deadline | clone =>
    cases told
    rfl
  | cancellable => cases shared

/-- The signal of a context is the last one of its chain. -/
theorem signal_context (chain : List Link) : (context chain).signal = (signals chain).getLast? := by
  induction chain using List.reverseRecOn with
  | nil => rfl
  | append_singleton chain link ih =>
    rw [context_append, signals_append]
    cases link with
    | limit t | copy => simpa [apply, Context.withDeadline, signals] using ih
    | signal n => simp [apply, Context.withSignal, signals]

/-- The deadline of a context is the earliest of the limits on its chain. -/
theorem deadline_context (chain : List Link) :
    Instant.Earliest (context chain).deadline (limits chain) := by
  induction chain using List.reverseRecOn with
  | nil => exact rfl
  | append_singleton chain link ih =>
    rw [context_append, limits, List.filterMap_append]
    cases link with
    | limit t =>
      refine (Context.earliest_withDeadline ih t).congr fun a => ?_
      simp [limits, or_comm]
    | signal n | copy => simpa [apply, Context.withSignal, limits] using ih

end Link

/-! ## The ledger of a run -/

/-- What the inputs of a run say: the time, how many handles there are, the chain of each context,
which contexts were derived from which others without a signal of their own, and which context each
waiter waits for. -/
structure Ledger where
  now : Instant := .start
  handles : Nat := 0
  chains : List (List Link) := []
  kin : List (Nat × Nat) := []
  waits : List Nat := []

namespace Ledger

/-- The ledger with one more context. -/
def derive (g : Ledger) (source : Nat) (d : Derivation) : Ledger :=
  match g.chains[source]?, d.link? g.now g.handles with
  | some chain, some link =>
    { g with
      handles := if d.makesSignal then g.handles + 1 else g.handles
      chains := g.chains ++ [chain ++ [link]]
      kin := if d.makesSignal then g.kin else (source, g.chains.length) :: g.kin }
  | _, _ => g

def note (g : Ledger) : Lineage.Act → Ledger
  | .background => { g with chains := g.chains ++ [[]] }
  | .derive source d => g.derive source d
  | .wait i => if i < g.chains.length then { g with waits := g.waits ++ [i] } else g
  | .elsewhere a => { g with now := a.clock g.now }
  | _ => g

/-- The ledger of the inputs of a run. -/
def of (acts : List Lineage.Act) : Ledger := acts.foldl note {}

theorem of_append (acts : List Lineage.Act) (a : Lineage.Act) :
    of (acts ++ [a]) = (of acts).note a := by
  rw [of, List.foldl_append]
  rfl

/-- Contexts that are kin have the same signals. -/
def Shares (g : Ledger) : Prop :=
  ∀ i j, (i, j) ∈ g.kin → ∃ chain chain', g.chains[i]? = some chain ∧ g.chains[j]? = some chain' ∧
    Link.signals chain = Link.signals chain'

theorem shares_grow {g : Ledger} (shares : g.Shares) (chain : List Link) (g' : Ledger)
    (kin : g'.kin = g.kin) (chains : g'.chains = g.chains ++ [chain]) : g'.Shares := by
  intro i j related
  rw [kin] at related
  obtain ⟨c, c', here, there, same⟩ := shares i j related
  refine ⟨c, c', ?_, ?_, same⟩
  · rw [chains, List.getElem?_append_left (List.getElem?_eq_some_iff.mp here).1, here]
  · rw [chains, List.getElem?_append_left (List.getElem?_eq_some_iff.mp there).1, there]

theorem shares_note {g : Ledger} (shares : g.Shares) (a : Lineage.Act) : (g.note a).Shares := by
  cases a with
  | background => exact shares_grow shares [] _ rfl rfl
  | derive source d =>
    rw [note, derive]
    split
    · next chain link known told =>
      have grown := shares_grow shares (chain ++ [link])
        { g with chains := g.chains ++ [chain ++ [link]] } rfl rfl
      intro i j related
      cases own : d.makesSignal with
      | true =>
        simp only [own, if_true] at related
        exact grown i j related
      | false =>
        simp only [own, Bool.false_eq_true, if_false, List.mem_cons, Prod.mk.injEq] at related
        rcases related with ⟨rfl, rfl⟩ | old
        · refine ⟨chain, chain ++ [link], ?_, ?_, ?_⟩
          · rw [List.getElem?_append_left (List.getElem?_eq_some_iff.mp known).1, known]
          · simp
          · rw [Link.signals_append, Link.signals_link? own told, List.append_nil]
        · exact grown i j old
    · exact shares
  | wait i =>
    rw [note]
    split <;> exact shares
  | _ => exact shares

theorem shares_of (acts : List Lineage.Act) : (of acts).Shares := by
  induction acts using List.reverseRecOn with
  | nil => exact fun _ _ => nofun
  | append_singleton acts a ih =>
    rw [of_append]
    exact shares_note ih a

end Ledger

namespace Lineage

theorem signals_elsewhere (b : Bridge) (a : Bridge.Act) : (elsewhere b a).signals = b.signals := by
  unfold elsewhere
  split
  · rfl
  · next other => exact b.signals_act other

theorem now_elsewhere (b : Bridge) (a : Bridge.Act) : (elsewhere b a).now = a.clock b.now := by
  unfold elsewhere
  split
  · rfl
  · exact b.now_act a

/-- A lineage is as its ledger says. -/
structure Follows (l : Lineage) (g : Ledger) : Prop where
  now : l.bridge.now = g.now
  made : l.bridge.signals.made = g.handles
  contexts : l.contexts = g.chains.map Link.context
  waiters : l.waiters.map (fun w => some w.context) = g.waits.map fun i => l.contexts[i]?

section
variable {l : Lineage} {g : Ledger}

/-- Whom the waiters wait for does not change when there are more contexts. -/
theorem waits_grow (c : Context)
    (waiters : l.waiters.map (fun w => some w.context) = g.waits.map fun i => l.contexts[i]?) :
    l.waiters.map (fun w => some w.context) = g.waits.map fun i => (l.contexts ++ [c])[i]? := by
  rw [waiters]
  refine List.map_congr_left fun i mem => ?_
  -- Every waiter has a context already.
  obtain ⟨w, -, known⟩ := List.mem_map.mp (waiters ▸ List.mem_map_of_mem mem :
    l.contexts[i]? ∈ l.waiters.map fun w => some w.context)
  rw [List.getElem?_append_left (List.getElem?_eq_some_iff.mp known.symm).1]

theorem context_look (w : Waiter) (signals : Signals) (dropped : List Nat) :
    (w.look signals dropped).context = w.context := by
  unfold Waiter.look
  split
  · rfl
  · split
    · rfl
    · split <;> rfl
  · rfl

theorem Follows.follows_act (follows : l.Follows g) (a : Act) :
    (l.act a).1.Follows (g.note a) := by
  obtain ⟨now, made, contexts, waiters⟩ := follows
  cases a with
  | background => exact ⟨now, made, by simp [act, Ledger.note, contexts]; rfl, waits_grow _ waiters⟩
  | derive source d =>
    have source? : l.contexts[source]? = (g.chains[source]?).map Link.context := by
      rw [contexts, List.getElem?_map]
    simp only [act, Ledger.note, Ledger.derive, source?]
    cases g.chains[source]? with
    | none => exact ⟨now, made, contexts, waiters⟩
    | some chain =>
      have derived : d.context? (Link.context chain) l.bridge.now l.bridge.signals.made =
          (d.link? g.now g.handles).map (Link.apply (Link.context chain)) := by
        rw [Link.map_link?, now, made]
      simp only [Option.map_some, Option.bind_some, derived]
      cases d.link? g.now g.handles with
      | none => exact ⟨now, made, contexts, waiters⟩
      | some link =>
        refine ⟨now, ?_, ?_, waits_grow _ waiters⟩
        · cases d <;> simp [Derivation.makesSignal, Signals.make, made]
        · simp [contexts, Link.context_append]
  | cancel n =>
    simp only [act]
    split
    · refine ⟨now, ?_, contexts, waiters⟩
      simp only [Bridge.signal, Signals.give]
      split <;> exact made
    · exact ⟨now, made, contexts, waiters⟩
  | drop n =>
    simp only [act]
    split <;> exact ⟨now, made, contexts, waiters⟩
  | wait i =>
    simp only [act, Ledger.note]
    cases known : l.contexts[i]? with
    | none =>
      have missing : ¬i < g.chains.length := by
        rw [← List.length_map Link.context, ← contexts]
        exact Nat.not_lt.mpr (List.getElem?_eq_none_iff.mp known)
      rw [if_neg missing]
      exact ⟨now, made, contexts, waiters⟩
    | some c =>
      have there : i < g.chains.length := by
        rw [← List.length_map Link.context, ← contexts]
        exact (List.getElem?_eq_some_iff.mp known).1
      rw [if_pos there]
      refine ⟨now, made, contexts, ?_⟩
      simp [waiters, known, Waiter.on]
  | look k =>
    refine ⟨now, made, contexts, ?_⟩
    refine Eq.trans (List.ext_getElem? fun j => ?_) waiters
    simp only [act, List.getElem?_map, List.getElem?_modify]
    cases l.waiters[j]? with
    | none => rfl
    | some w => by_cases same : k = j <;> simp [same, context_look]
  | elsewhere a =>
    refine ⟨?_, ?_, contexts, waiters⟩
    · simp only [act, Ledger.note, now_elsewhere, now]
    · simp only [act, Ledger.note, signals_elsewhere, made]

theorem follows_run (hub : Hub) (listening : Bool) (acts : List Act) :
    (act.after (new hub listening) acts).Follows (Ledger.of acts) := by
  induction acts using List.reverseRecOn with
  | nil =>
    refine ⟨?_, ?_, rfl, rfl⟩ <;> cases listening <;> rfl
  | append_singleton acts a ih =>
    rw [act.after_append, Ledger.of_append]
    exact ih.follows_act a

end

end Lineage

end PaymentRelay
