import Mathlib.Logic.Relation
import PaymentRelay.Proofs.Call.Lineage

/-
  Signals of contexts, and those who wait for them.

  In every run a signal is given if and only if its handle gave it, and no waiter is wrong: one that
  was woken has a context that is cancelled, and one that is lost has none that ever will be, for
  its handle is dropped or there is none (`Kept`). So a waiter that looks is woken just when its
  context is cancelled, whenever it began to wait (`Kept.woken_look`). A handle that is dropped
  makes waiters give up, and nobody can tell the difference (`Unnoticed`).
-/

namespace PaymentRelay

namespace Signals

theorem isGiven_give (s : Signals) (n m : Nat) :
    (s.give n).isGiven m = true ↔ s.isGiven m = true ∨ m = n := by
  unfold give isGiven
  split
  · next before =>
    refine ⟨.inl, fun h => h.elim id ?_⟩
    rintro rfl
    exact before
  · simp [or_comm]

end Signals

theorem Context.isCancelled_iff {c : Context} {s : Signals} :
    c.isCancelled s = true ↔ ∃ n, c.signal = some n ∧ s.isGiven n = true := by
  unfold isCancelled
  cases c.signal <;> simp

namespace Waiter

variable {w : Waiter} {s s' : Signals} {dropped dropped' : List Nat}

/-- A waiter is right about its context: it was woken because that is cancelled, and is lost because
that never will be. -/
def Right (w : Waiter) (s : Signals) (dropped : List Nat) : Prop :=
  match w.vigil with
  | .watching => True
  | .woken => w.context.isCancelled s = true
  | .lost => ∀ n, w.context.signal = some n → n ∈ dropped ∧ s.isGiven n = false

theorem Right.mono (right : w.Right s dropped)
    (given : ∀ n, s.isGiven n = true → s'.isGiven n = true)
    (still : ∀ n ∈ dropped, n ∈ dropped' ∧ s'.isGiven n = s.isGiven n) : w.Right s' dropped' := by
  unfold Right at right ⊢
  cases h : w.vigil with
  | watching => trivial
  | woken =>
    rw [h] at right
    obtain ⟨n, own, is⟩ := Context.isCancelled_iff.mp right
    exact Context.isCancelled_iff.mpr ⟨n, own, given n is⟩
  | lost =>
    rw [h] at right
    intro n own
    obtain ⟨gone, silent⟩ := right n own
    obtain ⟨gone', same⟩ := still n gone
    exact ⟨gone', same.trans silent⟩

/-- A waiter that has looked is right, and it is woken just when its context is cancelled. -/
theorem Right.look (right : w.Right s dropped) :
    (w.look s dropped).Right s dropped ∧
      ((w.look s dropped).vigil = .woken ↔ w.context.isCancelled s = true) := by
  obtain ⟨⟨deadline, signal⟩, vigil⟩ := w
  cases vigil with
  | woken => exact ⟨right, fun _ => right, fun _ => rfl⟩
  | lost =>
    refine ⟨right, nofun, fun cancelled => ?_⟩
    obtain ⟨n, own, given⟩ := Context.isCancelled_iff.mp cancelled
    rw [(right n own).2] at given
    cases given
  | watching =>
    cases signal with
    | none => exact ⟨fun _ => nofun, nofun, nofun⟩
    | some n =>
      have own : Context.isCancelled ⟨deadline, some n⟩ s = s.isGiven n := rfl
      cases given : s.isGiven n with
      | true =>
        simp only [Waiter.look, given, if_true, own]
        exact ⟨own.trans given, by simp⟩
      | false =>
        by_cases gone : n ∈ dropped
        · simp only [Waiter.look, given, own, Bool.false_eq_true, if_false, iff_false,
            List.contains_iff_mem.mpr gone, if_true]
          refine ⟨?_, by simp⟩
          rintro _ ⟨⟩
          exact ⟨gone, given⟩
        · simp [Waiter.look, given, own, gone, Right]

end Waiter

namespace Lineage

/-- Signals were given by their handles, and no waiter is wrong. -/
structure Kept (t : List (Act × Report)) (l : Lineage) : Prop where
  given : ∀ n, l.bridge.signals.isGiven n = true ↔ (.cancel n, .given) ∈ t
  right : ∀ w ∈ l.waiters, w.Right l.bridge.signals l.dropped

section
variable {l : Lineage} {t : List (Act × Report)} {n : Nat}

/-- What gives no signal leaves the given ones as they are. -/
theorem Kept.silent (kept : Kept t l) {l' : Lineage} (a : Act)
    (given : ∀ n, l'.bridge.signals.isGiven n = l.bridge.signals.isGiven n)
    (right : ∀ w ∈ l'.waiters, w.Right l.bridge.signals l'.dropped) :
    Kept (t ++ [(a, .silent)]) l' where
  given n := by simp [given, kept.given]
  right w mem := (right w mem).mono (fun n => by simp [given]) fun n mem => ⟨mem, given n⟩

theorem kept_act (kept : Kept t l) (a : Act) : Kept (t ++ [(a, (l.act a).2)]) (l.act a).1 := by
  cases a with
  | background => exact kept.silent _ (fun _ => rfl) kept.right
  | derive source d =>
    simp only [act]
    split
    · exact kept.silent _ (fun _ => rfl) kept.right
    · refine kept.silent _ (fun n => ?_) kept.right
      cases d <;> rfl
  | cancel n =>
    simp only [act]
    split
    · next held =>
      have undropped : n ∉ l.dropped := by
        rw [holds, Bool.and_eq_true] at held
        simpa using held.2
      refine ⟨fun m => ?_, fun w mem => ?_⟩
      · show (l.bridge.signals.give n).isGiven m = true ↔ _
        simp [Signals.isGiven_give, kept.given]
      · refine (kept.right w mem).mono (fun m given => ?_) fun m gone => ⟨gone, ?_⟩
        · exact (Signals.isGiven_give _ _ _).mpr (.inl given)
        · have other : m ≠ n := fun same => undropped (same ▸ gone)
          show (l.bridge.signals.give n).isGiven m = _
          rw [Bool.eq_iff_iff, Signals.isGiven_give]
          simp [other]
    · exact kept.silent _ (fun _ => rfl) kept.right
  | drop n =>
    simp only [act]
    split
    · refine kept.silent _ (fun _ => rfl) fun w mem => ?_
      exact (kept.right w mem).mono (fun _ => id) fun m gone => ⟨List.mem_cons_of_mem _ gone, rfl⟩
    · exact kept.silent _ (fun _ => rfl) kept.right
  | wait i =>
    simp only [act]
    split
    · exact kept.silent _ (fun _ => rfl) kept.right
    · refine kept.silent _ (fun _ => rfl) fun w mem => ?_
      rcases List.mem_append.mp mem with old | new
      · exact kept.right w old
      · rw [List.mem_singleton.mp new]
        trivial
  | look k =>
    refine kept.silent _ (fun _ => rfl) fun w mem => ?_
    obtain ⟨j, there⟩ := List.mem_iff_getElem?.mp mem
    simp only [act, List.getElem?_modify] at there
    obtain ⟨w', old, rfl⟩ := Option.map_eq_some_iff.mp there
    have right := kept.right w' (List.mem_of_getElem? old)
    split
    · exact right.look.1
    · exact right
  | elsewhere a =>
    refine kept.silent _ (fun n => ?_) kept.right
    show (elsewhere l.bridge a).signals.isGiven n = _
    rw [signals_elsewhere]

theorem kept_run (hub : Hub) (listening : Bool) (acts : List Act) :
    Kept (act.transcript (new hub listening) acts) (act.after (new hub listening) acts) := by
  have start : Kept [] (new hub listening) := by
    refine ⟨fun n => ?_, fun _ => nofun⟩
    cases listening <;> simp [new, Bridge.new, Signals.none, Signals.isGiven]
  exact act.history start (fun _ _ a kept => kept_act kept a) acts

/-- A waiter that looks is woken just when its context is cancelled. -/
theorem Kept.woken_look (kept : Kept t l) {k : Nat} {w : Waiter} (there : l.waiters[k]? = some w) :
    ∃ w', (l.act (.look k)).1.waiters[k]? = some w' ∧ w'.context = w.context ∧
      (w'.vigil = .woken ↔ w.context.isCancelled l.bridge.signals = true) := by
  refine ⟨w.look l.bridge.signals l.dropped, ?_, context_look _ _ _,
    (kept.right w (List.mem_of_getElem? there)).look.2⟩
  simp [act, there]

/-! ## What stays -/

theorem contexts_act (l : Lineage) (a : Act) : l.contexts <+: (l.act a).1.contexts := by
  cases a with
  | background => exact List.prefix_append _ _
  | derive source d =>
    simp only [act]
    split
    · exact List.prefix_rfl
    · exact List.prefix_append _ _
  | cancel n | drop n | wait i =>
    simp only [act]
    split <;> exact List.prefix_rfl
  | look k | elsewhere a => exact List.prefix_rfl

theorem contexts_run (l : Lineage) (acts : List Act) : l.contexts <+: (act.after l acts).contexts :=
  act.after_keeps (P := fun s => l.contexts <+: s.contexts)
    (fun s a grown => grown.trans (contexts_act s a)) List.prefix_rfl acts

end

/-! ## Handles that are dropped -/

/-- Two waiters differ at most in that the second has given up on a signal. -/
def Alike (n : Nat) (w w' : Waiter) : Prop :=
  w'.context = w.context ∧
    (w'.vigil = w.vigil ∨ w.vigil = .watching ∧ w'.vigil = .lost ∧ w.context.signal = some n)

/-- The second lineage is as the first, but for a handle that is dropped and gave no signal. -/
structure Unnoticed (n : Nat) (l l' : Lineage) : Prop where
  bridge : l'.bridge = l.bridge
  contexts : l'.contexts = l.contexts
  dropped : ∀ m, m ∈ l'.dropped ↔ m = n ∨ m ∈ l.dropped
  ungiven : l.bridge.signals.isGiven n = false
  waiters : List.Forall₂ (Alike n) l.waiters l'.waiters

section
variable {l l' : Lineage} {n : Nat} {w w' : Waiter}

theorem Alike.look (alike : Alike n w w') {s : Signals} {dropped dropped' : List Nat}
    (gone : ∀ m, m ∈ dropped' ↔ m = n ∨ m ∈ dropped) (ungiven : s.isGiven n = false) :
    Alike n (w.look s dropped) (w'.look s dropped') := by
  obtain ⟨context, vigil⟩ := w
  obtain ⟨context', vigil'⟩ := w'
  obtain ⟨rfl, same⟩ := alike
  rcases same with same | ⟨watching, lost, own⟩
  · obtain rfl : vigil' = vigil := same
    cases vigil' with
    | woken | lost => exact ⟨rfl, .inl rfl⟩
    | watching =>
      cases signal : context'.signal with
      | none => simp [Waiter.look, signal, Alike]
      | some m =>
        cases given : s.isGiven m with
        | true => simp [Waiter.look, signal, given, Alike]
        | false =>
          -- They part only if it is the handle of this waiter that is dropped.
          by_cases before : m ∈ dropped
          · have after := (gone m).mpr (.inr before)
            simp [Waiter.look, signal, given, before, after, Alike]
          · by_cases after : m ∈ dropped'
            · obtain rfl := ((gone m).mp after).resolve_right before
              simp [Waiter.look, signal, given, before, after, Alike]
            · simp [Waiter.look, signal, given, before, after, Alike]
  · obtain rfl : vigil = .watching := watching
    obtain rfl : vigil' = .lost := lost
    have own : context'.signal = some n := own
    by_cases before : n ∈ dropped
    · simp [Waiter.look, own, ungiven, before, Alike]
    · simp [Waiter.look, own, ungiven, before, Alike]

theorem Unnoticed.holds_eq (unnoticed : Unnoticed n l l') {m : Nat} (other : m ≠ n) :
    l'.holds m = l.holds m := by
  have same : m ∈ l'.dropped ↔ m ∈ l.dropped := by simp [unnoticed.dropped, other]
  rw [holds, holds, unnoticed.bridge]
  congr 2
  rw [Bool.eq_iff_iff]
  simpa using same

/-- Lists that are alike stay so when they are changed alike at one position. -/
theorem forall₂_modify {α β : Type} {R : α → β → Prop} {f : α → α} {g : β → β} {xs : List α}
    {ys : List β} (keeps : ∀ x y, R x y → R (f x) (g y)) (related : List.Forall₂ R xs ys)
    (k : Nat) :
    List.Forall₂ R (xs.modify k f) (ys.modify k g) := by
  induction related generalizing k with
  | nil => cases k <;> exact .nil
  | cons first rest ih =>
    cases k with
    | zero => exact .cons (keeps _ _ first) rest
    | succ k => exact .cons first (ih k)

theorem Unnoticed.unnoticed_act (unnoticed : Unnoticed n l l') {a : Act} (other : a ≠ .cancel n) :
    Unnoticed n (l.act a).1 (l'.act a).1 := by
  obtain ⟨bridge, contexts, dropped, ungiven, waiters⟩ := unnoticed
  cases a with
  | background => exact ⟨bridge, by simp [act, contexts], dropped, ungiven, waiters⟩
  | derive source d =>
    simp only [act, contexts, bridge]
    split
    · exact ⟨bridge, contexts, dropped, ungiven, waiters⟩
    · refine ⟨rfl, rfl, dropped, ?_, waiters⟩
      cases d <;> exact ungiven
  | cancel m =>
    have apart : m ≠ n := fun same => other (same ▸ rfl)
    have held := holds_eq ⟨bridge, contexts, dropped, ungiven, waiters⟩ apart
    simp only [act, held]
    split
    · refine ⟨congrArg (·.signal m) bridge, contexts, dropped, ?_, waiters⟩
      show (l.bridge.signals.give m).isGiven n = false
      rw [Bool.eq_false_iff, ne_eq, Signals.isGiven_give, not_or]
      exact ⟨Bool.eq_false_iff.mp ungiven, Ne.symm apart⟩
    · exact ⟨bridge, contexts, dropped, ungiven, waiters⟩
  | drop m =>
    by_cases same : m = n
    · subst same
      have gone : l'.holds m = false := by simp [holds, dropped]
      simp only [act, gone, Bool.false_eq_true, if_false]
      split
      · refine ⟨bridge, contexts, fun k => ?_, ungiven, waiters⟩
        simp [dropped]
      · exact ⟨bridge, contexts, dropped, ungiven, waiters⟩
    · have held := holds_eq ⟨bridge, contexts, dropped, ungiven, waiters⟩ same
      simp only [act, held]
      split
      · refine ⟨bridge, contexts, fun k => ?_, ungiven, waiters⟩
        simp [dropped, or_left_comm]
      · exact ⟨bridge, contexts, dropped, ungiven, waiters⟩
  | wait i =>
    simp only [act, contexts]
    cases l.contexts[i]? with
    | none => exact ⟨bridge, contexts, dropped, ungiven, waiters⟩
    | some c =>
      exact ⟨bridge, rfl, dropped, ungiven, List.rel_append waiters (.cons ⟨rfl, .inl rfl⟩ .nil)⟩
  | look k =>
    refine ⟨bridge, contexts, dropped, ungiven, ?_⟩
    simp only [act, bridge]
    exact forall₂_modify (fun _ _ alike => alike.look dropped ungiven) waiters k
  | elsewhere a =>
    refine ⟨congrArg (elsewhere · a) bridge, contexts, dropped, ?_, waiters⟩
    show (elsewhere l.bridge a).signals.isGiven n = false
    rw [signals_elsewhere, ungiven]

theorem Unnoticed.woken (unnoticed : Unnoticed n l l') :
    l'.waiters.map (fun w => (w.context, decide (w.vigil = .woken))) =
      l.waiters.map fun w => (w.context, decide (w.vigil = .woken)) := by
  rw [← List.forall₂_eq_eq_eq, List.forall₂_map_left_iff, List.forall₂_map_right_iff]
  refine unnoticed.waiters.flip.imp fun w' w alike => ?_
  obtain ⟨context, same | ⟨watching, lost, -⟩⟩ := alike
  · rw [context, same]
  · rw [context, watching, lost]
    rfl

/-- Whatever happens after a handle was dropped, it would have been the same if it were not, as long
as it would not have given its signal. -/
theorem unnoticed_drop (ungiven : l.bridge.signals.isGiven n = false) {more : List Act}
    (silent : ∀ a ∈ more, a ≠ .cancel n) :
    let kept := act.after l more
    let gone := act.after (l.act (.drop n)).1 more
    gone.bridge = kept.bridge ∧ gone.contexts = kept.contexts ∧
      gone.waiters.map (fun w => (w.context, decide (w.vigil = .woken))) =
        kept.waiters.map fun w => (w.context, decide (w.vigil = .woken)) := by
  intro kept gone
  cases held : l.holds n with
  | false =>
    have same : gone = kept := by
      show act.after (l.act (.drop n)).1 more = act.after l more
      simp only [act, held, Bool.false_eq_true, if_false]
    rw [same]
    exact ⟨rfl, rfl, rfl⟩
  | true =>
    have start : Unnoticed n l (l.act (.drop n)).1 := by
      simp only [act, held, if_true]
      refine ⟨rfl, rfl, fun m => List.mem_cons, ungiven, ?_⟩
      exact List.forall₂_same.mpr fun w _ => ⟨rfl, .inl rfl⟩
    have run : Unnoticed n kept gone := by
      show Unnoticed n (act.after l more) (act.after (l.act (.drop n)).1 more)
      clear ungiven kept gone held
      generalize (l.act (.drop n)).1 = l' at start
      induction more generalizing l l' with
      | nil => exact start
      | cons a rest ih =>
        have next := start.unnoticed_act (silent a List.mem_cons_self)
        exact ih (fun b mem => silent b (List.mem_cons_of_mem _ mem)) _ next
    exact ⟨run.bridge, run.contexts, run.woken⟩

end

end Lineage

end PaymentRelay
