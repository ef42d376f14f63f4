import Mathlib.Data.List.Forall2
import PaymentRelay.Proofs.Bridge.Move

/-
  Where the replies come from that calls return.

  In every run of a bridge, with any schedule of its tasks, a call returns nothing but a reply that
  a peer of its own channel handed in, with the correlation id of the call and nothing else changed,
  and no reply is returned twice. What is heard on another channel does not touch the call
  (`Sound.untouched_listen`).

  The transcript of a run is followed along three invariants: who has joined which channel
  (`Members`), which calls were started how (`Starts`), and where the replies on their way were
  handed in (`Mail`). `Mail` keeps one position of the transcript for every reply that is unread and
  for every call that has got one; the positions of the unread replies lie beyond all others, and so
  a reply that is heard is nobody's yet.
-/

namespace PaymentRelay

namespace Bridge

/-- What has happened: the acts with their reports. -/
abbrev Log := List (Act × Report)

/-- At this position of the log stands an act with its report. -/
def Told (t : Log) (i : Nat) (a : Act) (r : Report) : Prop := t[i]? = some (a, r)

/-- At this position a peer that had joined the channel of the message handed it in, whatever
channel it claimed. -/
def Handed (t : Log) (i : Nat) (m : Message) : Prop :=
  ∃ peer claimed, Told t i (.reply peer claimed) (.replied (.ok ())) ∧
    m = claimed.stamped m.channel ∧ ∃ j < i, Told t j (.join m.channel) (.joined peer)

/-- The call with a number was started at this position, with a correlation id and on a channel. -/
def Begun (t : Log) (i number : Nat) (correlation channel : String) : Prop :=
  ∃ d fresh, Told t i (.start d fresh) (.started (.ok number)) ∧
    d.correlation fresh = correlation ∧ d.channel = channel

/-- Numbers are given one after the other, each once: which number is given at which position, and
which is the next. -/
structure Numbered (given : Nat → Nat → Prop) (next : Nat) : Prop where
  counted : ∀ i n, given i n → n < next
  once : ∀ i j n, given i n → given j n → i = j

/-- At this position a peer gets its number. -/
def Joined (t : Log) (i peer : Nat) : Prop := ∃ channel, Told t i (.join channel) (.joined peer)

/-- At this position a call gets its number. -/
def Started (t : Log) (i number : Nat) : Prop :=
  ∃ d fresh, Told t i (.start d fresh) (.started (.ok number))

/-- Peers have joined the channels that they are members of. -/
structure Members (t : Log) (b : Bridge) : Prop where
  joined : ∀ peer channel, (peer, channel) ∈ b.hub.badges →
    ∃ i, Told t i (.join channel) (.joined peer)
  numbered : Numbered (Joined t) b.hub.nextId

/-- Calls were started as they are. -/
structure Starts (t : Log) (b : Bridge) : Prop where
  begun : ∀ c ∈ b.calls, ∃ i, Begun t i c.number c.correlation c.channel
  numbered : Numbered (Started t) b.nextCall

/-- Where the replies on their way were handed in: those unread, in their order, and those that
calls have got, by the numbers of the calls. -/
structure Mail (t : Log) (b : Bridge) (unread : List Nat) (got : Nat → Option Nat) : Prop where
  handed : List.Forall₂ (Handed t) unread b.unread
  ordered : unread.Pairwise (· < ·)
  past : ∀ number i, got number = some i → i < t.length ∧ ∀ j ∈ unread, i < j
  apart : ∀ number number' i, got number = some i → got number' = some i → number = number'
  waiting : ∀ c ∈ b.calls, b.registry.content c.ticket = .waiting → got c.number = none
  coming : ∀ number, b.nextCall ≤ number → got number = none
  filled : ∀ c ∈ b.calls, ∀ m, b.registry.content c.ticket = .reply m →
    ∃ i, got c.number = some i ∧ Handed t i m

/-- Where the replies were handed in that have been returned or heard. -/
structure Receipts (t : Log) (got : Nat → Option Nat) : Prop where
  returned : ∀ j number branch m, Told t j (.poll number branch) (.ended number (.ok m)) →
    ∃ i < j, got number = some i ∧ Handed t i m ∧
      ∃ k < j, Begun t k number m.correlation m.channel
  heard : ∀ j m r, Told t j .listen (.heard m r) → ∃ i < j, Handed t i m

section
variable {t : Log} {b b' : Bridge} {a a' : Act} {r r' : Report} {i j : Nat} {m : Message}

/-! ## Logs that grow -/

theorem told_snoc :
    Told (t ++ [(a', r')]) i a r ↔ Told t i a r ∨ i = t.length ∧ a' = a ∧ r' = r := by
  rw [Told, Told, Machine.getElem?_snoc, Prod.mk.injEq]

theorem Told.lt (h : Told t i a r) : i < t.length := (List.getElem?_eq_some_iff.mp h).1

theorem Told.snoc (h : Told t i a r) : Told (t ++ [(a', r')]) i a r := told_snoc.mpr (.inl h)

theorem told_last : Told (t ++ [(a, r)]) t.length a r := told_snoc.mpr (.inr ⟨rfl, rfl, rfl⟩)

theorem Handed.lt (h : Handed t i m) : i < t.length := by
  obtain ⟨_, _, hi, _⟩ := h
  exact hi.lt

theorem Handed.snoc (h : Handed t i m) : Handed (t ++ [(a', r')]) i m := by
  obtain ⟨peer, claimed, hi, hm, j, hj, joined⟩ := h
  exact ⟨peer, claimed, hi.snoc, hm, j, hj, joined.snoc⟩

theorem Begun.snoc {number : Nat} {correlation channel : String}
    (h : Begun t i number correlation channel) :
    Begun (t ++ [(a', r')]) i number correlation channel := by
  obtain ⟨d, fresh, hi, hd⟩ := h
  exact ⟨d, fresh, hi.snoc, hd⟩

theorem Begun.lt {number : Nat} {correlation channel : String}
    (h : Begun t i number correlation channel) : i < t.length := by
  obtain ⟨_, _, hi, _⟩ := h
  exact hi.lt

/-! ## Numbers -/

theorem Numbered.same {given given' : Nat → Nat → Prop} {next : Nat} (h : Numbered given next)
    (old : ∀ i n, given' i n → given i n) : Numbered given' next :=
  ⟨fun i n hi => h.counted i n (old i n hi),
    fun i j n hi hj => h.once i j n (old i n hi) (old j n hj)⟩

theorem Numbered.one_more {given given' : Nat → Nat → Prop} {next : Nat}
    (h : Numbered given next) (last : Nat)
    (split : ∀ i n, given' i n → given i n ∨ i = last ∧ n = next) :
    Numbered given' (next + 1) := by
  refine ⟨?_, ?_⟩
  · intro i n hi
    rcases split i n hi with hi | ⟨_, same⟩
    · have := h.counted i n hi
      omega
    · omega
  · intro i j n hi hj
    rcases split i n hi with hi | ⟨hi, same⟩ <;> rcases split j n hj with hj | ⟨hj, same'⟩
    · exact h.once i j n hi hj
    · have := h.counted i n hi
      omega
    · have := h.counted j n hj
      omega
    · omega

theorem joined_snoc (h : Joined (t ++ [(a, r)]) i j) :
    Joined t i j ∨ i = t.length ∧ r = .joined j := by
  obtain ⟨channel, told⟩ := h
  rcases told_snoc.mp told with told | ⟨last, _, same⟩
  · exact .inl ⟨channel, told⟩
  · exact .inr ⟨last, same⟩

theorem started_snoc (h : Started (t ++ [(a, r)]) i j) :
    Started t i j ∨ i = t.length ∧ r = .started (.ok j) := by
  obtain ⟨d, fresh, told⟩ := h
  rcases told_snoc.mp told with told | ⟨last, _, same⟩
  · exact .inl ⟨d, fresh, told⟩
  · exact .inr ⟨last, same⟩

/-! ## Members -/

/-- An act at which nobody joins leaves the members as they are. -/
theorem Members.snoc (h : Members t b) (badges : b'.hub.badges ⊆ b.hub.badges)
    (nextId : b'.hub.nextId = b.hub.nextId) (hr : ∀ peer, r ≠ .joined peer) :
    Members (t ++ [(a, r)]) b' := by
  refine ⟨?_, ?_⟩
  · intro peer channel hmem
    obtain ⟨i, joined⟩ := h.joined peer channel (badges hmem)
    exact ⟨i, joined.snoc⟩
  · rw [nextId]
    refine h.numbered.same fun i peer hi => ?_
    rcases joined_snoc hi with hi | ⟨_, same⟩
    · exact hi
    · exact absurd same (hr peer)

theorem Members.join (h : Members t b) {channel : String}
    (badges : b'.hub.badges = b.hub.badges ++ [(b.hub.nextId, channel)])
    (nextId : b'.hub.nextId = b.hub.nextId + 1) :
    Members (t ++ [(.join channel, .joined b.hub.nextId)]) b' := by
  refine ⟨?_, ?_⟩
  · intro peer k hmem
    rw [badges] at hmem
    rcases List.mem_append.mp hmem with hmem | hmem
    · obtain ⟨i, joined⟩ := h.joined peer k hmem
      exact ⟨i, joined.snoc⟩
    · simp only [List.mem_singleton, Prod.mk.injEq] at hmem
      obtain ⟨rfl, rfl⟩ := hmem
      exact ⟨t.length, told_last⟩
  · rw [nextId]
    refine h.numbered.one_more t.length fun i peer hi => ?_
    exact (joined_snoc hi).imp_right fun ⟨last, same⟩ => ⟨last, (Report.joined.inj same).symm⟩

theorem Members.step (h : Members t b) (move : Move b b' a r) : Members (t ++ [(a, r)]) b' := by
  have stay : b'.hub.badges = b.hub.badges → b'.hub.badges ⊆ b.hub.badges :=
    fun badges _ hx => badges ▸ hx
  cases move with
  | quiet report badges nextId =>
    refine h.snoc badges nextId ?_
    rintro peer rfl
    cases report
  | joined badges nextId => exact h.join badges nextId
  | handed _ badges nextId => exact h.snoc (stay badges) nextId nofun
  | opened badges nextId => exact h.snoc (stay badges) nextId nofun
  | heard badges nextId => exact h.snoc (stay badges) nextId nofun
  | returned _ _ badges nextId => exact h.snoc (stay badges) nextId nofun

/-! ## Calls -/

/-- An act at which no call starts leaves it true how calls were started. -/
theorem Starts.snoc (h : Starts t b)
    (calls : ∀ d ∈ b'.calls, ∃ c ∈ b.calls, d = { c with stage := d.stage })
    (nextCall : b'.nextCall = b.nextCall) (hr : ∀ number, r ≠ .started (.ok number)) :
    Starts (t ++ [(a, r)]) b' := by
  refine ⟨?_, ?_⟩
  · intro d hd
    obtain ⟨c, hc, same⟩ := calls d hd
    obtain ⟨i, begun⟩ := h.begun c hc
    rw [same]
    exact ⟨i, begun.snoc⟩
  · rw [nextCall]
    refine h.numbered.same fun i number hi => ?_
    rcases started_snoc hi with hi | ⟨_, same⟩
    · exact hi
    · exact absurd same (hr number)

theorem Starts.opened (h : Starts t b) {d : Dial} {fresh : String}
    (calls : b'.calls = b.calls ++ [b.opened d fresh]) (nextCall : b'.nextCall = b.nextCall + 1) :
    Starts (t ++ [(.start d fresh, .started (.ok b.nextCall))]) b' := by
  refine ⟨?_, ?_⟩
  · intro c hc
    rw [calls] at hc
    rcases List.mem_append.mp hc with hc | hc
    · obtain ⟨i, begun⟩ := h.begun c hc
      exact ⟨i, begun.snoc⟩
    · rw [List.mem_singleton] at hc
      subst hc
      exact ⟨t.length, d, fresh, told_last, rfl, rfl⟩
  · rw [nextCall]
    refine h.numbered.one_more t.length fun i number hi => ?_
    refine (started_snoc hi).imp_right fun ⟨last, same⟩ => ⟨last, ?_⟩
    exact (Except.ok.inj (Report.started.inj same)).symm

theorem Starts.step (h : Starts t b) (move : Move b b' a r) : Starts (t ++ [(a, r)]) b' := by
  have stay : b'.calls = b.calls → ∀ d ∈ b'.calls, ∃ c ∈ b.calls, d = { c with stage := d.stage } :=
    fun calls d hd => ⟨d, calls ▸ hd, rfl⟩
  have fewer : NoMail b b' → ∀ d ∈ b'.calls, ∃ c ∈ b.calls, d = { c with stage := d.stage } :=
    fun noMail d hd => (noMail d hd).imp fun _ ⟨hc, same, _⟩ => ⟨hc, same⟩
  cases move with
  | quiet report _ _ _ nextCall noMail =>
    refine h.snoc (fewer noMail) nextCall ?_
    rintro number rfl
    cases report
  | joined _ _ _ nextCall calls => exact h.snoc (stay calls) nextCall nofun
  | handed _ _ _ _ nextCall calls => exact h.snoc (stay calls) nextCall nofun
  | opened _ _ _ nextCall calls => exact h.opened calls nextCall
  | heard _ _ _ nextCall calls => exact h.snoc (stay calls) nextCall nofun
  | returned _ _ _ _ _ nextCall noMail => exact h.snoc (fewer noMail) nextCall nofun

/-! ## Mail -/

variable {unread : List Nat} {got got' : Nat → Option Nat}

theorem Receipts.snoc (h : Receipts t got)
    (keeps : ∀ number i, got number = some i → got' number = some i)
    (returned : ∀ number m, r = .ended number (.ok m) → ∃ i, got' number = some i ∧
      Handed t i m ∧ ∃ k, Begun t k number m.correlation m.channel)
    (heard : ∀ m x, r = .heard m x → ∃ i, Handed t i m) : Receipts (t ++ [(a, r)]) got' := by
  refine ⟨?_, ?_⟩
  · intro j number branch m hj
    rcases told_snoc.mp hj with hj | ⟨rfl, _, same⟩
    · obtain ⟨i, hi, hg, handed, k, hk, begun⟩ := h.returned j number branch m hj
      exact ⟨i, hi, keeps number i hg, handed.snoc, k, hk, begun.snoc⟩
    · obtain ⟨i, hg, handed, k, begun⟩ := returned number m same
      exact ⟨i, handed.lt, hg, handed.snoc, k, begun.lt, begun.snoc⟩
  · intro j m x hj
    rcases told_snoc.mp hj with hj | ⟨rfl, _, same⟩
    · obtain ⟨i, hi, handed⟩ := h.heard j m x hj
      exact ⟨i, hi, handed.snoc⟩
    · obtain ⟨i, handed⟩ := heard m x same
      exact ⟨i, handed.lt, handed.snoc⟩

/-- An act that brings nothing to the calls leaves the mail where it is. -/
theorem Mail.quiet (h : Mail t b unread got) (same : b'.unread = b.unread)
    (nextCall : b'.nextCall = b.nextCall) (noMail : NoMail b b') :
    Mail (t ++ [(a, r)]) b' unread got where
  handed := by
    rw [same]
    exact h.handed.imp fun _ _ handed => handed.snoc
  ordered := h.ordered
  past := by
    intro number i hg
    obtain ⟨lt, before⟩ := h.past number i hg
    exact ⟨by rw [List.length_append]; omega, before⟩
  apart := h.apart
  waiting := by
    intro d hd hw
    obtain ⟨c, hc, same, content⟩ := noMail d hd
    rw [same] at hw ⊢
    rcases content with content | content
    · exact h.waiting c hc (content.symm.trans hw)
    · exact absurd (content.symm.trans hw) nofun
  coming := by
    rw [nextCall]
    exact h.coming
  filled := by
    intro d hd m hm
    obtain ⟨c, hc, same, content⟩ := noMail d hd
    rw [same] at hm ⊢
    rcases content with content | content
    · obtain ⟨i, hg, handed⟩ := h.filled c hc m (content.symm.trans hm)
      exact ⟨i, hg, handed.snoc⟩
    · exact absurd (content.symm.trans hm) nofun

/-- A reply that is handed in gets a position beyond all others. -/
theorem Mail.hand_in (h : Mail t b unread got) {peer : Nat} {channel : String}
    (joined : ∃ i, Told t i (.join channel) (.joined peer))
    (queued : b'.unread = enqueue b.hub.capacity b.unread (m.stamped channel))
    (nextCall : b'.nextCall = b.nextCall) (calls : b'.calls = b.calls)
    (registry : b'.registry = b.registry) :
    ∃ unread', Mail (t ++ [(.reply peer m, .replied (.ok ()))]) b' unread' got := by
  have old : Mail (t ++ [(.reply peer m, .replied (.ok ()))]) b unread got :=
    h.quiet rfl rfl (noMail_of_eq rfl rfl)
  have new : Handed (t ++ [(.reply peer m, .replied (.ok ()))]) t.length (m.stamped channel) := by
    obtain ⟨i, joined⟩ := joined
    exact ⟨peer, m, told_last, rfl, i, joined.lt, joined.snoc⟩
  have before : ∀ i ∈ unread, i < t.length := by
    intro i hi
    obtain ⟨n, hn, rfl⟩ := List.getElem_of_mem hi
    exact (h.handed.get hn (h.handed.length_eq ▸ hn)).lt
  -- The queue may lose its oldest replies; the positions are cut where the queue is.
  let cut := b.unread.length + 1 - b.hub.capacity
  refine ⟨(unread ++ [t.length]).drop cut, ?_, ?_, ?_, old.apart, ?_, ?_, ?_⟩
  · rw [queued, enqueue]
    exact List.forall₂_drop _ (List.rel_append old.handed (.cons new .nil))
  · refine List.Pairwise.sublist (List.drop_sublist _ _) (List.pairwise_append.mpr
      ⟨h.ordered, List.pairwise_singleton .., ?_⟩)
    intro i hi j hj
    rw [List.mem_singleton] at hj
    subst hj
    exact before i hi
  · intro number i hg
    refine ⟨(old.past number i hg).1, ?_⟩
    intro j hj
    rcases List.mem_append.mp (List.mem_of_mem_drop hj) with hj | hj
    · exact (h.past number i hg).2 j hj
    · rw [List.mem_singleton] at hj
      subst hj
      exact (h.past number i hg).1
  · rw [calls, registry]
    exact old.waiting
  · rw [nextCall]
    exact old.coming
  · rw [calls, registry]
    exact old.filled

/-- A call that starts has got nothing. -/
theorem Mail.opened (h : Mail t b unread got) {d : Dial} {fresh : String}
    (same : b'.unread = b.unread) (nextCall : b'.nextCall = b.nextCall + 1)
    (calls : b'.calls = b.calls ++ [b.opened d fresh])
    (content : ∀ c ∈ b.calls, b'.registry.content c.ticket = b.registry.content c.ticket)
    (waits : b'.registry.content (b.opened d fresh).ticket = .waiting) :
    Mail (t ++ [(a, r)]) b' unread got := by
  have old : Mail (t ++ [(a, r)]) b unread got := h.quiet rfl rfl (noMail_of_eq rfl rfl)
  have split : ∀ c ∈ b'.calls, c ∈ b.calls ∨ c = b.opened d fresh := by
    intro c hc
    simpa [calls] using hc
  refine ⟨?_, h.ordered, old.past, h.apart, ?_, ?_, ?_⟩
  · rw [same]
    exact old.handed
  · intro c hc hw
    rcases split c hc with hc | rfl
    · exact h.waiting c hc ((content c hc).symm.trans hw)
    · exact h.coming b.nextCall (Nat.le_refl _)
  · intro number hn
    exact h.coming number (by omega)
  · intro c hc m hm
    rcases split c hc with hc | rfl
    · exact old.filled c hc m ((content c hc).symm.trans hm)
    · rw [waits] at hm
      cases hm

section
variable {i : Nat} {rest : List Nat}

/-- The other replies stay where they are when the first one is heard. -/
theorem Mail.handed_rest (h : Mail t b (i :: rest) got) (queued : b.unread = m :: b'.unread) :
    Handed t i m ∧ List.Forall₂ (Handed (t ++ [(a, r)])) rest b'.unread := by
  have handed := h.handed
  rw [queued] at handed
  obtain ⟨first, others⟩ := List.forall₂_cons.mp handed
  exact ⟨first, others.imp fun _ _ handed => handed.snoc⟩

/-- What calls have got was handed in before the replies that are left. -/
theorem Mail.past_rest (h : Mail t b (i :: rest) got) {number j : Nat}
    (has : got number = some j) : j < (t ++ [(a, r)]).length ∧ ∀ k ∈ rest, j < k := by
  obtain ⟨lt, before⟩ := h.past number j has
  exact ⟨by rw [List.length_append]; omega, fun k hk => before k (List.mem_cons_of_mem _ hk)⟩

/-- The first reply unread is heard and comes to nobody. -/
theorem Mail.unclaimed (h : Mail t b (i :: rest) got) (queued : b.unread = m :: b'.unread)
    (nextCall : b'.nextCall = b.nextCall) (calls : b'.calls = b.calls)
    (same : ∀ c ∈ b.calls, b'.registry.content c.ticket = b.registry.content c.ticket) :
    Mail (t ++ [(a, r)]) b' rest got where
  handed := (h.handed_rest queued).2
  ordered := (List.pairwise_cons.mp h.ordered).2
  past _ _ has := h.past_rest has
  apart := h.apart
  waiting c hc hw := by
    rw [calls] at hc
    exact h.waiting c hc ((same c hc).symm.trans hw)
  coming := by
    rw [nextCall]
    exact h.coming
  filled c hc x hx := by
    rw [calls] at hc
    obtain ⟨j, has, handed⟩ := h.filled c hc x ((same c hc).symm.trans hx)
    exact ⟨j, has, handed.snoc⟩

/-- The first reply unread is heard and comes to a call that waits. -/
theorem Mail.claimed (h : Mail t b (i :: rest) got) (sound : b.Sound)
    (queued : b.unread = m :: b'.unread) (nextCall : b'.nextCall = b.nextCall)
    (calls : b'.calls = b.calls) {d : Call} (hd : d ∈ b.calls)
    (full : b'.registry.content d.ticket = .reply m)
    (same : ∀ c ∈ b.calls, c.ticket ≠ d.ticket →
      b'.registry.content c.ticket = b.registry.content c.ticket) :
    Mail (t ++ [(a, r)]) b' rest fun n => if n = d.number then some i else got n := by
  obtain ⟨first, others⟩ := h.handed_rest (a := a) (r := r) queued
  obtain ⟨beyond, ordered⟩ := List.pairwise_cons.mp h.ordered
  have mine : ∀ c ∈ b.calls, c.number = d.number → c = d := sound.unique hd
  have others_same : ∀ c ∈ b.calls, c.number ≠ d.number →
      b'.registry.content c.ticket = b.registry.content c.ticket :=
    fun c hc hn => same c hc fun ht => hn (by rw [sound.eq_of_mem hc hd (.inr ht)])
  -- The position lies beyond those of all replies that calls have got.
  have new : ∀ number, got number ≠ some i := fun number hg =>
    Nat.lt_irrefl i ((h.past number i hg).2 i (List.mem_cons_self ..))
  refine ⟨others, ordered, ?_, ?_, ?_, ?_, ?_⟩
  · intro number j hg
    split at hg
    · cases hg
      exact ⟨Nat.lt_trans first.lt (by simp), beyond⟩
    · exact h.past_rest hg
  · intro number number' j hg hg'
    split at hg <;> split at hg'
    · omega
    · cases hg
      exact absurd hg' (new number')
    · cases hg'
      exact absurd hg (new number)
    · exact h.apart number number' j hg hg'
  · intro c hc hw
    rw [calls] at hc
    by_cases hn : c.number = d.number
    · rw [mine c hc hn, full] at hw
      cases hw
    · rw [if_neg hn]
      exact h.waiting c hc ((others_same c hc hn).symm.trans hw)
  · intro number hn
    have := sound.counted d hd
    rw [if_neg (by omega)]
    exact h.coming number (by omega)
  · intro c hc x hx
    rw [calls] at hc
    by_cases hn : c.number = d.number
    · rw [mine c hc hn, full, Content.reply.injEq] at hx
      subst hx
      exact ⟨i, if_pos hn, first.snoc⟩
    · rw [if_neg hn]
      obtain ⟨j, has, handed⟩ := h.filled c hc x ((others_same c hc hn).symm.trans hx)
      exact ⟨j, has, handed.snoc⟩

end

/-- A reply that is heard is the first one unread. It comes to nobody, or to one call that waits,
and then it is that call's and nobody else's. -/
theorem Mail.hear (h : Mail t b unread got) (sound : b.Sound)
    (queued : b.unread = m :: b'.unread) (nextCall : b'.nextCall = b.nextCall)
    (calls : b'.calls = b.calls)
    (filled : (∀ c ∈ b.calls, b'.registry.content c.ticket = b.registry.content c.ticket) ∨
      ∃ d ∈ b.calls, b.registry.content d.ticket = .waiting ∧
        b'.registry.content d.ticket = .reply m ∧
        ∀ c ∈ b.calls, c.ticket ≠ d.ticket →
          b'.registry.content c.ticket = b.registry.content c.ticket) :
    ∃ i unread' got', Handed t i m ∧ (∀ number j, got number = some j → got' number = some j) ∧
      Mail (t ++ [(a, r)]) b' unread' got' := by
  have handed := h.handed
  rw [queued] at handed
  obtain ⟨i, rest, first, -, rfl⟩ := List.forall₂_cons_right_iff.mp handed
  rcases filled with same | ⟨d, hd, waits, full, same⟩
  · exact ⟨i, rest, got, first, fun _ _ has => has, h.unclaimed queued nextCall calls same⟩
  · refine ⟨i, rest, _, first, fun number j has => ?_,
      h.claimed sound queued nextCall calls hd full same⟩
    have other : number ≠ d.number := by
      rintro rfl
      rw [h.waiting d hd waits] at has
      cases has
    exact (if_neg other).trans has

/-- Every act leaves it known where replies were handed in. -/
theorem Mail.step (h : Mail t b unread got) (receipts : Receipts t got) (sound : b.Sound)
    (members : Members t b) (starts : Starts t b) (move : Move b b' a r) :
    ∃ unread' got', Mail (t ++ [(a, r)]) b' unread' got' ∧ Receipts (t ++ [(a, r)]) got' := by
  have nothing : (∀ number m, r ≠ .ended number (.ok m)) → (∀ m x, r ≠ .heard m x) →
      Receipts (t ++ [(a, r)]) got :=
    fun returned heard => receipts.snoc (fun _ _ hg => hg)
      (fun number m same => absurd same (returned number m))
      (fun m x same => absurd same (heard m x))
  cases move with
  | quiet report _ _ same nextCall noMail =>
    refine ⟨_, _, h.quiet same nextCall noMail, nothing ?_ ?_⟩
    · rintro number m rfl
      cases report
    · rintro m x rfl
      cases report
  | joined _ _ same nextCall calls registry =>
    exact ⟨_, _, h.quiet same nextCall (noMail_of_eq calls registry), nothing (by simp) (by simp)⟩
  | handed member _ _ queued nextCall calls registry =>
    rcases queued with same | queued
    · exact ⟨_, _, h.quiet same nextCall (noMail_of_eq calls registry), nothing (by simp) (by simp)⟩
    · obtain ⟨unread', mail⟩ := h.hand_in (members.joined _ _ member) queued nextCall calls registry
      exact ⟨unread', got, mail, nothing (by simp) (by simp)⟩
  | opened _ _ same nextCall calls content waits =>
    exact ⟨_, _, h.opened same nextCall calls content waits, nothing (by simp) (by simp)⟩
  | heard _ _ queued nextCall calls filled =>
    obtain ⟨i, unread', got', first, keeps, mail⟩ := h.hear sound queued nextCall calls filled
    refine ⟨unread', got', mail, receipts.snoc keeps (by simp) ?_⟩
    intro m x same
    injection same with same
    subst same
    exact ⟨i, first⟩
  | returned mem full _ _ same nextCall noMail =>
    refine ⟨_, _, h.quiet same nextCall noMail, receipts.snoc (fun _ _ hg => hg) ?_ (by simp)⟩
    intro number x same
    simp only [Report.ended.injEq, Except.ok.injEq] at same
    obtain ⟨rfl, rfl⟩ := same
    obtain ⟨i, hg, handed⟩ := h.filled _ mem _ full
    obtain ⟨k, begun⟩ := starts.begun _ mem
    obtain ⟨correlation, channel⟩ := sound.answered _ mem _ full
    refine ⟨i, hg, handed, k, ?_⟩
    rw [correlation, channel]
    exact begun

end

/-! ## Runs -/

/-- What is known at the end of a run. -/
structure Traced (t : Log) (b : Bridge) : Prop where
  sound : b.Sound
  members : Members t b
  starts : Starts t b
  mail : ∃ unread got, Mail t b unread got ∧ Receipts t got

theorem traced_new (capacity limit : Nat) : Traced [] (new (.new capacity limit) true) where
  sound := sound_new _ _
  members := ⟨by simp [new, Hub.subscribe, Hub.new, Hub.badges],
    ⟨by simp [Joined, Told], by simp [Joined, Told]⟩⟩
  starts := ⟨by simp [new], ⟨by simp [Started, Told], by simp [Started, Told]⟩⟩
  mail := by
    refine ⟨[], fun _ => none, ⟨?_, .nil, by simp, by simp, by simp, by simp, by simp [new]⟩,
      by simp [Told], by simp [Told]⟩
    rw [unread_new]
    exact .nil

theorem traced_step {t : Log} {b : Bridge} (a : Act) (h : Traced t b) :
    Traced (t ++ [(a, (b.act a).2)]) (b.act a).1 := by
  have move := h.sound.move a
  obtain ⟨unread, got, mail, receipts⟩ := h.mail
  exact ⟨sound_act h.sound a, h.members.step move, h.starts.step move,
    mail.step receipts h.sound h.members h.starts move⟩

theorem traced (capacity limit : Nat) (acts : List Act) :
    Traced (act.transcript (new (.new capacity limit) true) acts)
      (act.after (new (.new capacity limit) true) acts) :=
  act.history (traced_new capacity limit) (fun _ _ a h => traced_step a h) acts

/-! ## Replies on other channels -/

/-- A call is as it was: what lies in its slot, its entry, the clock and the signals are the same,
and while its entry is there the call finds the same at whatever it looks. -/
structure Untouched (b b' : Bridge) (c : Call) : Prop where
  inFlight : c ∈ b'.calls
  clock : b'.now = b.now
  signals : b'.signals = b.signals
  content : b'.registry.content c.ticket = b.registry.content c.ticket
  held : b'.registry.isAbandoned c.ticket = b.registry.isAbandoned c.ticket
  entry : ∀ e, e.ticket = c.ticket → (e ∈ b'.registry.entries ↔ e ∈ b.registry.entries)
  finds : b.registry.Live c.ticket → ∀ branch,
    (b'.poll c.number branch).2 = (b.poll c.number branch).2

section
variable {b : Bridge} {c : Call} {m : Message} {rest : List Message}

/-- What is heard on another channel leaves a call as it was. -/
theorem Sound.untouched_listen (h : b.Sound) (hc : c ∈ b.calls) (queued : b.unread = m :: rest)
    (other : m.channel ≠ c.channel) : Untouched b b.listen c := by
  obtain ⟨streams, eq, _⟩ := listen_of_cons queued
  have registry : b.listen.registry = (b.registry.perform (.resolve m)).1 := by
    rw [eq]
    rfl
  have inFlight : c ∈ b.listen.calls := by
    rw [eq]
    exact hc
  obtain ⟨entry, content⟩ : (∀ e, e.ticket = c.ticket →
      (e ∈ b.listen.registry.entries ↔ e ∈ b.registry.entries)) ∧
      b.listen.registry.content c.ticket = b.registry.content c.ticket := by
    rw [registry]
    have turn := h.registry.turn (h.held c hc).1 (.resolve m)
    generalize (b.registry.perform (.resolve m)).2 = answer at turn
    cases turn with
    | kept entries content => exact ⟨entries, content⟩
    | delivered mem ticket _ channel =>
      exact absurd (channel.trans (h.entry_of_ticket hc mem ticket).2) other
    | lost mem ticket _ channel =>
      exact absurd (channel.trans (h.entry_of_ticket hc mem ticket).2) other
  refine ⟨inFlight, by rw [eq], by rw [eq], content, ?_, entry, ?_⟩
  · rw [registry]
    exact Registry.isAbandoned_perform (h.held c hc).1 Registry.Op.noConfusion
  · rintro ⟨e, he, ht⟩ branch
    have hw : b.registry.content c.ticket = .waiting := ht ▸ h.registry.waiting e he
    rw [h.poll_of_waiting hc hw, h.sound_listen.poll_of_waiting inFlight (content.trans hw)]
    have same : b.listen.now = b.now ∧ b.listen.signals = b.signals := by
      rw [eq]
      exact ⟨rfl, rfl⟩
    rw [same.1, same.2]

end

/-! ## Every run -/

/-- In every run, whatever a call returns was handed in by a peer that has joined the channel of the
call and no other, has the correlation id of the call, and is otherwise what the peer passed; no two
calls return the same reply. What is heard was handed in by a peer of the channel that it is heard
on, and leaves the calls on all other channels as they were. -/
theorem returned_reply_from_own_channel (capacity limit : Nat) (acts : List Act) :
    let b := new (.new capacity limit) true
    let t := act.transcript b acts
    (∃ source : Nat → Nat,
      (∀ i j number d fresh branch m,
        Told t i (.start d fresh) (.started (.ok number)) →
        Told t j (.poll number branch) (.ended number (.ok m)) →
        i < j ∧ source number < j ∧ m.correlation = d.correlation fresh ∧
          m.channel = d.channel ∧ ∃ peer claimed,
            Told t (source number) (.reply peer claimed) (.replied (.ok ())) ∧
            m = claimed.stamped d.channel ∧
            (∃ k < source number, Told t k (.join d.channel) (.joined peer)) ∧
            ∀ k channel, Told t k (.join channel) (.joined peer) → channel = d.channel) ∧
      ∀ j j' number number' branch branch' m m',
        Told t j (.poll number branch) (.ended number (.ok m)) →
        Told t j' (.poll number' branch') (.ended number' (.ok m')) →
        source number = source number' → number = number') ∧
    ∀ before after m r, acts = before ++ .listen :: after →
      ((act.after b before).act .listen).2 = .heard m r →
      (∃ i < before.length, Handed t i m) ∧
      ∀ c ∈ (act.after b before).calls, m.channel ≠ c.channel →
        Untouched (act.after b before) ((act.after b before).act .listen).1 c := by
  intro b t
  have traced := traced capacity limit acts
  obtain ⟨_, got, mail, receipts⟩ := traced.mail
  refine ⟨⟨fun number => (got number).getD 0, ?_, ?_⟩, ?_⟩
  · intro i j number d fresh branch m hi hj
    obtain ⟨s, hs, hg, handed, k, hk, d', fresh', begun, correlation, channel⟩ :=
      receipts.returned j number branch m hj
    -- The call was started once.
    have same := traced.starts.numbered.once i k number ⟨d, fresh, hi⟩ ⟨d', fresh', begun⟩
    subst same
    have same := Option.some.inj (hi.symm.trans begun)
    simp only [Prod.mk.injEq, Act.start.injEq] at same
    obtain ⟨⟨rfl, rfl⟩, _⟩ := same
    obtain ⟨peer, claimed, told, stamped, n, hn, joined⟩ := handed
    simp only [hg, Option.getD_some, channel]
    refine ⟨hk, hs, correlation.symm, trivial, peer, claimed, told, stamped, ⟨n, hn, joined⟩, ?_⟩
    intro n' channel' joined'
    -- And the peer has joined once.
    have same := traced.members.numbered.once n n' peer ⟨_, joined⟩ ⟨_, joined'⟩
    subst same
    have same := Option.some.inj (joined.symm.trans joined')
    simp only [Prod.mk.injEq, Act.join.injEq] at same
    exact same.1.symm
  · intro j j' number number' branch branch' m m' hj hj' same
    obtain ⟨s, _, hg, _⟩ := receipts.returned j number branch m hj
    obtain ⟨s', _, hg', _⟩ := receipts.returned j' number' branch' m' hj'
    simp only [hg, hg', Option.getD_some] at same
    exact mail.apart number number' s hg (same ▸ hg')
  · intro before after m r split heard
    have sound : (act.after b before).Sound := sound_after (sound_new _ _) before
    refine ⟨?_, ?_⟩
    · refine receipts.heard before.length m r ?_
      rw [Told, split, Machine.getElem?_transcript_append]
      exact congrArg (fun x => some (Act.listen, x)) heard
    · intro c hc other
      rw [act_listen]
      cases queued : (act.after b before).unread with
      | nil => simp [act, queued] at heard
      | cons x rest =>
        simp only [act, queued, Report.heard.injEq] at heard
        exact sound.untouched_listen hc queued (heard.1 ▸ other)

/-- A call that is answered by a peer that claims another channel: the reply is stamped with the
channel that the peer has joined, and returned. -/
theorem returned_reply_from_own_channel_answered :
    let m : Message := ⟨"payment", "inv-1", "", "c-1", .empty, .null, .epoch⟩
    let claimed : Message := { m with channel := "elsewhere" }
    let d : Dial := ⟨.background, "inv-1", m, .ofSeconds 10⟩
    let acts := [.join "inv-1", .start d "", .reply 1 claimed, .listen, .poll 0 .reply]
    let t := act.transcript (new (.new 1 m.size) true) acts
    Told t 1 (.start d "") (.started (.ok 0)) ∧
      Told t 4 (.poll 0 .reply) (.ended 0 (.ok m)) ∧
      ∃ i < 4, ∃ peer claimed, Told t i (.reply peer claimed) (.replied (.ok ())) ∧
        m = claimed.stamped "inv-1" := by
  intro m claimed d acts t
  have room (x : Message) : enqueue (Nat.nextPowerOfTwo 1) [] x = [x] :=
    enqueue_nil (Hub.capacity_pos 1 0) x
  have members : (Dict.lookup "inv-1"
      (Dict.put "inv-1" ((Dict.lookup "inv-1" []).getD 0 + 1) [])).getD 0 = 1 := by decide
  have run : Told t 1 (.start d "") (.started (.ok 0)) ∧
      Told t 4 (.poll 0 .reply) (.ended 0 (.ok m)) := by
    simp [t, acts, d, claimed, m, Told, Machine.transcript, act, new, Hub.new, Hub.subscribe,
      Hub.join, start, Context.background, Context.isCancelled, Registry.empty, Registry.register,
      Registry.isPending, Registry.entry?, Hub.publish, Hub.checkSize, Directory.members,
      Directory.enter, Hub.reach, Hub.deliver, Hub.peer?, Hub.reply, Message.stamped, room, members,
      unread, Hub.stream?, listen, Hub.receiveReply, poll, look, collect, Registry.take,
      Registry.content, Registry.slot?, Registry.resolve, Registry.fill, Registry.isAbandoned,
      Registry.without]
  obtain ⟨⟨source, origin, _⟩, _⟩ := returned_reply_from_own_channel 1 m.size acts
  obtain ⟨_, earlier, _, _, peer, claimed', told, stamped, _⟩ :=
    origin 1 4 0 d "" .reply m run.1 run.2
  exact ⟨run.1, run.2, source 0, earlier, peer, claimed', told, stamped⟩

end Bridge

end PaymentRelay
