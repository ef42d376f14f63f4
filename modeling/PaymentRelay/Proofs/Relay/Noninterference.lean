import PaymentRelay.Proofs.Relay.Alike

/-
  Invoices do not interfere.

  An invoice sees of a run what its share does in the steps about it (`Filed.seen`), and alike
  shares see alike runs alike (`Share.Alike.transcript`). So of two runs that agree on the steps
  about an invoice, but for what is made afresh, the invoice sees the same, whatever else happens in
  either of them: requests for other invoices, and peers of other channels that send anything, also
  under the ids of its calls (`invoices_do_not_interfere`).
-/

namespace PaymentRelay

namespace Share

section
variable {F : String → String → Prop} {s s' : Share}

/-- What is for good about a share: its invoice and its limits. -/
structure Same (s s' : Share) : Prop where
  channel : s'.channel = s.channel
  limits : s'.limits = s.limits

theorem same_hear (s : Share) (m : Message) : s.Same (s.hear m).1 := by
  unfold hear
  split <;> exact ⟨rfl, rfl⟩

theorem same_request (s : Share) (client : Nat) (q : Http.Request) (stamp : Stamp) :
    s.Same (s.request client q stamp).1 := by
  unfold request
  split
  · exact ⟨rfl, rfl⟩
  · unfold carryOut
    split <;> split <;> exact ⟨rfl, rfl⟩
  · exact ⟨rfl, rfl⟩

theorem same_peerAct (s : Share) (n : Nat) (unread : List Message) (act : Office.PeerAct) :
    s.Same (s.peerAct n unread act).1 := by
  cases act with
  | reply m => exact same_hear s m
  | leave => exact ⟨rfl, rfl⟩
  | receive => cases unread <;> exact ⟨rfl, rfl⟩

theorem same_lineAct (s : Share) (n : Nat) (x : Session) (act : Office.LineAct) :
    s.Same (s.lineAct n x act).1 := by
  cases act with
  | frame bytes now =>
    simp only [lineAct]
    split
    · split
      · next m _ =>
        have heard := same_hear (s.put n (x.touch s.now)) m
        exact ⟨heard.channel, heard.limits⟩
      · exact ⟨rfl, rfl⟩
    · exact ⟨rfl, rfl⟩
  | _ =>
    simp only [lineAct]
    split <;> exact ⟨rfl, rfl⟩

theorem same_step (s : Share) (a : Office.Step) : s.Same (s.step a).1 := by
  unfold step
  split
  · cases a with
    | request client q stamp => exact same_request s client q stamp
    | peer c n act =>
      simp only [Share.act]
      split
      · exact same_peerAct s n _ act
      · exact ⟨rfl, rfl⟩
    | line c n act =>
      simp only [Share.act]
      split
      · exact same_lineAct s n _ act
      · exact ⟨rfl, rfl⟩
    | _ => exact ⟨rfl, rfl⟩
  · exact ⟨rfl, rfl⟩

/-- Steps about other invoices do nothing to a share. -/
theorem step_foreign {a : Office.Step} (foreign : ¬ a.Concerns s.channel) : s.step a = (s, []) :=
  if_neg foreign

/-- A share is told nothing of steps about other invoices. -/
theorem transcript_foreign {steps : List Office.Step} {x : Office.Step × List Office.Event}
    (there : x ∈ Share.step.transcript s steps) (foreign : ¬ x.1.Concerns s.channel) :
    x.2 = [] := by
  induction steps generalizing s with
  | nil => cases there
  | cons a rest ih =>
    rcases List.mem_cons.mp there with rfl | later
    · exact congrArg Prod.snd (step_foreign foreign)
    · exact ih later ((same_step s a).channel ▸ foreign)

/-- Alike shares see alike runs alike. -/
theorem Alike.transcript (same : s.Alike F s') {limit : Nat} (frame : s.limits.frame = limit)
    {steps steps' : List Office.Step}
    (agree : List.Forall₂ (Office.Step.Alike limit F) steps steps') :
    List.Forall₂ (List.Forall₂ (Office.Event.Alike F)) ((Share.step.transcript s steps).map (·.2))
      ((Share.step.transcript s' steps').map (·.2)) := by
  induction agree generalizing s s' with
  | nil => exact .nil
  | @cons a a' _ _ first _ ih =>
    have follows := same.step (frame ▸ first)
    have limits := (same_step s a).limits
    exact .cons follows.events (ih follows.shares ((congrArg _ limits).trans frame))

end

end Share

namespace Office

section
variable {used : List String} {o : Office} {k : String} {steps steps' : List Step}

/-- What an invoice gets to see of the steps about it, step by step. -/
def seen (k : String) (run : List (Step × List Report)) : List (List Event) :=
  (run.filter fun x => x.1.Concerns k).map fun x => told k x.2

/-- What an invoice sees of a run is what its share does in the steps about it alone. -/
theorem Filed.seen (filed : o.Filed used) (fresh : (steps.filterMap Step.fresh?).Nodup)
    (unused : ∀ id ∈ steps.filterMap Step.fresh?, id ∉ used) (k : String) :
    seen k (step.transcript o steps) =
        (Share.step.transcript (o.share k) (steps.filter (·.Concerns k))).map (·.2) ∧
      ∀ x ∈ step.transcript o steps, ¬ x.1.Concerns k → told k x.2 = [] := by
  have told := filed.transcript fresh unused k
  have own : ((Share.step.transcript (o.share k) steps).filter fun x => x.1.Concerns k) =
      Share.step.transcript (o.share k) (steps.filter (·.Concerns k)) := by
    refine Share.step.filter_transcript (p := fun a => a.Concerns k)
      (R := fun s s' => s = s' ∧ s.channel = k) ?_ ?_ (s := o.share k) ⟨rfl, rfl⟩ steps
    · rintro s _ a ⟨rfl, rfl⟩ foreign
      rw [Share.step_foreign (by simpa using foreign)]
      exact ⟨rfl, rfl⟩
    · rintro s _ a ⟨rfl, rfl⟩ _
      exact ⟨⟨rfl, (Share.same_step s a).channel⟩, rfl⟩
  refine ⟨?_, fun x there foreign => ?_⟩
  · rw [← own, ← told, List.filter_map, List.map_map]
    rfl
  · have entry : (x.1, Office.told k x.2) ∈ Share.step.transcript (o.share k) steps :=
      told ▸ List.mem_map_of_mem there
    exact Share.transcript_foreign entry foreign

/-- Invoices do not interfere. Two runs of the relay agree, in order, on the steps about an invoice:
its requests, what its peers and wallets do, and the clock. What is made afresh may differ, where
`F` pairs the ids that the same requests have drawn; the rest of the runs may be anything. Then the
responses to its requests are the same, and what its peers and wallets receive is the same but for
paired ids and timestamps. In the other steps the invoice sees nothing. -/
theorem invoices_do_not_interfere (capacity limit : Nat) (limits : Limits)
    (sweepers : List Sweeper) (k : String) (F : String → String → Prop)
    (fresh : (steps.filterMap Step.fresh?).Nodup) (fresh' : (steps'.filterMap Step.fresh?).Nodup)
    (agree : List.Forall₂ (Step.Alike limits.frame F) (steps.filter (·.Concerns k))
      (steps'.filter (·.Concerns k))) :
    let run := step.transcript (.new capacity limit limits sweepers)
    List.Forall₂ (List.Forall₂ (Event.Alike F)) (seen k (run steps)) (seen k (run steps')) ∧
      ∀ x ∈ run steps ++ run steps', ¬ x.1.Concerns k → told k x.2 = [] := by
  intro run
  have filed := filed_new capacity limit limits sweepers
  obtain ⟨own, others⟩ := filed.seen fresh (by simp) k
  obtain ⟨own', others'⟩ := filed.seen fresh' (by simp) k
  have start : ((Office.new capacity limit limits sweepers).share k).Alike F
      ((Office.new capacity limit limits sweepers).share k) :=
    ⟨rfl, rfl, rfl, rfl, rfl, .nil, .nil, .nil⟩
  refine ⟨?_, fun x there => ?_⟩
  · rw [own, own']
    exact start.transcript rfl agree
  · rcases List.mem_append.mp there with there | there
    · exact others x there
    · exact others' x there

end

/-- A client asks for the terms of an invoice. -/
def asks (invoice id : String) : Step :=
  .request 0 ⟨"GET", "/api/v1/payment/" ++ invoice, "", [], [], false⟩ ⟨id, "e", .epoch⟩

/-- A reply with terms, whatever its sender takes its channel to be. -/
def answers (id : String) : PeerAct :=
  .reply { Message.new Question.terms.answerRoute "k" .epoch with correlation := id }

/-- There is one invoice, whose peer receives a question and answers it. -/
def quietRun : List Step :=
  [.join "k", asks "k" "b", .peer "k" 0 .receive, .peer "k" 0 (answers "b")]

/-- There is another invoice, whose peer answers the question first. -/
def crowdedRun : List Step :=
  [.join "j", .join "k", asks "k" "a", .peer "j" 0 (answers "a"), asks "j" "c",
    .peer "k" 0 .receive, .peer "k" 0 (answers "a"), .peer "j" 0 (answers "c")]

/-- A run of a small relay. -/
def trial (steps : List Step) : List (Step × List Report) :=
  step.transcript (.new 4 1000 ⟨.ofSeconds 10, 1000, .ofSeconds 60⟩ []) steps

/-- In the crowded run the peer and the client of `k` get what they get in the quiet one: one
message and one response. -/
theorem invoices_do_not_interfere_crowded :
    List.Forall₂ (List.Forall₂ (Event.Alike fun id id' => id = "a" ∧ id' = "b"))
        (seen "k" (trial crowdedRun)) (seen "k" (trial quietRun)) ∧
      (seen "k" (trial crowdedRun)).map (·.length) = [0, 0, 1, 1] := by
  have mine : (asks "k" "a").Concerns "k" ∧ (asks "k" "b").Concerns "k" := by decide +kernel
  have other : ¬ (asks "j" "c").Concerns "k" := by decide +kernel
  have drawn : (asks "k" "a").fresh? = some "a" ∧ (asks "k" "b").fresh? = some "b" := by
    decide +kernel
  have crowded : crowdedRun.filter (·.Concerns "k") =
      [.join "k", asks "k" "a", .peer "k" 0 .receive, .peer "k" 0 (answers "a")] := by
    simp [crowdedRun, mine, other]
  have quiet : quietRun.filter (·.Concerns "k") = quietRun := by
    simp [quietRun, mine]
  have width : SameWidth "a" "b" := by decide +kernel
  have reply : Message.Alike (SameCalls fun id id' => id = "a" ∧ id' = "b")
      { Message.new Question.terms.answerRoute "k" .epoch with correlation := "a" }
      { Message.new Question.terms.answerRoute "k" .epoch with correlation := "b" } :=
    ⟨rfl, rfl, rfl, rfl, rfl, by rintro _ _ ⟨rfl, rfl⟩; exact ⟨fun _ => rfl, fun _ => rfl⟩,
      width, rfl⟩
  refine ⟨(invoices_do_not_interfere 4 1000 _ [] "k" _ (by decide +kernel) (by decide +kernel)
    ?_).1, by decide +kernel⟩
  rw [crowded, quiet]
  refine .cons (.join "k") (.cons (.request 0 _ rfl ?_) (.cons (.peer "k" 0 .receive)
    (.cons (.peer "k" 0 (.reply reply)) .nil)))
  have both := Option.Rel.some (r := fun id id' => (id = "a" ∧ id' = "b") ∧ SameWidth id id')
    ⟨⟨rfl, rfl⟩, width⟩
  rwa [← drawn.1, ← drawn.2] at both

end Office

end PaymentRelay
