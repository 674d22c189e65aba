import Rendezvous.Proofs.Sequential.Frame

/-!
# An orchestration in one order

`Act.pace` runs an orchestration and its planning loop in one fixed order.  Between two turns the planner is
`Paused`.  A step submits its agent, and the loop lets it run; then it acknowledges the turn and the planner is
paused again, or it gives up and the orchestration is over (`Standing.step`).  By induction on its course, the
orchestration comes to what the course means (`Standing.drive`, `Standing.pace`).
-/

namespace Rendezvous

set_option autoImplicit false

namespace Planner

variable {β : Type}

/-- Between two turns: nothing is in the queue, and no turn has to be acknowledged. -/
structure Paused (plan : PlannerPlan) (agents : List β) (n : Nat) (p : Planner β) : Prop where
  plan : p.plan = plan
  agents : p.agents = agents
  scope : p.scope = some n
  queue : p.queue = []
  pending : p.pending = []
  current : p.current = none
  outstanding : p.outstanding ≤ 0

/-- The turn of one agent. -/
def serving (slot : Nat) (p : Planner β) : Planner β :=
  { p with queue := [], pending := [], current := some slot, outstanding := 1 }

namespace Paused

variable {plan : PlannerPlan} {agents : List β} {n : Nat} {p : Planner β}

theorem drain_submit (paused : Paused plan agents n p) (s : Submission β) :
    (p.submit s).drain = some (.call [s], p.serving s.slot) := by
  simp [drain, submit, put, paused.queue, turns?, dispatch, paused.pending, serving]

/-- A planner that is paused counts one down before it looks into its queue. -/
theorem countDown (paused : Paused plan agents n p) : Paused plan agents n p.countDown :=
  { paused with
    outstanding := by
      have at_most := paused.outstanding
      show p.outstanding - 1 ≤ 0
      omega }

/-- A turn has been acknowledged. -/
theorem acknowledged (paused : Paused plan agents n p) (slot : Nat) :
    Paused plan agents n (p.serving slot).acknowledge.2.countDown where
  plan := paused.plan
  agents := paused.agents
  scope := paused.scope
  queue := rfl
  pending := rfl
  current := rfl
  outstanding := Int.le_refl 0

end Paused
end Planner

namespace Act.Yields

variable {κ α β ω γ δ : Type} {b b' b'' : Board β} {st st' : Option Failure}

/-! ## Beside the loop -/

theorem beside {x : Act κ α β ω γ} {a : γ} (inside : Yields b x (.ok a) b') (st : Option Failure) :
    Yields b ((Act.beside x).run st) (.ok (a, st)) b' := by
  rw [Act.beside, StateT.run_lift]
  exact bind inside (pure _)

theorem paced_bind {y : Paced κ α β ω γ} {f : γ → Paced κ α β ω δ} {a : γ} {r : Result (δ × Option Failure)}
    (first : Yields b (y.run st) (.ok (a, st')) b') (rest : Yields b' ((f a).run st') r b'') :
    Yields b ((y >>= f).run st) r b'' := by
  rw [StateT.run_bind]
  exact bind first rest

theorem paced_pure (a : γ) (st : Option Failure) :
    Yields b ((Pure.pure a : Paced κ α β ω γ).run st) (.ok (a, st)) b := pure _

theorem paced_set (st st' : Option Failure) :
    Yields b ((set st' : Paced κ α β ω PUnit).run st) (.ok ((), st')) b := pure _

end Act.Yields

namespace Standing

open Act

variable {κ α β ω : Type} {start b : Board β} {m n : Nat} {p : Planner β} {x : Scope}
variable {plan : PlannerPlan} {agents : List β} {r : Runner κ α β ω}

/-! ## The loop -/

theorem turn {k : Nat} (s : Standing start k m n p x b) (empty : p.queue = []) (due : p.outstanding ≤ 1) :
    Yields b (Act.turn k : Act κ α β ω (Option (LoopAction β))) (.ok none) (b.setPlanner k p.countDown) := by
  refine .bind (.planner k) (.bind (.setPlanner k _) ?_)
  rw [s.planner_eq]
  have rests : p.countDown.isWaiting = false := by
    rw [Planner.isWaiting_countDown, decide_eq_false_iff_not]
    omega
  rw [rests]
  have standing := s.setPlanner (q := p.countDown) rfl
  exact .look_of_empty ((congrArg Planner.queue standing.planner_eq).trans empty)

theorem firstAction {k : Nat} {started : OrchestrationStart} (s : Standing start k m n p x b)
    (ready : start.Ready n) (valid : p.start = .ok started) (paused : p.Paused plan agents n) :
    Yields b (Act.firstAction k : Act κ α β ω (Option (LoopAction β))) (.ok none)
      (b.setPlanner k p.countDown) := by
  refine .bind (.planner k) ?_
  rw [s.planner_eq]
  have begins : Yields b (Act.ofResult p.start : Act κ α β ω OrchestrationStart) (.ok started) b :=
    valid ▸ .ofResult _
  refine .bind (.attempt (.bind begins (.startWorkflow _ _ _ (s.keeps.ready ready).starts))) ?_
  exact s.turn paused.queue (Int.le_trans paused.outstanding (by decide))

/-- The board after the only turn of a batch. -/
def acknowledged (k slot : Nat) (p : Planner β) (b : Board β) : Board β :=
  ((b.setPlanner k (p.serving slot).acknowledge.2).assignTurn (.ok ()) slot).setPlanner k
    (p.serving slot).acknowledge.2.countDown

theorem nextAction {k slot : Nat} (s : Standing start k m n (p.serving slot) x b)
    (later : start.turns.length ≤ slot) :
    Yields b (Act.nextAction k : Act κ α β ω (Option (LoopAction β))) (.ok none)
      (acknowledged k slot p b) := by
  refine .bind (.setRun none) (.bind (.planner k) ?_)
  rw [s.planner_eq]
  have standing := (s.setPlanner (q := (p.serving slot).acknowledge.2) rfl).assignTurn later (.ok ())
  exact .bind (.setPlanner k _) (.bind (.assignTurns _ _) (standing.turn rfl (Int.le_refl 1)))

theorem stands_acknowledged {k slot : Nat} (s : Standing start k m n (p.serving slot) x b)
    (later : start.turns.length ≤ slot) :
    Standing start k m n (p.serving slot).acknowledge.2.countDown x (acknowledged k slot p b) :=
  ((s.setPlanner (q := (p.serving slot).acknowledge.2) rfl).assignTurn later (.ok ())).setPlanner rfl

/-- The board after the only turn of a batch has failed. -/
def abandoned (k m slot : Nat) (f : Failure) (p : Planner β) (b : Board β) : Board β :=
  ((b.setPlanner k (p.serving slot).abort.2).assignTurn (.error f) slot).delist (drawnId m)

theorem abort {k slot : Nat} (s : Standing start k m n (p.serving slot) x b)
    (later : start.turns.length ≤ slot) (f : Failure) :
    Yields b (Act.abort k f : Act κ α β ω Unit) (.ok ()) (abandoned k m slot f p b) := by
  refine .bind (.planner k) ?_
  rw [s.planner_eq]
  have aborted := (s.setPlanner (q := (p.serving slot).abort.2) rfl).assignTurn later (.error f)
  have id := congrArg (fun q => q.plan.id) aborted.planner_eq
  rw [abandoned, ← aborted.named, ← id]
  exact .bind (.setPlanner k _) (.bind (.assignTurns _ _) (.leavePlanner k))

theorem dismissed_abandoned {k slot : Nat} (s : Standing start k m n (p.serving slot) x b)
    (later : start.turns.length ≤ slot) (f : Failure) : Dismissed start k m n x (abandoned k m slot f p b) :=
  ((s.setPlanner (q := (p.serving slot).abort.2) rfl).assignTurn later (.error f)).delist rfl

/-! ## One step -/

/-- The board once an agent has been submitted for an order. -/
def submitted (k : Nat) (agent : β) (o : StepOrder) (p : Planner β) (b : Board β) : Board β :=
  b.addTurn.setPlanner k (p.submit { agent, slot := b.turns.length, run := some o.runId })

theorem openStep {o : StepOrder} {agent : β} (s : Standing start r.planner m n p x b) (ready : start.Ready n)
    (own : o.plannerId = drawnId m) (found : p.agentAt o.agentIndex = .ok agent) (record : Nat) :
    Yields b (Act.openStep r record o)
      (.ok (.ok { order := o, agentName := (r.profile agent).name, slot := b.turns.length }))
      (submitted r.planner agent o p b) := by
  have there : (b.planner r.planner).agentAt o.agentIndex = .ok agent := by rwa [s.planner_eq]
  have begins : Yields b (Act.beginStep r.profile o : Act κ α β ω OpenStep) _ _ :=
    .beginStep r.profile (own ▸ s.live) there (s.keeps.ready ready).starts
  rw [s.planner_eq] at begins
  refine .bind (.noteRequest record _) (.bind (.attempt (.onThread {} begins)) ?_)
  exact .bind (.noteOrchestration record _) (.pure _)

/-- The agent that has been submitted has its turn. -/
theorem turnOf {o : StepOrder} {agent : β} {μ : Meaning Unit} (s : Standing start r.planner m n p x b)
    (ready : start.Ready n) (means : Means n (r.run agent) μ) :
    ∃ b' : Board β, Yields ((submitted r.planner agent o p b).setPlanner r.planner (p.serving b.turns.length))
        (r.run agent) (μ x).2 b' ∧
      Standing start r.planner m n (p.serving b.turns.length) (μ x).1 b' ∧
      b'.turns[b.turns.length]? = some .pending := by
  have opened : Standing start r.planner m n _ x (submitted r.planner agent o p b) := s.addTurn.setPlanner rfl
  have taken := opened.setPlanner (q := p.serving b.turns.length) rfl
  obtain ⟨b', yields, scope, kept⟩ := means _ (taken.keeps.ready ready)
  rw [taken.scope] at yields scope
  refine ⟨b', yields, scope ▸ taken.keep kept, ?_⟩
  have pending : (b.turns ++ [Slot.pending])[b.turns.length]? = some .pending := List.getElem?_concat_length
  obtain ⟨inside, there⟩ := List.getElem?_eq_some_iff.mp pending
  exact (List.prefix_iff_getElem?.mp kept.turns _ inside).trans (congrArg some there)

/-- An agent on its own has its turn, and the loop acknowledges it. -/
theorem serveBatch (sub : Submission β) {b' : Board β} (turn : Yields b (r.run sub.agent) (.ok ()) b')
    (s : Standing start r.planner m n (p.serving sub.slot) x b') (later : start.turns.length ≤ sub.slot) :
    Yields b (Act.serveBatch r [sub]) (.ok none) (acknowledged r.planner sub.slot p b') := by
  refine .bind (.bind (.attempt turn) (.pure _)) (.bind (a := ()) ?_ (.pure none))
  exact .bind (.bind (s.nextAction later) (.pure ())) (.pure ())

/-- An agent on its own fails, and the loop gives up. -/
theorem serveBatch_of_failed (sub : Submission β) {b' : Board β} {f : Failure}
    (turn : Yields b (r.run sub.agent) (.error f) b')
    (s : Standing start r.planner m n (p.serving sub.slot) x b') (later : start.turns.length ≤ sub.slot) :
    Yields b (Act.serveBatch r [sub]) (.ok (some f)) (abandoned r.planner m sub.slot f p b') := by
  refine .bind (.bind (.attempt turn) (.pure _)) ?_
  exact .bind (s.abort later f) (.pure _)

/-- The loop finds the agent in the queue, and lets it run. -/
theorem serveLoop {o : StepOrder} {agent : β} {failure : Option Failure} {b' : Board β}
    (s : Standing start r.planner m n p x b) (paused : p.Paused plan agents n)
    (served : Yields ((submitted r.planner agent o p b).setPlanner r.planner (p.serving b.turns.length))
      (Act.serveBatch r [⟨agent, b.turns.length, some o.runId⟩]) (.ok failure) b') :
    Yields (submitted r.planner agent o p b) ((Act.serveLoop r).run none) (.ok ((), failure)) b' := by
  have opened : Standing start r.planner m n _ x (submitted r.planner agent o p b) := s.addTurn.setPlanner rfl
  have drained := paused.drain_submit ⟨agent, b.turns.length, some o.runId⟩
  rw [← opened.planner_eq] at drained
  refine .paced_bind (.beside (.look_of_batch drained) none) ?_
  exact .paced_bind (.beside served none) (.paced_set none failure)

/-- The slot of a turn has been assigned, and the step ends. -/
theorem closeStep {record : Nat} {s : OpenStep} {o : Result Unit} {b b' : Board β} (ready : b.Ready n)
    (pending : b.turns[s.slot]? = some .pending) (assigned : b'.turns = (b.assignTurn o s.slot).turns)
    (engine : b'.engine = b.engine) :
    Yields b' (Act.closeStep record s : Act κ α β ω (Result StepReport))
      (.ok (o.map fun _ => s.report)) b' := by
  have there : b'.turns[s.slot]? = some (.assigned o) := by
    rw [assigned]
    simp [Hub.assignTurn, pending, Slot.assign]
  refine .bind (.noteOrchestration record _) (.attempt (.onThread {} ?_))
  exact .endStep there (engine ▸ ready.events)

/-- What has become of an orchestration and of its loop: it goes on, or it has failed. -/
inductive After (start : Board β) (k m n : Nat) (plan : PlannerPlan) (agents : List β) :
    Scope × Result Unit → Option Failure → Board β → Prop
  | goesOn {p : Planner β} {x : Scope} {b : Board β} (standing : Standing start k m n p x b)
      (paused : p.Paused plan agents n) : After start k m n plan agents (x, .ok ()) none b
  | failed {x : Scope} {f : Failure} {b : Board β} (dismissed : Dismissed start k m n x b) :
      After start k m n plan agents (x, .error f) (some f) b

/-- The step of an agent: it is reported, or the orchestration has failed as the agent did. -/
theorem step {o : StepOrder} {agent : β} {μ : Meaning Unit} (s : Standing start r.planner m n p x b)
    (paused : p.Paused plan agents n) (ready : start.Ready n) (own : o.plannerId = drawnId m)
    (found : p.agentAt o.agentIndex = .ok agent) (means : Means n (r.run agent) μ) (progress : Progress) :
    ∃ (failure : Option Failure) (b' : Board β),
      (∀ (record : Nat), Yields b (((pacedActivities r record).step progress o).run none)
        (.ok ((μ x).2.map fun _ => ⟨o.agentIndex, (r.profile agent).name, o.runId⟩, failure)) b') ∧
      After start r.planner m n plan agents (μ x) failure b' := by
  obtain ⟨b', turn, standing, pending⟩ := s.turnOf (o := o) ready means
  have later : start.turns.length ≤ b.turns.length := s.keeps.turns.length_le
  have opened := s.openStep ready own found
  have closed (record : Nat) (b'' : Board β)
      (assigned : b''.turns = (b'.assignTurn (μ x).2 b.turns.length).turns) (engine : b''.engine = b'.engine) :
      Yields b'' (Act.closeStep record ⟨o, (r.profile agent).name, b.turns.length⟩ : Act κ α β ω _)
        (.ok ((μ x).2.map fun _ => ⟨o.agentIndex, (r.profile agent).name, o.runId⟩)) b'' :=
    closeStep (standing.keeps.ready ready) pending assigned engine
  revert turn standing closed
  obtain ⟨y, result⟩ := μ x
  intro turn standing closed
  cases result with
  | ok _ =>
    have served := s.serveLoop paused
      (serveBatch ⟨agent, b.turns.length, some o.runId⟩ turn standing later)
    have ends (record : Nat) := closed record (acknowledged r.planner b.turns.length p b') rfl rfl
    refine ⟨none, _, fun record => ?_, .goesOn (standing.stands_acknowledged later) (paused.acknowledged _)⟩
    exact .paced_bind (.beside (opened record) none) (.paced_bind served (.beside (ends record) none))
  | error f =>
    have served := s.serveLoop paused
      (serveBatch_of_failed ⟨agent, b.turns.length, some o.runId⟩ turn standing later)
    have ends (record : Nat) := closed record (abandoned r.planner m b.turns.length f p b') rfl rfl
    refine ⟨some f, _, fun record => ?_, .failed (standing.dismissed_abandoned later f)⟩
    exact .paced_bind (.beside (opened record) none) (.paced_bind served (.beside (ends record) (some f)))

/-! ## A course -/

/-- What the agents and the conditions of an orchestration come to, as the loop runs them. -/
structure Plays (r : Runner κ α β ω) (plan : PlannerPlan) (agents : List β) (n : Nat) (play : Play) :
    Prop where
  turn : ∀ (i : Nat), i < agents.length → ∃ agent, agents[i]? = some agent ∧
    Means n (r.run agent) fun s => andThen (play.turn i s) fun _ y => (y, .ok ())
  exit : ∀ (p : Planner β), p.Paused plan agents n → ∀ (scopeAt : Nat → Scope) (iteration : Nat),
    p.checkExit scopeAt iteration = .ok (play.ends iteration (scopeAt n))
  condition : ∀ (p : Planner β), p.Paused plan agents n → ∀ (scopeAt : Nat → Scope) (i : Nat),
    p.checkCondition scopeAt i = .ok (play.wants i (scopeAt n))

theorem asks {play : Play} (plays : Plays r plan agents n play) (s : Standing start r.planner m n p x b)
    (paused : p.Paused plan agents n) {o : ExitOrder} (own : o.plannerId = drawnId m) (record : Nat)
    (progress : Progress) :
    Yields b (((pacedActivities r record).checkExit progress o).run none)
      (.ok (.ok (play.ends o.iteration x), none)) b := by
  have asked : Yields b (Act.askExit o : Act κ α β ω Bool) _ b := .askExit (own ▸ s.live)
  rw [s.planner_eq, plays.exit p paused, s.scope] at asked
  exact .beside (.bind (.noteRequest record _) (.attempt (.onThread {} asked))) none

theorem asksCondition {play : Play} (plays : Plays r plan agents n play)
    (s : Standing start r.planner m n p x b) (paused : p.Paused plan agents n) {o : ConditionOrder}
    (own : o.plannerId = drawnId m) (record : Nat) (progress : Progress) :
    Yields b (((pacedActivities r record).checkCondition progress o).run none)
      (.ok (.ok (play.wants o.agentIndex x), none)) b := by
  have asked : Yields b (Act.askCondition o : Act κ α β ω Bool) _ b := .askCondition (own ▸ s.live)
  rw [s.planner_eq, plays.condition p paused, s.scope] at asked
  exact .beside (.bind (.noteRequest record _) (.attempt (.onThread {} asked))) none

/-- A course comes to what it means, however the record of the orchestration is numbered.  Between any two
requests the planner is paused, which is what the induction carries along. -/
theorem drive {play : Play} (plays : Plays r plan agents n play) (ready : start.Ready n) (d : Drive)
    (single : d.Single (drawnId m) agents.length) (progress : Progress) {p : Planner β} {x : Scope}
    {b : Board β} (s : Standing start r.planner m n p x b) (paused : p.Paused plan agents n) :
    ∃ (after : Progress) (failure : Option Failure) (b' : Board β),
      (∀ (record : Nat), Yields b ((d.run (pacedActivities r record) progress).run none)
        (.ok ((after, failure), failure)) b') ∧
      After start r.planner m n plan agents (d.outcome play x) failure b' := by
  induction d generalizing progress p x b with
  | finish => exact ⟨progress, none, b, fun _ => .paced_pure _ _, .goesOn s paused⟩
  | iteration i next ih => exact ih () single _ s paused
  | skip i next ih => exact ih single _ s paused
  | steps os next ih => exact single.elim
  | checkExit o next ih =>
    obtain ⟨after, failure, b', yields, outcome⟩ := ih _ (single.2 _) progress s paused
    refine ⟨after, failure, b', fun record => ?_, outcome⟩
    rw [Drive.run]
    exact .paced_bind (s.asks plays paused single.1 record progress) (yields record)
  | checkCondition o next ih =>
    obtain ⟨after, failure, b', yields, outcome⟩ := ih _ (single.2 _) progress s paused
    refine ⟨after, failure, b', fun record => ?_, outcome⟩
    rw [Drive.run]
    exact .paced_bind (s.asksCondition plays paused single.1 record progress) (yields record)
  | step o next ih =>
    obtain ⟨own, within, single⟩ := single
    obtain ⟨agent, there, means⟩ := plays.turn o.agentIndex within
    have found : p.agentAt o.agentIndex = .ok agent := by
      rw [Ensemble.agentAt_natCast_iff, paused.agents, there]
    obtain ⟨failure, b', yields, outcome⟩ := s.step paused ready own found means progress
    simp only [Drive.run, Drive.outcome]
    revert yields outcome
    obtain ⟨y, result⟩ := play.turn o.agentIndex x
    intro yields outcome
    cases result with
    | error f =>
      cases outcome with
      | failed dismissed =>
        refine ⟨progress, some f, b', fun record => ?_, .failed dismissed⟩
        exact .paced_bind (yields record) (.paced_pure _ _)
    | ok v =>
      cases outcome with
      | goesOn standing paused =>
        obtain ⟨after, failure, b'', yields', outcome⟩ := ih single _ standing paused
        exact ⟨after, failure, b'', fun record => .paced_bind (yields record) (yields' record), outcome⟩

/-! ## The end -/

/-- The loop is told that the orchestration has ended, unless it has failed already. -/
theorem completes {o : Scope × Result Unit} {failure : Option Failure} {b : Board β} {k : Nat}
    (after : After start k m n plan agents o failure b) :
    ∃ (b' b'' : Board β) (action : Option (LoopAction β)),
      Yields b (Act.completePlanner (drawnId m) : Act κ α β ω Unit) (.ok ()) b' ∧
      Yields b' (Act.look k : Act κ α β ω (Option (LoopAction β))) (.ok action) b'' ∧
      Dismissed start k m n o.1 b'' := by
  cases after with
  | failed dismissed =>
    exact ⟨b, b, none, .completePlanner_of_gone dismissed.gone, .look_of_empty dismissed.empty, dismissed⟩
  | @goesOn p x b standing paused =>
    have told : Yields b (Act.completePlanner (drawnId m) : Act κ α β ω Unit) (.ok ()) _ :=
      .completePlanner standing.live
    rw [standing.planner_eq] at told
    have completed := standing.setPlanner (q := p.complete) rfl
    have drained : (Hub.planner k (b.setPlanner k p.complete)).drain =
        some (.done, { p with queue := [] }) := by
      rw [completed.planner_eq]
      simp [Planner.drain, Planner.complete, Planner.put, paused.queue, Planner.turns?]
    have stopped := completed.setPlanner (q := { p with queue := [] }) rfl
    have looked : Yields _ (Act.look k : Act κ α β ω (Option (LoopAction β))) (.ok (some .done)) _ :=
      .look_of_done drained
    rw [stopped.planner_eq, stopped.named] at looked
    exact ⟨_, _, _, told, looked, stopped.delist rfl⟩

theorem After.failure_eq {o : Scope × Result Unit} {failure : Option Failure} {k : Nat}
    (after : After start k m n plan agents o failure b) : failure? o.2 = failure := by
  cases after <;> rfl

/-- The workflow has an end, and its last request is the one that releases the loop. -/
theorem orchestrate {play : Play} {started : OrchestrationStart} (s : Standing start r.planner m n p x b)
    (paused : p.Paused plan agents n) (ready : start.Ready n) (plays : Plays r plan agents n play)
    (named : started.plannerId = drawnId m) (single : (Drive.of started).Single (drawnId m) agents.length) :
    ∃ (ending : OrchestrationEnd) (b' b'' : Board β) (action : Option (LoopAction β)),
      (∀ (record : Nat), Yields b ((Rendezvous.orchestrate (pacedActivities r record) started).run none)
        (.ok (ending, failure? ((Drive.of started).outcome play x).2)) b') ∧
      Yields b' (Act.look r.planner : Act κ α β ω (Option (LoopAction β))) (.ok action) b'' ∧
      Dismissed start r.planner m n ((Drive.of started).outcome play x).1 b'' := by
  obtain ⟨progress, failure, b₁, driven, after⟩ := s.drive plays ready _ single {} paused
  obtain ⟨b', b'', action, told, looked, dismissed⟩ := completes (κ := κ) (α := α) (ω := ω) after
  rw [after.failure_eq]
  have completed (record : Nat) (status : OrchestrationStatus) (own : status.plannerId = drawnId m) :
      Yields b₁ (((pacedActivities r record).complete status).run failure) (.ok (.ok (), failure)) b' := by
    rw [← own] at told
    refine .beside (.bind (.noteRequest record _) (.bind told ?_)) failure
    exact .pure (Except.ok ())
  cases failure with
  | none =>
    let ending : OrchestrationEnd := ⟨progress.status started .completed none, .ok (progress.result started)⟩
    refine ⟨ending, b', b'', action, fun record => ?_, looked, dismissed⟩
    exact .paced_bind (driven record) (.paced_bind (completed record _ named) (.paced_pure _ _))
  | some f =>
    let ending : OrchestrationEnd := ⟨progress.status started .failed (some f.message), .error f⟩
    refine ⟨ending, b', b'', action, fun record => ?_, looked, dismissed⟩
    exact .paced_bind (driven record) (.paced_bind (completed record _ named) (.paced_pure _ _))

/-- A planner that has been made runs its agents to the end of its course. -/
theorem pace {play : Play} {started : OrchestrationStart} (s : Standing start r.planner m n p x b)
    (paused : p.Paused plan agents n) (ready : start.Ready n) (plays : Plays r plan agents n play)
    (valid : p.start = .ok started) (topology : p.plan.topology ≠ .parallel) :
    ∃ b' : Board β, Yields b (Act.pace r) ((Drive.of started).outcome play x).2 b' ∧
      Dismissed start r.planner m n ((Drive.of started).outcome play x).1 b' := by
  obtain ⟨id, shape, count⟩ := Planner.of_start valid
  have named : started.plannerId = drawnId m := id.trans s.named
  have single : (Drive.of started).Single (drawnId m) agents.length := by
    rw [← named, ← paused.agents, ← count]
    exact Drive.single_of (shape ▸ topology)
  have begins : Yields b (Act.firstAction r.planner : Act κ α β ω (Option (LoopAction β))) (.ok none) _ :=
    s.firstAction ready valid paused
  have counted := s.setPlanner (q := p.countDown) rfl
  obtain ⟨ending, b', b'', action, played, looked, dismissed⟩ :=
    counted.orchestrate paused.countDown ready plays named single
  refine ⟨b'', ?_, dismissed⟩
  have starts : Yields (b.setPlanner r.planner p.countDown)
      (Act.ofResult p.start : Act κ α β ω OrchestrationStart) (.ok started)
      (b.setPlanner r.planner p.countDown) := valid ▸ .ofResult _
  unfold Act.pace
  refine .bind (.planner r.planner) ?_
  rw [s.planner_eq]
  refine .bind begins ((Gets.newOrchestration _).bind fun record => ?_)
  refine .bind starts (.bind (played record) (.bind (.noteOrchestration record _) (.bind looked ?_)))
  cases ((Drive.of started).outcome play x).2 with
  | ok _ => exact .pure ()
  | error f => exact .ofResult (.error f)

end Standing
end Rendezvous
