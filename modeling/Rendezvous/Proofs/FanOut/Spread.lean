import Rendezvous.Proofs.Interleaving.Burden
import Rendezvous.Proofs.Interleaving.Agreement

/-!
# Agents side by side

A fan-out is a parallel orchestration of agents that come to an end and do not fail, on an engine that does not
fail either (`FanOut`).  Nothing goes wrong in it, whatever the schedule: the loop never gives up, no step is
refused or fails, no slot holds a failure, and the workflow orders one step for each agent and waits for all of them
(`Smooth`).  Unless everything has come to its end, there is a step that can be taken (`Reachable.goesOn`).
-/

namespace Rendezvous

set_option autoImplicit false

namespace Behaviour

variable {σ : Type}

/-- The states that a behaviour may come to, whatever is done to the shared state in between. -/
inductive Attains (B : Behaviour σ) : B.State → Prop
  | start : Attains B B.start
  | step {q q' : B.State} {x y : σ} (attains : Attains B q) (step : B.Step q x q' y) : Attains B q'

/-- It comes to an end under every schedule, does not fail, and stands by its result. -/
structure Able (B : Behaviour σ) : Prop where
  goesOn : ∀ {q : B.State} (x : σ), B.Attains q → B.result? q = none → ∃ q' y, B.Step q x q' y
  succeeds : ∀ {q : B.State} {r : Result Value}, B.Attains q → B.result? q = some r → ∃ v, r = .ok v
  stays : ∀ {q q' : B.State} {x y : σ} {r : Result Value}, B.result? q = some r → B.Step q x q' y →
    B.result? q' = some r
  finite : B.Finite

end Behaviour

namespace Ensemble

variable {β σ : Type}

/-- Each turn that has begun has come to where it is step by step. -/
def Stage.Attained {e : Ensemble β σ} (s : e.Stage) : Prop :=
  ∀ t ∈ s.turns, (e.behaviour t.submission.agent).Attains t.state

/-- The loop begins turns, and forgets none. -/
theorem LoopStep.turns_frame {e : Ensemble β σ} {s t : e.Stage} (step : LoopStep s t) :
    (∀ u ∈ t.turns, u ∈ s.turns ∨ ∃ sub, u = Turn.of e sub) ∧ ∀ u ∈ s.turns, u ∈ t.turns := by
  cases step with
  | call batch p at_ drained _ =>
    constructor
    · intro u mem
      rcases List.mem_append.mp mem with new | old
      · obtain ⟨sub, -, rfl⟩ := List.mem_map.mp new
        exact .inr ⟨sub, rfl⟩
      · exact .inl (List.mem_append_right _ old)
    · intro u mem
      rw [Stage.turns, at_] at mem
      exact List.mem_append_right _ mem
  | finish batch outcomes at_ _ _ | giveUp batch outcomes f at_ _ _ =>
    have turns (u : e.Turn) : u ∈ s.turns ↔ u ∈ s.retired ++ batch := by
      rw [Stage.turns, at_, Loop.turns, List.mem_append, List.mem_append, or_comm]
    exact ⟨fun u mem => .inl ((turns u).mpr mem), fun u mem => (turns u).mp mem⟩
  | count left at_ =>
    have none : (if s.planner.countDown.isWaiting then .acknowledging left else .looking : e.Loop).turns = [] := by
      split <;> rfl
    simp only [Stage.turns, none, at_]
    exact ⟨fun u mem => .inl mem, fun u mem => mem⟩
  | name id at_ | schedule start at_ _ _ | invalid f at_ _ | unscheduled f at_ _ | refuse batch p at_ _ _
  | stop p at_ _ | acknowledge left at_ | assign slot left at_ | failNext slot rest f at_ | failed f at_
  | leave r at_ =>
    simp only [Stage.turns, at_]
    exact ⟨fun u mem => .inl mem, fun u mem => mem⟩

/-- A turn that goes on takes the place of what it was. -/
theorem Step.turns_frame {e : Ensemble β σ} {s t : e.Stage} {x y : σ} (step : Step s x t y) :
    ((∀ u ∈ t.turns, u ∈ s.turns ∨ ∃ sub, u = Turn.of e sub) ∧ (∀ u ∈ s.turns, u ∈ t.turns) ∧ y = x) ∨
      ∃ k u q, s.turns[k]? = some u ∧ (e.behaviour u.submission.agent).Step u.state x q y ∧
        t.turns = s.turns.set k ⟨u.submission, q⟩ := by
  cases step with
  | loop step => exact .inl ⟨step.turns_frame.1, step.turns_frame.2, rfl⟩
  | flow step =>
    obtain ⟨loop, -, -, -, -, retired, -⟩ := step.frame
    have same : t.turns = s.turns := by rw [Stage.turns, loop, retired, Stage.turns]
    rw [same]
    exact .inl ⟨fun u mem => .inl mem, fun u mem => mem, rfl⟩
  | errand i there step =>
    rcases step.frame with rfl | ⟨o, agent, -, rfl, -⟩
    · exact .inl ⟨fun u mem => .inl mem, fun u mem => mem, rfl⟩
    · exact .inl ⟨fun u mem => .inl mem, fun u mem => mem, rfl⟩
  | perform i at_ there moves =>
    rename_i batch u q
    have inside := (List.getElem?_eq_some_iff.mp there).1
    refine .inr ⟨i, u, q, ?_, moves, ?_⟩
    · rw [Stage.turns, at_, Loop.turns, List.getElem?_append_left inside, there]
    · rw [Stage.turns, Stage.turns, at_, Loop.turns, Loop.turns, List.set_append_left _ _ inside]
  | linger i there moves =>
    rename_i u q
    refine .inr ⟨s.loop.turns.length + i, u, q, ?_, moves, ?_⟩
    · rw [Stage.turns, List.getElem?_append_right (Nat.le_add_right _ _), Nat.add_sub_cancel_left, there]
    · rw [Stage.turns, Stage.turns, List.set_append_right _ _ (Nat.le_add_right _ _), Nat.add_sub_cancel_left]

theorem Step.attained {e : Ensemble β σ} {s t : e.Stage} {x y : σ} (step : Step s x t y)
    (attained : s.Attained) : t.Attained := by
  intro u mem
  rcases step.turns_frame with ⟨known, -, -⟩ | ⟨k, v, q, there, moves, turns⟩
  · rcases known u mem with old | ⟨sub, rfl⟩
    · exact attained u old
    · exact .start
  · rw [turns] at mem
    rcases List.mem_or_eq_of_mem_set mem with old | rfl
    · exact attained u old
    · exact .step (attained v (List.mem_of_getElem? there)) moves

theorem Reachable.attained {e : Ensemble β σ} {s : e.Stage} (reach : Reachable s) : s.Attained := by
  induction reach with
  | opening =>
    intro u mem
    cases mem
  | step _ step ih => exact step.attained ih

/-! ## Nothing goes wrong -/

/-- Agents side by side that come to an end and do not fail, known by their positions, on an engine that does not
fail; the limit of the pool makes sense. -/
structure FanOut (e : Ensemble Nat σ) : Prop where
  plan : e.plan = { id := "", topology := .parallel }
  agents : e.agents = List.range e.agents.length
  engine : ∀ {r : Result Unit}, e.engine r ↔ r = .ok ()
  workers : ∀ {n : Int}, e.workers = some n → 0 ≤ n
  able : ∀ i, (e.behaviour i).Able

/-- The orders for all agents. -/
def stepOrders (id : String) (count : Nat) : List StepOrder :=
  (List.range count).map fun i => { plannerId := id, agentIndex := i }

/-- All steps are ordered at once, and the workflow waits for them. -/
def OnCourse (id : String) (count : Nat) (orders : List StepOrder) : Flow → Prop
  | .unscheduled => orders = []
  | .going d => d = .steps (stepOrders id count) .finish ∧ orders = [] ∨
      d = .finish ∧ orders = stepOrders id count
  | .stepping _ next => next = .finish ∧ orders = stepOrders id count
  | .checking .. => False
  | .releasing _ v | .finished v => v = none ∧ orders = stepOrders id count

variable {e : Ensemble Nat σ} {s t : e.Stage}

/-- What a step reports. -/
def reportFor (e : Ensemble Nat σ) (o : StepOrder) : StepReport where
  agentIndex := o.agentIndex
  agentName := (e.profile o.agentIndex).name
  runId := o.runId

/-- A step activity deals with the agent of its order, and does not fail. -/
def Errand.Proper (e : Ensemble Nat σ) : Errand Nat → Prop
  | .ordered _ => True
  | .found o agent | .begun o agent => agent = o.agentIndex
  | .waiting step | .ending step _ => step.agentName = (e.profile step.order.agentIndex).name
  | .finished o r => r = .ok (e.reportFor o)

/-- Nothing has gone wrong. -/
structure Smooth (s : e.Stage) : Prop where
  well : s.loop.failure? = none
  runs : s.loop ≠ .refused
  begun : s.flow = .unscheduled → s.loop = .unnamed ∨ s.loop = .opening
  owing : s.loop ≠ .acknowledging 0
  looked : s.loop.outcome? = none → s.dropped = []
  slots : ∀ (k : Nat) (f : Failure), s.slots[k]? ≠ some (.assigned (.error f))
  course : OnCourse s.planner.plan.id e.agents.length s.orders s.flow
  proper : ∀ a ∈ s.errands, a.Proper e
  ordered : ∀ a ∈ s.errands, a.order ∈ s.orders

/-- What has come of a batch is what has come of each of its turns. -/
theorem outcomes?_eq_some_iff {β : Type} {e : Ensemble β σ} {batch : List e.Turn} {outcomes : List (Result Value)} :
    outcomes? batch = some outcomes ↔ batch.map Turn.result? = outcomes.map some := by
  induction batch generalizing outcomes with
  | nil => cases outcomes <;> simp [outcomes?]
  | cons t rest ih =>
    rw [outcomes?, List.mapM_cons, ← outcomes?]
    cases outcomes <;> simp [Option.bind_eq_some_iff, ih]

/-- When all turns of a batch are over, something has come of it. -/
theorem exists_outcomes {β : Type} {e : Ensemble β σ} {batch : List e.Turn} (past : ∀ t ∈ batch, ∃ r, t.result? = some r) :
    ∃ outcomes, outcomes? batch = some outcomes := by
  simp only [outcomes?_eq_some_iff]
  induction batch with
  | nil => exact ⟨[], rfl⟩
  | cons t rest ih =>
    obtain ⟨r, result⟩ := past t List.mem_cons_self
    obtain ⟨outcomes, others⟩ := ih fun u mem => past u (List.mem_cons_of_mem t mem)
    exact ⟨r :: outcomes, by rw [List.map_cons, List.map_cons, result, others]⟩

/-- Agents that are known by their positions sit where they are. -/
theorem seats_range (agents : e.agents = List.range e.agents.length) {i agent : Nat} :
    e.Seats (i : Int) agent ↔ i < e.agents.length ∧ agent = i := by
  unfold Seats
  rw [agentAt_natCast_iff]
  show e.agents[i]? = some agent ↔ _
  rw [agents, List.length_range]
  by_cases within : i < e.agents.length
  · simp [within, eq_comm]
  · simp [within]

/-- A parallel orchestration can be started, and orders all steps at once. -/
theorem Made.of_start_parallel {p : Planner Nat} (made : Made e p)
    (plan : p.plan = { id := p.plan.id, topology := .parallel }) :
    ∃ start, p.start = .ok start ∧ Drive.of start = .steps (stepOrders p.plan.id e.agents.length) .finish := by
  refine ⟨⟨p.plan.id, .parallel, e.agents.length, unboundedIterations, false⟩, ?_, rfl⟩
  rw [Planner.start_eq, made.agents, plan]
  rfl

namespace FanOut

variable (fan : FanOut e)
include fan

/-- The agent at a position is known by it. -/
theorem seats_iff {i agent : Nat} : e.Seats (i : Int) agent ↔ i < e.agents.length ∧ agent = i :=
  seats_range fan.agents

/-- The orchestration can be started, and is the one that orders all steps at once. -/
theorem of_start {p : Planner Nat} (made : Made e p) : ∃ start, p.start = .ok start ∧
    Drive.of start = .steps (stepOrders p.plan.id e.agents.length) .finish := by
  have plan : p.plan = { id := p.plan.id, topology := .parallel } := by
    have plan := made.plan
    rwa [fan.plan] at plan
  exact made.of_start_parallel plan

theorem not_refuses (batch : List (Submission Nat)) : ¬ e.Refuses batch := by
  rintro ⟨-, negative⟩
  cases limit : e.workers with
  | none =>
    rw [limit] at negative
    cases negative
  | some n =>
    have enough := fan.workers limit
    rw [limit, Option.any_some, decide_eq_true_eq] at negative
    omega

/-- What has come of a batch is no failure. -/
theorem no_failure {batch : List e.Turn} {outcomes : List (Result Value)}
    (attained : ∀ t ∈ batch, (e.behaviour t.submission.agent).Attains t.state)
    (all : outcomes? batch = some outcomes) : outcomes.findSome? Act.failure? = none := by
  rw [List.findSome?_eq_none_iff]
  intro r mem
  have among : some r ∈ batch.map Turn.result? := by
    rw [outcomes?_eq_some_iff.mp all]
    exact List.mem_map_of_mem mem
  obtain ⟨t, there, result⟩ := List.mem_map.mp among
  obtain ⟨v, rfl⟩ := (fan.able t.submission.agent).succeeds (attained t there) result
  rfl

end FanOut

/-! ### The loop -/

theorem LoopStep.plan_frame {e : Ensemble β σ} {s t : e.Stage} (step : LoopStep s t) :
    t.planner.plan = s.planner.plan ∨ s.loop = .unnamed := by
  cases step with
  | name id at_ => exact .inr at_
  | call batch p at_ drained _ | refuse batch p at_ drained _ =>
    obtain ⟨-, -, rfl⟩ := Planner.drain_call drained
    exact .inl rfl
  | stop p at_ drained =>
    obtain ⟨-, rfl⟩ := Planner.drain_done drained
    exact .inl rfl
  | _ => exact .inl rfl

/-- A loop that cannot give up goes from one place to the next, and assigns nothing but successes. -/
theorem LoopStep.still (fan : FanOut e) (step : LoopStep s t) (made : Made e s.planner) (counted : Counted s)
    (attained : s.Attained) (smooth : Smooth s) :
    (t.loop.failure? = none ∧ t.loop ≠ .refused ∧ t.loop ≠ .acknowledging 0) ∧
      (t.loop.outcome? = none → t.dropped = []) ∧
      ∀ (k : Nat) (f : Failure), t.slots[k]? ≠ some (.assigned (.error f)) := by
  have well := smooth.well
  have looked := smooth.looked
  have slots := smooth.slots
  have tally := counted.tally
  have succeeds {batch : List e.Turn} {outcomes : List (Result Value)} (at_ : s.loop = .running batch)
      (all : outcomes? batch = some outcomes) : outcomes.findSome? Act.failure? = none := by
    apply fan.no_failure _ all
    intro u mem
    apply attained u
    rw [Stage.turns, at_]
    exact List.mem_append_left _ mem
  cases step with
  | invalid f at_ invalid =>
    obtain ⟨start, valid, -⟩ := fan.of_start made
    cases valid.symm.trans invalid
  | unscheduled f at_ engine => cases fan.engine.mp engine
  | refuse batch p at_ drained refuses => exact absurd refuses (fan.not_refuses batch)
  | giveUp batch outcomes f at_ all first => cases (succeeds at_ all).symm.trans first
  | failNext slot rest f at_ | failed f at_ =>
    rw [at_] at well
    cases well
  | leave r at_ =>
    rw [at_] at well
    cases r with
    | ok u => exact ⟨⟨rfl, by simp, by simp⟩, by simp [Loop.outcome?], slots⟩
    | error f => cases well
  | stop p at_ drained => exact ⟨⟨rfl, by simp, by simp⟩, by simp [Loop.outcome?], slots⟩
  | count left at_ =>
    rw [at_] at looked tally
    obtain ⟨-, outstanding⟩ := tally
    have waiting : s.planner.countDown.isWaiting = decide (1 < s.planner.outstanding) :=
      Planner.isWaiting_countDown _
    refine ⟨?_, fun _ => looked rfl, slots⟩
    simp only [waiting, decide_eq_true_eq]
    by_cases waits : 1 < s.planner.outstanding
    · rw [if_pos waits]
      refine ⟨rfl, by simp, ?_⟩
      intro none
      cases none
      omega
    · rw [if_neg waits]
      exact ⟨rfl, by simp, by simp⟩
  | finish batch outcomes at_ _ _ =>
    rw [at_] at looked tally
    refine ⟨⟨rfl, by simp, ?_⟩, fun _ => looked rfl, slots⟩
    intro none
    have empty : batch.length = 0 := Loop.acknowledging.inj none
    exact tally.1 (List.length_eq_zero_iff.mp empty)
  | assign slot left at_ =>
    rw [at_] at looked
    refine ⟨⟨rfl, by simp, by simp⟩, fun _ => looked rfl, ?_⟩
    intro k f after
    cases slot with
    | none => exact slots k f after
    | some slot =>
      rcases assigned_of_modify after with before | ⟨-, -, success⟩
      · exact slots k f before
      · cases success
  | name id at_ | schedule start at_ _ _ | call batch p at_ _ _ | acknowledge left at_ =>
    rw [at_] at looked
    exact ⟨⟨rfl, by simp, by simp⟩, fun _ => looked rfl, slots⟩

/-- A loop that has not begun begins by starting the workflow. -/
theorem LoopStep.begun (step : LoopStep s t) (well : t.loop.failure? = none) (unscheduled : t.flow = .unscheduled)
    (early : s.loop = .unnamed ∨ s.loop = .opening) : t.loop = .unnamed ∨ t.loop = .opening := by
  cases step with
  | name id at_ => exact .inr rfl
  | schedule start at_ _ _ => cases unscheduled
  | invalid f at_ _ | unscheduled f at_ _ => cases well
  | count left at_ | call batch p at_ _ _ | refuse batch p at_ _ _ | stop p at_ _ | finish batch outcomes at_ _ _
  | giveUp batch outcomes f at_ _ _ | acknowledge left at_ | assign slot left at_ | failNext slot rest f at_
  | failed f at_ | leave r at_ =>
    rw [at_] at early
    rcases early with no | no <;> cases no

theorem LoopStep.smooth (fan : FanOut e) (step : LoopStep s t) (made : Made e s.planner) (counted : Counted s)
    (tended : Tended s) (attained : s.Attained) (smooth : Smooth s) : Smooth t := by
  obtain ⟨⟨well, runs, owing⟩, looked, slots⟩ := step.still fan made counted attained smooth
  have course := smooth.course
  have errands := step.slots_frame.1
  have orders := step.orders_frame
  refine ⟨well, runs, ?_, owing, looked, slots, ?_, ?_, ?_⟩
  · intro unscheduled
    apply step.begun well unscheduled
    rcases step.flow_frame with ⟨flow, -⟩ | ⟨-, -, start, -, flow⟩
    · rw [flow] at unscheduled
      exact smooth.begun unscheduled
    · rw [flow] at unscheduled
      cases unscheduled
  · rw [orders]
    rcases step.flow_frame with ⟨flow, -⟩ | ⟨at_, -, start, valid, flow⟩
    · rcases step.plan_frame with plan | unnamed
      · rw [flow, plan]
        exact course
      · rw [tended.early (.inl unnamed)] at course
        rw [flow, tended.early (.inl unnamed)]
        exact course
    · rw [tended.early (.inr at_)] at course
      obtain ⟨start', valid', drive⟩ := fan.of_start made
      obtain rfl : start = start' := Except.ok.inj (valid.symm.trans valid')
      have plan : t.planner.plan = s.planner.plan := by
        rcases step.plan_frame with plan | unnamed
        · exact plan
        · cases at_.symm.trans unnamed
      rw [flow, plan]
      exact .inl ⟨drive, course⟩
  · rw [errands]
    exact smooth.proper
  · rw [errands, orders]
    exact smooth.ordered

/-! ### The workflow -/

theorem FlowStep.onCourse {x : σ} {id : String} (step : FlowStep x s t)
    (course : OnCourse id e.agents.length s.orders s.flow) (proper : ∀ a ∈ s.errands, a.Proper e) :
    OnCourse id e.agents.length t.orders t.flow := by
  cases step with
  | iteration n next at_ | skip i next at_ | order o next at_ | askExit o next at_ | askCondition o next at_ =>
    rw [at_] at course
    rcases course with ⟨no, -⟩ | ⟨no, -⟩ <;> cases no
  | find q next at_ _ | miss q next known at_ _ | evaluate q next at_ | branch q b next at_ | refuse q f next at_ =>
    rw [at_] at course
    exact course.elim
  | orderAll os next at_ =>
    rw [at_] at course
    rcases course with ⟨same, none⟩ | ⟨no, -⟩
    · cases same
      rw [none]
      exact ⟨rfl, List.nil_append _⟩
    · cases no
  | report i missing o r next at_ finished =>
    rw [at_] at course
    exact course
  | fail i missing o f next at_ finished => cases proper _ (List.mem_of_getElem? finished)
  | resume next at_ =>
    rw [at_] at course
    exact .inr course
  | finish at_ =>
    rw [at_] at course
    rcases course with ⟨no, -⟩ | ⟨-, all⟩
    · cases no
    · exact ⟨rfl, all⟩
  | findLoop v at_ _ | missLoop v at_ _ | release v at_ | close v at_ =>
    rw [at_] at course
    exact course

theorem FlowStep.smooth {x : σ} (step : FlowStep x s t) (smooth : Smooth s) : Smooth t := by
  obtain ⟨well, runs, -, owing, looked, slots, course, proper, ordered⟩ := smooth
  obtain ⟨loop, sameSlots, -, -, dropped, -, -, planner⟩ := step.frame
  have plan : t.planner.plan = s.planner.plan := by
    rcases planner with same | complete
    · rw [same]
    · rw [complete]
      rfl
  refine ⟨?_, ?_, ?_, ?_, ?_, ?_, ?_, ?_, ?_⟩
  · rw [loop]
    exact well
  · rw [loop]
    exact runs
  · intro unscheduled
    exact absurd unscheduled step.scheduled.2
  · rw [loop]
    exact owing
  · rw [loop, dropped]
    exact looked
  · rw [sameSlots]
    exact slots
  · rw [plan]
    exact step.onCourse course proper
  · intro a mem
    rcases step.errands_frame with ⟨os, errands, -⟩ | ⟨i, o, r, -, errands, -⟩
    · rw [errands, List.mem_append] at mem
      rcases mem with old | new
      · exact proper a old
      · obtain ⟨o, -, rfl⟩ := List.mem_map.mp new
        trivial
    · rw [errands] at mem
      exact proper a (List.mem_of_mem_eraseIdx mem)
  · intro a mem
    rcases step.errands_frame with ⟨os, errands, orders⟩ | ⟨i, o, r, -, errands, orders, -⟩
    · rw [errands, List.mem_append] at mem
      rw [orders]
      rcases mem with old | new
      · exact List.mem_append_left _ (ordered a old)
      · obtain ⟨o, among, rfl⟩ := List.mem_map.mp new
        exact List.mem_append_right _ among
    · rw [errands] at mem
      rw [orders]
      exact ordered a (List.mem_of_mem_eraseIdx mem)

/-! ### The steps -/

/-- Either nothing has been ordered or everything. -/
theorem Smooth.none_or_all (smooth : Smooth s) :
    s.orders = [] ∨ s.orders = stepOrders s.planner.plan.id e.agents.length := by
  have course := smooth.course
  cases flow : s.flow with
  | unscheduled =>
    rw [flow] at course
    exact .inl course
  | going d =>
    rw [flow] at course
    exact course.imp And.right And.right
  | checking q visit next =>
    rw [flow] at course
    exact course.elim
  | stepping missing next | releasing visit v | finished v =>
    rw [flow] at course
    exact .inr course.2

/-- The orders are for the agents. -/
theorem Smooth.of_order (smooth : Smooth s) {o : StepOrder} (mem : o ∈ s.orders) :
    ∃ i < e.agents.length, o = { plannerId := s.planner.plan.id, agentIndex := i } := by
  rcases smooth.none_or_all with none | all
  · rw [none] at mem
    cases mem
  · rw [all] at mem
    obtain ⟨i, within, rfl⟩ := List.mem_map.mp mem
    exact ⟨i, List.mem_range.mp within, rfl⟩

/-- Nobody looks for the planner after the loop has gone. -/
theorem Smooth.live (smooth : Smooth s) (tended : Tended s) (notified : Notified s) (some : s.errands ≠ []) :
    s.live = true := by
  by_contra gone
  have through := notified.gone (Bool.eq_false_of_not_eq_true gone)
  have outcome : s.loop.outcome? = .some (.ok ()) := by
    have well := smooth.well
    have runs := smooth.runs
    cases loop : s.loop with
    | leaving r | ended r =>
      rw [loop] at well
      cases r with
      | ok u => rfl
      | error f => cases well
    | failing slots f =>
      rw [loop] at well
      cases well
    | refused => exact absurd loop runs
    | _ =>
      rw [loop] at through
      cases through
  -- the notice comes when all steps are over
  have released := notified.noticed (.inr (notified.told outcome))
  have roster := tended.roster
  have course := smooth.course
  cases flow : s.flow with
  | releasing visit v | finished v =>
    rw [flow] at course roster
    rw [course.1] at roster
    exact some roster
  | _ =>
    rw [flow] at released
    cases released

theorem ErrandStep.proper {before after : Errand Nat} {i : Nat} (fan : FanOut e)
    (there : s.errands[i]? = some before) (step : ErrandStep s before t after) (made : Made e s.planner)
    (tended : Tended s) (notified : Notified s) (smooth : Smooth s) : after.Proper e := by
  have mem := List.mem_of_getElem? there
  have proper := smooth.proper before mem
  obtain ⟨position, within, same⟩ := smooth.of_order (smooth.ordered before mem)
  cases step with
  | find o agent live seat =>
    obtain rfl : o = { plannerId := s.planner.plan.id, agentIndex := position } := same
    exact (fan.seats_iff.mp (made.seats.mp seat)).2
  | miss o known gone =>
    rw [smooth.live tended notified (List.ne_nil_of_mem mem)] at gone
    cases gone
  | noAgent o f live absent =>
    obtain rfl : o = { plannerId := s.planner.plan.id, agentIndex := position } := same
    have seat := made.seats.mpr (fan.seats_iff.mpr ⟨within, rfl⟩)
    cases seat.symm.trans absent
  | begin o agent engine => exact proper
  | unstarted o agent f engine => cases fan.engine.mp engine
  | submit o agent =>
    show (e.profile agent).name = (e.profile o.agentIndex).name
    rw [show agent = o.agentIndex from proper]
  | wake step' turn assigned => exact proper
  | finish step' turn engine =>
    have assigned := tended.awake mem
    cases turn with
    | error f => exact absurd assigned (smooth.slots _ f)
    | ok u =>
      show Except.ok step'.report = Except.ok (e.reportFor step'.order)
      rw [OpenStep.report, show step'.agentName = _ from proper]
      rfl
  | unfinished step' turn f engine => cases fan.engine.mp engine

theorem ErrandStep.smooth {before after : Errand Nat} {i : Nat} (fan : FanOut e)
    (there : s.errands[i]? = some before) (step : ErrandStep s before t after) (made : Made e s.planner)
    (tended : Tended s) (notified : Notified s) (smooth : Smooth s) :
    Smooth { t with errands := t.errands.set i after } := by
  obtain ⟨errands, flow, loop, newSlots⟩ := step.slots_frame
  have frame : t.planner.plan = s.planner.plan ∧ t.orders = s.orders ∧ t.dropped = s.dropped := by
    rcases step.frame with rfl | ⟨o, agent, -, rfl, -⟩ <;> exact ⟨rfl, rfl, rfl⟩
  obtain ⟨plan, orders, dropped⟩ := frame
  refine ⟨?_, ?_, ?_, ?_, ?_, ?_, ?_, ?_, ?_⟩
  · simp only [loop]
    exact smooth.well
  · simp only [loop]
    exact smooth.runs
  · simp only [flow, loop]
    exact smooth.begun
  · simp only [loop]
    exact smooth.owing
  · simp only [loop, dropped]
    exact smooth.looked
  · intro k f assigned
    rcases newSlots assigned with old | ⟨pending, -⟩
    · exact smooth.slots k f old
    · cases pending
  · simp only [plan, orders, flow]
    exact smooth.course
  · intro a among
    simp only [errands] at among
    rcases List.mem_or_eq_of_mem_set among with old | rfl
    · exact smooth.proper a old
    · exact step.proper fan there made tended notified smooth
  · intro a among
    simp only [errands] at among
    simp only [orders]
    rcases List.mem_or_eq_of_mem_set among with old | rfl
    · exact smooth.ordered a old
    · rw [step.order_eq]
      exact smooth.ordered before (List.mem_of_getElem? there)

theorem Step.smooth {x y : σ} (fan : FanOut e) (step : Step s x t y) (reach : Reachable s) (smooth : Smooth s) :
    Smooth t := by
  cases step with
  | loop step => exact step.smooth fan reach.made reach.counted reach.tended reach.attained smooth
  | flow step => exact step.smooth smooth
  | errand i there step =>
    exact step.smooth fan there reach.made reach.tended reach.notified smooth
  | perform i at_ there moves =>
    have begun := smooth.begun
    have looked := smooth.looked
    rw [at_] at begun looked
    refine ⟨rfl, nofun, ?_, nofun, fun _ => looked rfl, smooth.slots, smooth.course, smooth.proper, smooth.ordered⟩
    intro unscheduled
    rcases begun unscheduled with no | no <;> cases no
  | linger i there moves =>
    exact ⟨smooth.well, smooth.runs, smooth.begun, smooth.owing, smooth.looked, smooth.slots, smooth.course,
      smooth.proper, smooth.ordered⟩

theorem Reachable.smooth (fan : FanOut e) (reach : Reachable s) : Smooth s := by
  induction reach with
  | opening =>
    refine ⟨rfl, nofun, fun _ => .inl rfl, nofun, fun _ => rfl, ?_, rfl, ?_, ?_⟩
    · intro k f assigned
      cases assigned
    · intro a mem
      cases mem
    · intro a mem
      cases mem
  | step reach step ih => exact step.smooth fan reach ih

/-! ## There is always something to do -/

/-- The loop and the workflow have come to their ends. -/
structure Stage.Over (s : e.Stage) : Prop where
  loop : ∃ r, s.loop = .ended r
  flow : ∃ v, s.flow = .finished v

/-- Somebody other than the agents can take a step. -/
inductive Stage.Goes (s : e.Stage) (x : σ) : Prop
  | loop {t : e.Stage} (step : LoopStep s t)
  | flow {t : e.Stage} (step : FlowStep x s t)
  | errand {t : e.Stage} {before after : Errand Nat} (i : Nat) (there : s.errands[i]? = some before)
      (step : ErrandStep s before t after)

/-- Whoever waits for a slot is woken, unless the slot is pending. -/
theorem goes_of_errand (fan : FanOut e) (reach : Reachable s) (x : σ) {missing : Nat} {next : Drive}
    (stepping : s.flow = .stepping missing next) {a : Errand Nat} {rest : List (Errand Nat)}
    (errands : s.errands = a :: rest) (waits : ∀ step, a = .waiting step → s.slots[step.slot]? ≠ some .pending) :
    s.Goes x := by
  have smooth := reach.smooth fan
  have there : s.errands[0]? = some a := by
    rw [errands]
    rfl
  have mem := List.mem_of_getElem? there
  have live := smooth.live reach.tended reach.notified (List.ne_nil_of_mem mem)
  have proper := smooth.proper a mem
  obtain ⟨i, within, order⟩ := smooth.of_order (smooth.ordered a mem)
  cases a with
  | ordered o =>
    obtain rfl : o = { plannerId := s.planner.plan.id, agentIndex := i } := order
    have seat := reach.made.seats.mpr (fan.seats_iff.mpr ⟨within, rfl⟩)
    exact .errand 0 there (.find s _ _ live seat)
  | found o agent => exact .errand 0 there (.begin s o agent (fan.engine.mpr rfl))
  | begun o agent => exact .errand 0 there (.submit s o agent)
  | waiting step =>
    have inside := reach.recorded.inside mem
    have found := List.getElem?_eq_getElem inside
    cases slot : s.slots[step.slot] with
    | pending =>
      rw [slot] at found
      exact absurd found (waits step rfl)
    | assigned turn =>
      rw [slot] at found
      exact .errand 0 there (.wake s step turn found)
  | ending step turn => exact .errand 0 there (.finish s step turn (fan.engine.mpr rfl))
  | finished o r =>
    obtain rfl : r = .ok (e.reportFor o) := proper
    have roster := reach.tended.roster
    rw [stepping] at roster
    have all : missing = rest.length + 1 := by
      rw [← show s.errands.length = missing from roster, errands, List.length_cons]
    subst all
    exact .flow (.report s 0 rest.length o _ next stepping there)

/-- While the loop looks into an empty queue, the workflow or one of its steps goes on. -/
theorem goes_of_looking (fan : FanOut e) (reach : Reachable s) (x : σ) (looking : s.loop = .looking)
    (empty : s.planner.queue = []) : s.Goes x := by
  have smooth := reach.smooth fan
  have course := smooth.course
  have roster := reach.tended.roster
  have released : s.flow.released ≠ true := by
    intro released
    rcases reach.notified.left released with there | through
    · rw [empty] at there
      cases there
    · rw [looking] at through
      cases through
  cases flow : s.flow with
  | unscheduled =>
    rcases smooth.begun flow with no | no <;> cases looking.symm.trans no
  | going d =>
    rw [flow] at course
    rcases course with ⟨rfl, -⟩ | ⟨rfl, -⟩
    · exact .flow (.orderAll s _ _ flow)
    · exact .flow (.finish s flow)
  | checking q visit next =>
    rw [flow] at course
    exact course.elim
  | stepping missing next =>
    rw [flow] at roster
    cases errands : s.errands with
    | nil =>
      have none : missing = 0 := by
        rw [← show s.errands.length = missing from roster, errands]
        rfl
      subst none
      exact .flow (.resume s next flow)
    | cons a rest =>
      apply goes_of_errand fan reach x flow errands
      intro step _ pending
      -- nobody holds a slot
      have tally := reach.counted.tally
      have dropped := smooth.looked
      rw [looking] at tally dropped
      rw [reach.ledger.pending, Stage.held, Planner.openSlots_eq, tally.1, empty, dropped rfl, looking] at pending
      cases pending
  | releasing visit v =>
    cases visit with
    | ordered =>
      cases live : s.live with
      | true => exact .flow (.findLoop s v flow live)
      | false => exact .flow (.missLoop s v flow live)
    | found => exact .flow (.release s v flow)
    | finished u =>
      rw [flow] at released
      exact absurd rfl released
  | finished v =>
    rw [flow] at released
    exact absurd rfl released

/-- While no agent is at its turn, somebody else can take a step, unless everything is over. -/
theorem Reachable.goes (fan : FanOut e) (reach : Reachable s) (x : σ) (idle : s.loop.turns = []) :
    s.Over ∨ s.Goes x := by
  have smooth := reach.smooth fan
  have well := smooth.well
  have tally := reach.counted.tally
  cases loop : s.loop with
  | unnamed => exact .inr (.loop (.name s "" loop))
  | opening =>
    obtain ⟨start, valid, -⟩ := fan.of_start reach.made
    exact .inr (.loop (.schedule s start loop valid (fan.engine.mpr rfl)))
  | counting left => exact .inr (.loop (.count s left loop))
  | looking =>
    right
    by_cases empty : s.planner.queue = []
    · exact goes_of_looking fan reach x loop empty
    · have some := mt (Planner.drain_eq_none_iff s.planner).mp empty
      obtain ⟨⟨action, p⟩, drained⟩ := Option.ne_none_iff_exists'.mp some
      cases action with
      | call batch => exact .loop (.call s batch p loop drained (fan.not_refuses batch))
      | done => exact .loop (.stop s p loop drained)
      | noOp => exact absurd drained Planner.drain_ne_noOp
  | running batch =>
    rw [loop] at idle tally
    exact absurd idle tally.1
  | acknowledging left =>
    cases left with
    | zero => exact absurd loop smooth.owing
    | succ left => exact .inr (.loop (.acknowledge s left loop))
  | assigning slot left => exact .inr (.loop (.assign s slot left loop))
  | failing slots f =>
    rw [loop] at well
    cases well
  | leaving r => exact .inr (.loop (.leave s r loop))
  | refused => exact absurd loop smooth.runs
  | ended r =>
    rw [loop] at well
    cases r with
    | error f => cases well
    | ok u =>
      have told : Notice.complete ∈ s.dropped := reach.notified.told (by rw [loop]; rfl)
      have released := reach.notified.noticed (.inr told)
      cases flow : s.flow with
      | releasing visit v =>
        rw [flow] at released
        cases visit with
        | finished u => exact .inr (.flow (.close s v flow))
        | ordered | found => cases released
      | finished v => exact .inl ⟨⟨_, loop⟩, v, flow⟩
      | _ =>
        rw [flow] at released
        cases released

end Ensemble
end Rendezvous
