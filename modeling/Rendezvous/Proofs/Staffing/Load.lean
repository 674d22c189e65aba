import Mathlib.Algebra.Order.BigOperators.Group.List
import Rendezvous.Proofs.Interleaving.Orphans
import Rendezvous.Proofs.Recording.Orders

/-!
# The threads that an orchestration holds

A step activity holds a thread of the worker from its start until its slot has been assigned, and so do the step
activities of the agents that it waits for.  `Stage.load` counts them all.

On an engine that does not fail, an orchestration that has ended well holds no thread (`Reachable.load_ended`).
While it goes on, a parallel one holds at most a thread for each of its agents, next to what the agents hold
(`Reachable.load_le_sum`); any other one holds at most a thread for one of them, next to what that agent holds
(`Reachable.load_le_max`).  One step takes one thread at most (`Step.load_le`).
-/

namespace Rendezvous

set_option autoImplicit false

/-! ## Behaviours that hold threads -/

namespace Behaviour

variable {σ : Type} {B : Behaviour σ}

/-- The states that may follow a success. -/
inductive Past (B : Behaviour σ) : B.State → Prop
  | now {q : B.State} {v : Value} (attains : B.Attains q) (succeeds : B.result? q = some (.ok v)) : Past B q
  | later {q q' : B.State} {x y : σ} (past : Past B q) (step : B.Step q x q' y) : Past B q'

theorem Past.attains {q : B.State} (past : B.Past q) : B.Attains q := by
  induction past with
  | now attains _ => exact attains
  | later _ step ih => exact .step ih step

end Behaviour

/-- A behaviour, and how many threads it holds. -/
structure Laden where
  behaviour : Behaviour Scope
  load : behaviour.State → Nat

/-- It begins without a thread, and one step takes one thread at most.  It never holds more than so many, and none
after a success. -/
structure Laden.Bounded (l : Laden) (most : Nat) : Prop where
  start : l.load l.behaviour.start = 0
  step : ∀ {q q' : l.behaviour.State} {x y : Scope}, l.behaviour.Attains q → l.behaviour.Step q x q' y →
    l.load q' ≤ l.load q + 1
  attains : ∀ {q : l.behaviour.State}, l.behaviour.Attains q → l.load q ≤ most
  past : ∀ {q : l.behaviour.State}, l.behaviour.Past q → l.load q = 0

namespace Ensemble

variable {σ : Type} {e : Ensemble Nat σ} {s t : e.Stage} {x y : σ}

/-- Whether a step activity holds a thread: from its start until its slot has been assigned. -/
def Stage.holds (s : e.Stage) : Errand Nat → Bool
  | .found .. | .begun .. => true
  | .waiting step => (s.slots[step.slot]?).any fun slot => !slot.isDone
  | _ => false

/-- How many threads an orchestration holds, given how many its agents hold. -/
def Stage.load (load : ∀ agent, (e.behaviour agent).State → Nat) (s : e.Stage) : Nat :=
  s.errands.countP s.holds + (s.turns.map fun u => load u.submission.agent u.state).sum

/-- A turn of a batch that goes on takes its own place. -/
theorem turns_perform {batch : List e.Turn} {u : e.Turn} {i : Nat} (at_ : s.loop = .running batch)
    (there : batch[i]? = some u) (v : e.Turn) :
    s.turns[i]? = some u ∧ ({ s with loop := .running (batch.set i v) } : e.Stage).turns = s.turns.set i v := by
  have inside := (List.getElem?_eq_some_iff.mp there).1
  simp only [Stage.turns, at_, Loop.turns]
  exact ⟨by rw [List.getElem?_append_left inside, there], by rw [List.set_append_left _ _ inside]⟩

/-- So does a turn that is over. -/
theorem turns_linger {u : e.Turn} {i : Nat} (there : s.retired[i]? = some u) (v : e.Turn) :
    s.turns[s.loop.turns.length + i]? = some u ∧
      ({ s with retired := s.retired.set i v } : e.Stage).turns = s.turns.set (s.loop.turns.length + i) v := by
  simp only [Stage.turns]
  constructor
  · rw [List.getElem?_append_right (Nat.le_add_right _ _), Nat.add_sub_cancel_left, there]
  · rw [List.set_append_right _ _ (Nat.le_add_right _ _), Nat.add_sub_cancel_left]

/-! ## Before the loop gives up -/

/-- A loop that has given up does not come back. -/
theorem LoopStep.not_failed (step : LoopStep s t) (well : t.loop.failure? = none) : s.loop.failure? = none := by
  cases step with
  | leave r at_ =>
    cases r with
    | ok u =>
      rw [at_]
      rfl
    | error f => cases well
  | giveUp batch outcomes f at_ _ _ | invalid f at_ _ | unscheduled f at_ _ | failNext slot rest f at_
  | failed f at_ => cases well
  | _ => simp_all [Loop.failure?]

theorem Step.not_failed (step : Step s x t y) (well : t.loop.failure? = none) : s.loop.failure? = none := by
  cases step with
  | loop step => exact step.not_failed well
  | flow step => rwa [← step.frame.1]
  | errand i there step => rwa [← step.slots_frame.2.2.1]
  | perform i at_ there moves =>
    rw [at_]
    rfl
  | linger i there moves => exact well

/-- Only a loop that gives up assigns failures. -/
theorem Reachable.unblamed (reach : Reachable s) (well : s.loop.failure? = none) (k : Nat) (f : Failure) :
    s.slots[k]? ≠ some (.assigned (.error f)) := by
  induction reach with
  | opening => exact nofun
  | step before step ih =>
    have none := ih (step.not_failed well)
    cases step with
    | loop step =>
      intro assigned
      cases step with
      | assign slot left at_ =>
        cases slot with
        | none => exact none assigned
        | some slot =>
          rcases assigned_of_modify assigned with same | ⟨-, -, other⟩
          · exact none same
          · cases other
      | failNext slot rest f' at_ => cases well
      | _ => exact none assigned
    | flow step => rwa [step.frame.2.1]
    | errand i there step =>
      intro assigned
      rcases step.slots_frame.2.2.2 assigned with same | ⟨other, -⟩
      · exact none same
      · cases other
    | perform i at_ there moves => exact none
    | linger i there moves => exact none

/-- As long as the loop has not given up, all turns that are over have ended well. -/
theorem Reachable.past_of_retired (reach : Reachable s) (well : s.loop.failure? = none) :
    ∀ u ∈ s.retired, (e.behaviour u.submission.agent).Past u.state := by
  induction reach with
  | opening => exact nofun
  | @step s t x y before step ih =>
    have past := ih (step.not_failed well)
    cases step with
    | loop step =>
      cases step with
      | finish batch outcomes at_ all none =>
        intro u mem
        rcases List.mem_append.mp mem with old | new
        · exact past u old
        · have result : u.result? ∈ batch.map Turn.result? := List.mem_map_of_mem new
          rw [outcomes?_eq_some_iff.mp all] at result
          obtain ⟨r, among, is⟩ := List.mem_map.mp result
          obtain ⟨v, rfl⟩ := ok_of_outcomes none among
          have attains := before.attained u (by rw [Stage.turns, at_]; exact List.mem_append_left _ new)
          exact .now attains is.symm
      | giveUp batch outcomes f at_ _ _ => cases well
      | _ => exact past
    | flow step => rwa [step.frame.2.2.2.2.2.1]
    | errand i there step =>
      rcases step.frame with rfl | ⟨o, agent, -, rfl, -⟩
      · exact past
      · exact past
    | perform i at_ there moves => exact past
    | linger i there moves =>
      rename_i w q
      have before := past w (List.mem_of_getElem? there)
      intro u mem
      rcases List.mem_or_eq_of_mem_set mem with old | rfl
      · exact past u old
      · exact .later before moves

/-- Activities find the planner until the loop has ended. -/
theorem Reachable.ended_of_gone (reach : Reachable s) (gone : s.live = false) : ∃ r, s.loop = .ended r := by
  induction reach with
  | opening => cases gone
  | step before step ih =>
    cases step with
    | loop step =>
      cases step with
      | leave r at_ => exact ⟨r, rfl⟩
      | _ =>
        obtain ⟨r, ended⟩ := ih gone
        simp_all
    | flow step =>
      rw [step.frame.1]
      exact ih (step.frame.2.2.2.2.2.2.1 ▸ gone)
    | errand i there step =>
      rcases step.frame with rfl | ⟨o, agent, -, rfl, -⟩
      · exact ih gone
      · exact ih gone
    | perform i at_ there moves =>
      obtain ⟨r, ended⟩ := ih gone
      cases at_.symm.trans ended
    | linger i there moves => exact ih gone

/-! ## Agents side by side -/

/-- Where the workflow of a parallel orchestration stands: it orders all steps at once. -/
def Flow.Straight (width : Nat) : Flow → Prop
  | .going d => d = .finish ∨ ∃ os, d = .steps os .finish ∧ ∀ o ∈ os, o.agentIndex < width
  | .stepping _ next => next = .finish
  | .checking .. => False
  | _ => True

/-- A step activity that has not failed, and is not going to. -/
def Errand.Fine : Errand Nat → Prop
  | .ending _ (.error _) | .finished _ (.error _) => False
  | _ => True

/-- A parallel orchestration on an engine that does not fail: nothing fails before the loop gives up. -/
structure Straight (s : e.Stage) : Prop where
  course : s.flow.Straight e.agents.length
  within : ∀ o ∈ s.orders, o.agentIndex < e.agents.length
  fine : s.loop.failure? = none → s.flow.failed = false ∧ ∀ a ∈ s.errands, a.Fine

theorem straight_of_start {p : Planner Nat} {start : OrchestrationStart} (made : Made e p)
    (started : p.start = .ok start) (parallel : e.plan.topology = .parallel) :
    (Flow.going (.of start)).Straight e.agents.length := by
  obtain ⟨-, topology, count⟩ := Planner.of_start started
  have shape : start.topology = .parallel := by rw [topology, made.plan, ← parallel]
  refine .inr ⟨stepOrders start.plannerId start.agentCount, ?_, fun o mem => ?_⟩
  · rw [Drive.of, shape]
    rfl
  · obtain ⟨i, inside, rfl⟩ := List.mem_map.mp mem
    rw [← made.agents, ← count]
    exact List.mem_range.mp inside

theorem LoopStep.straight (step : LoopStep s t) (parallel : e.plan.topology = .parallel) (made : Made e s.planner)
    (tended : Tended s) (straight : Straight s) : Straight t := by
  have errands := step.slots_frame.1
  refine ⟨?_, ?_, fun well => ?_⟩
  · rcases step.flow_frame with ⟨flow, -⟩ | ⟨-, -, start, valid, flow⟩
    · rw [flow]
      exact straight.course
    · rw [flow]
      exact straight_of_start made valid parallel
  · rw [step.orders_frame]
    exact straight.within
  · rw [step.failed_eq tended, errands]
    exact straight.fine (step.not_failed well)

theorem FlowStep.straight {x : σ} (step : FlowStep x s t) (straight : Straight s) : Straight t := by
  obtain ⟨course, within, fine⟩ := straight
  have loop := step.frame.1
  cases step with
  | order o next at_ | iteration n next at_ | skip i next at_ | askExit o next at_ | askCondition o next at_ =>
    rw [at_] at course
    rcases course with other | ⟨os, other, -⟩ <;> cases other
  | orderAll os next at_ =>
    rw [at_] at course
    rcases course with other | ⟨os', same, inside⟩
    · cases other
    · cases same
      refine ⟨rfl, fun o mem => ?_, fun well => ⟨rfl, fun a mem => ?_⟩⟩
      · rcases List.mem_append.mp mem with old | new
        · exact within o old
        · exact inside o new
      · rcases List.mem_append.mp mem with old | new
        · exact (fine well).2 a old
        · obtain ⟨o, -, rfl⟩ := List.mem_map.mp new
          trivial
  | report i missing o r next at_ finished =>
    rw [at_] at course
    exact ⟨course, within, fun well => ⟨rfl, fun a mem => (fine well).2 a (List.mem_of_mem_eraseIdx mem)⟩⟩
  | fail i missing o f next at_ finished =>
    refine ⟨trivial, within, fun well => ?_⟩
    exact ((fine well).2 _ (List.mem_of_getElem? finished)).elim
  | resume next at_ =>
    rw [at_] at course
    exact ⟨.inl course, within, fun well => ⟨rfl, (fine well).2⟩⟩
  | find q next at_ _ | miss q next known at_ _ | evaluate q next at_ | branch q b next at_ | refuse q f next at_ =>
    rw [at_] at course
    exact course.elim
  | finish at_ => exact ⟨trivial, within, fun well => ⟨rfl, (fine well).2⟩⟩
  | findLoop v at_ _ | missLoop v at_ _ | release v at_ | close v at_ =>
    rw [at_] at fine
    exact ⟨trivial, within, fine⟩

/-- A workflow that has released the loop and has not failed has no steps under way. -/
theorem Tended.errands_eq_nil (tended : Tended s) (released : s.flow.released = true) (well : s.flow.failed = false) :
    s.errands = [] := by
  have roster := tended.roster
  cases flow : s.flow with
  | releasing visit v | finished v =>
    rw [flow] at well roster
    cases v with
    | none => exact roster
    | some f => cases well
  | _ =>
    rw [flow] at released
    cases released

/-- A loop that ends well has been released. -/
theorem Reachable.released_of_ended (reach : Reachable s) (ended : s.loop = .ended (.ok ())) :
    s.flow.released = true := by
  have outcome : s.loop.outcome? = some (.ok ()) := by
    rw [ended]
    rfl
  exact reach.notified.noticed (.inr (reach.notified.told outcome))

theorem ErrandStep.straight {a b : Errand Nat} {i : Nat} (there : s.errands[i]? = some a) (step : ErrandStep s a t b)
    (engine : ∀ r, e.engine r → r = .ok ()) (reach : Reachable s) (ordered : ∀ a ∈ s.errands, a.order ∈ s.orders)
    (straight : Straight s) :
    Straight { t with errands := t.errands.set i b } := by
  obtain ⟨course, within, fine⟩ := straight
  obtain ⟨errands, flow, loop, -⟩ := step.slots_frame
  have orders : t.orders = s.orders := by
    rcases step.frame with rfl | ⟨o, agent, -, rfl, -⟩ <;> rfl
  have mem := List.mem_of_getElem? there
  refine ⟨by rwa [← flow] at course, by rwa [← orders] at within, fun well => ?_⟩
  have well : s.loop.failure? = none := by rwa [← loop]
  obtain ⟨going, all⟩ := fine well
  refine ⟨by rwa [← flow] at going, fun a' mem' => ?_⟩
  rw [errands] at mem'
  rcases List.mem_or_eq_of_mem_set mem' with old | rfl
  · exact all a' old
  · cases step with
    | miss o known gone =>
      obtain ⟨r, ended⟩ := reach.ended_of_gone gone
      cases r with
      | error f =>
        rw [ended] at well
        cases well
      | ok u =>
        rw [reach.tended.errands_eq_nil (reach.released_of_ended ended) going] at there
        cases there
    | noAgent o f live absent =>
      have inside := within o (ordered _ mem)
      have seated : s.planner.agentAt o.agentIndex = .ok e.agents[o.agentIndex] := by
        rw [agentAt_natCast_iff, reach.made.agents]
        exact List.getElem?_eq_getElem inside
      cases seated.symm.trans absent
    | unstarted o agent f fails | unfinished step turn f fails => cases engine _ fails
    | wake step turn assigned =>
      cases turn with
      | ok u => trivial
      | error f => exact reach.unblamed well _ f assigned
    | finish step turn _ =>
      cases turn with
      | ok u => trivial
      | error f => exact all (.ending step (.error f)) mem
    | _ => trivial

theorem Step.straight (step : Step s x t y) (parallel : e.plan.topology = .parallel)
    (engine : ∀ r, e.engine r → r = .ok ()) (reach : Reachable s) (straight : Straight s) : Straight t := by
  cases step with
  | loop step => exact step.straight parallel reach.made reach.tended straight
  | flow step => exact step.straight straight
  | errand i there step => exact step.straight there engine reach reach.placed.errands straight
  | perform i at_ there moves =>
    have well : s.loop.failure? = none := by
      rw [at_]
      rfl
    exact ⟨straight.course, straight.within, fun _ => straight.fine well⟩
  | linger i there moves => exact ⟨straight.course, straight.within, straight.fine⟩

theorem Reachable.straight (reach : Reachable s) (parallel : e.plan.topology = .parallel)
    (engine : ∀ r, e.engine r → r = .ok ()) : Straight s := by
  induction reach with
  | opening => exact ⟨trivial, nofun, fun _ => ⟨rfl, nofun⟩⟩
  | step before step ih => exact step.straight parallel engine before ih

/-! ## Orchestrations that have ended well -/

/-- No step is under way when an orchestration has ended well. -/
theorem Reachable.errands_of_ended (reach : Reachable s) (engine : ∀ r, e.engine r → r = .ok ())
    (ended : s.loop = .ended (.ok ())) : s.errands = [] := by
  have released := reach.released_of_ended ended
  by_cases parallel : e.plan.topology = .parallel
  · have well : s.loop.failure? = none := by
      rw [ended]
      rfl
    exact reach.tended.errands_eq_nil released ((reach.straight parallel engine).fine well).1
  · obtain ⟨id, sole⟩ := reach.sole parallel
    cases flow : s.flow with
    | releasing visit v | finished v =>
      rw [flow] at sole
      exact sole
    | _ =>
      rw [flow] at released
      cases released

variable {load : ∀ agent, (e.behaviour agent).State → Nat}

/-- An orchestration that has ended well holds no thread. -/
theorem Reachable.load_ended (reach : Reachable s) (engine : ∀ r, e.engine r → r = .ok ())
    (none : ∀ agent {q : (e.behaviour agent).State}, (e.behaviour agent).Past q → load agent q = 0)
    (ended : s.loop = .ended (.ok ())) : s.load load = 0 := by
  have well : s.loop.failure? = .none := by
    rw [ended]
    rfl
  have turns : s.turns = s.retired := by
    rw [Stage.turns, ended]
    rfl
  rw [Stage.load, reach.errands_of_ended engine ended, turns, List.countP_nil, Nat.zero_add]
  refine List.sum_eq_zero fun n mem => ?_
  obtain ⟨u, among, rfl⟩ := List.mem_map.mp mem
  exact none _ (reach.past_of_retired well u among)

/-- Whoever holds a thread does so for an agent. -/
theorem Reachable.within_of_holds (reach : Reachable s) (agents : e.agents = List.range e.agents.length)
    {a : Errand Nat} (mem : a ∈ s.errands) (holds : s.holds a = true) : a.order.agentIndex < e.agents.length := by
  have sound := reach.recorded.sound mem
  cases a with
  | found o agent | begun o agent => exact ((seats_range agents).mp sound).1
  | waiting step =>
    obtain ⟨_, -, -, seats⟩ := sound
    exact ((seats_range agents).mp seats).1
  | ordered o | ending step turn | finished o r => cases holds

theorem Reachable.within_of_turn (reach : Reachable s) (agents : e.agents = List.range e.agents.length)
    {u : e.Turn} (mem : u ∈ s.turns) : u.submission.agent < e.agents.length := by
  obtain ⟨o, -, -, seats⟩ := reach.placed.cast u.submission (List.mem_append_left _ (List.mem_map_of_mem mem))
  obtain ⟨inside, same⟩ := (seats_range agents).mp seats
  exact same ▸ inside

/-! ## Agents side by side hold what they hold together -/

/-- A parallel orchestration orders one step at most for each agent. -/
theorem Reachable.order_unique (reach : Reachable s) (parallel : e.plan.topology = .parallel) {o o' : StepOrder}
    (mem : o ∈ s.orders) (mem' : o' ∈ s.orders) (same : o.agentIndex = o'.agentIndex) : o = o' := by
  have once : e.plan.topology ≠ .loop := by
    rw [parallel]
    exact nofun
  obtain ⟨planner, iteration⟩ := reach.numbered.own o mem
  obtain ⟨planner', iteration'⟩ := reach.numbered.own o' mem'
  cases o
  cases o'
  simp_all

theorem Reachable.errands_le (reach : Reachable s) (parallel : e.plan.topology = .parallel)
    (engine : ∀ r, e.engine r → r = .ok ()) : s.errands.length ≤ e.agents.length := by
  have placed := reach.placed
  have distinct : (s.errands.map (·.order.agentIndex)).Nodup := by
    refine List.pairwise_map.mpr ((List.pairwise_map.mp placed.distinct).imp_of_mem fun mem mem' other same => ?_)
    exact other (reach.order_unique parallel (placed.errands _ mem) (placed.errands _ mem') same)
  have inside : s.errands.map (·.order.agentIndex) ⊆ List.range e.agents.length := by
    intro i mem
    obtain ⟨a, among, rfl⟩ := List.mem_map.mp mem
    exact List.mem_range.mpr ((reach.straight parallel engine).within _ (placed.errands a among))
  have most := (distinct.subperm inside).length_le
  rwa [List.length_map, List.length_range] at most

/-- No agent of a parallel orchestration has two turns. -/
theorem Reachable.turns_subperm (reach : Reachable s) (parallel : e.plan.topology = .parallel)
    (agents : e.agents = List.range e.agents.length) :
    (s.turns.map (·.submission.agent)).Subperm (List.range e.agents.length) := by
  have placed := reach.placed
  have cast {u : e.Turn} (mem : u ∈ s.turns) := placed.cast u.submission
    (List.mem_append_left _ (List.mem_map_of_mem mem))
  refine List.Nodup.subperm ?_ fun i mem => ?_
  · have runs : (s.turns.map (·.submission.run)).Nodup := by
      have once := (List.nodup_append.mp placed.once).1
      rw [Stage.cast, List.map_append, List.map_map] at once
      exact (List.nodup_append.mp once).1
    refine List.pairwise_map.mpr ((List.pairwise_map.mp runs).imp_of_mem fun {u v} mem mem' other same => ?_)
    obtain ⟨o, ordered, run, seats⟩ := cast mem
    obtain ⟨o', ordered', run', seats'⟩ := cast mem'
    have index := ((seats_range agents).mp seats).2.symm.trans (same.trans ((seats_range agents).mp seats').2)
    rw [reach.order_unique parallel ordered ordered' index] at run
    exact other (run.trans run'.symm)
  · obtain ⟨u, among, rfl⟩ := List.mem_map.mp mem
    exact List.mem_range.mpr (reach.within_of_turn agents among)

/-- A parallel orchestration holds at most a thread for each agent, next to what the agents hold. -/
theorem Reachable.load_le_sum (reach : Reachable s) (parallel : e.plan.topology = .parallel)
    (agents : e.agents = List.range e.agents.length) (engine : ∀ r, e.engine r → r = .ok ()) {most : Nat → Nat}
    (within : ∀ agent {q : (e.behaviour agent).State}, (e.behaviour agent).Attains q → load agent q ≤ most agent) :
    s.load load ≤ ((List.range e.agents.length).map (most · + 1)).sum := by
  have errands : s.errands.countP s.holds ≤ e.agents.length :=
    List.countP_le_length.trans (reach.errands_le parallel engine)
  have turns : (s.turns.map fun u => load u.submission.agent u.state).sum ≤
      ((List.range e.agents.length).map most).sum := by
    calc (s.turns.map fun u => load u.submission.agent u.state).sum
      _ ≤ (s.turns.map fun u => most u.submission.agent).sum :=
        List.sum_le_sum fun u mem => within _ (reach.attained u mem)
      _ = ((s.turns.map (·.submission.agent)).map most).sum := by rw [List.map_map]; rfl
      _ ≤ ((List.range e.agents.length).map most).sum := by
        obtain ⟨l, perm, sub⟩ := reach.turns_subperm parallel agents
        rw [← (perm.map most).sum_eq]
        exact (sub.map most).sum_le_sum fun _ _ => Nat.zero_le _
  have split : ((List.range e.agents.length).map (most · + 1)).sum =
      ((List.range e.agents.length).map most).sum + e.agents.length := by
    rw [List.sum_map_add]
    simp
  rw [Stage.load, split]
  omega

/-! ## One agent after the other -/

/-- Unless an orchestration is parallel, one step at most is under way. -/
theorem Reachable.errands_le_one (reach : Reachable s) (single : e.plan.topology ≠ .parallel) :
    s.errands.length ≤ 1 := by
  obtain ⟨id, sole⟩ := reach.sole single
  exact sole.length_le reach.tended.roster

/-- A batch is a single turn then. -/
theorem Reachable.batch_le_one (reach : Reachable s) (single : e.plan.topology ≠ .parallel) {batch : List e.Turn}
    (at_ : s.loop = .running batch) : batch.length ≤ 1 := by
  have tally := reach.counted.tally
  rw [at_] at tally
  have slots : s.planner.inTurn = batch.map (·.submission.slot) := tally.2.1
  have held {k : Nat} (mem : k ∈ batch.map (·.submission.slot)) : k ∈ s.held := by
    rw [Stage.held, Planner.openSlots_eq, slots]
    exact List.mem_append_left _ (List.mem_append_left _ (List.mem_append_left _ mem))
  have distinct : (batch.map (·.submission.slot)).Nodup := by
    have once := reach.ledger.once
    rw [Stage.held, Planner.openSlots_eq, slots] at once
    exact (List.nodup_append.mp (List.nodup_append.mp (List.nodup_append.mp once).1).1).1
  -- each of the slots has a step that waits for it
  have waited {k : Nat} (mem : k ∈ batch.map (·.submission.slot)) :=
    reach.tended.waited ((reach.ledger.pending k).mpr (held mem))
  have few := reach.errands_le_one single
  have inside : ∃ k, batch.map (·.submission.slot) ⊆ [k] := by
    cases errands : s.errands with
    | nil =>
      refine ⟨0, fun k mem => ?_⟩
      obtain ⟨step, among, -⟩ := waited mem
      rw [errands] at among
      cases among
    | cons a rest =>
      rw [errands, List.length_cons] at few
      obtain rfl : rest = [] := List.length_eq_zero_iff.mp (by omega)
      by_cases some : ∃ k, k ∈ batch.map (·.submission.slot)
      · obtain ⟨k, mem⟩ := some
        obtain ⟨step, among, same⟩ := waited mem
        refine ⟨k, fun k' mem' => ?_⟩
        obtain ⟨step', among', same'⟩ := waited mem'
        rw [errands, List.mem_singleton] at among among'
        cases among.trans among'.symm
        exact List.mem_singleton.mpr (same'.symm.trans same)
      · exact ⟨0, fun k mem => absurd ⟨k, mem⟩ some⟩
  obtain ⟨k, inside⟩ := inside
  have most := (distinct.subperm inside).length_le
  rwa [List.length_map] at most

/-- All turns but one have ended well. -/
def Alone (turns : List e.Turn) : Prop :=
  ∃ k, ∀ (j : Nat) (u : e.Turn), turns[j]? = some u → j ≠ k → (e.behaviour u.submission.agent).Past u.state

/-- A single turn before turns that have ended well. -/
theorem alone_append {batch rest : List e.Turn} (few : batch.length ≤ 1)
    (past : ∀ u ∈ rest, (e.behaviour u.submission.agent).Past u.state) : Alone (batch ++ rest) := by
  refine ⟨0, fun j u there other => past u ?_⟩
  rw [List.getElem?_append_right (by omega)] at there
  exact List.mem_of_getElem? there

/-- A single turn behind turns that have ended well. -/
theorem alone_append_right {batch rest : List e.Turn} (few : batch.length ≤ 1)
    (past : ∀ u ∈ rest, (e.behaviour u.submission.agent).Past u.state) : Alone (rest ++ batch) := by
  refine ⟨rest.length, fun j u there other => ?_⟩
  by_cases inside : j < rest.length
  · rw [List.getElem?_append_left inside] at there
    exact past u (List.mem_of_getElem? there)
  · have short := (List.getElem?_eq_some_iff.mp there).1
    rw [List.length_append] at short
    omega

theorem Alone.set {turns : List e.Turn} (alone : Alone turns) {i : Nat} {u : e.Turn} (there : turns[i]? = some u)
    {q : (e.behaviour u.submission.agent).State} (moves : (e.behaviour u.submission.agent).Step u.state x q y) :
    Alone (turns.set i ⟨u.submission, q⟩) := by
  obtain ⟨k, past⟩ := alone
  refine ⟨k, fun j v at_ other => ?_⟩
  by_cases same : i = j
  · subst same
    rw [List.getElem?_set_self (List.getElem?_eq_some_iff.mp there).1] at at_
    cases at_
    exact .later (past i u there other) moves
  · rw [List.getElem?_set_ne same] at at_
    exact past j v at_ other

/-- Once the loop has given up, only turns that are over go on. -/
theorem Step.alone (step : Step s x t y) (before : Reachable s) (single : e.plan.topology ≠ .parallel)
    (failed : t.loop.failure? ≠ none) (alone : Alone s.turns) : Alone t.turns := by
  cases step with
  | loop step =>
    cases step with
    | giveUp batch outcomes f at_ _ _ =>
      have well : s.loop.failure? = none := by
        rw [at_]
        rfl
      show Alone (s.retired ++ batch)
      exact alone_append_right (before.batch_le_one single at_) (before.past_of_retired well)
    | leave r at_ | invalid f at_ _ | unscheduled f at_ _ | failNext slot rest f at_ | failed f at_ =>
      rwa [Stage.turns, at_] at alone
    | count left at_ =>
      refine absurd ?_ failed
      show Loop.failure? (if _ then _ else _) = none
      split <;> rfl
    | _ => exact absurd rfl failed
  | flow step =>
    rwa [Stage.turns, step.frame.1, step.frame.2.2.2.2.2.1]
  | errand i there step =>
    rcases step.frame with rfl | ⟨o, agent, -, rfl, -⟩
    · exact alone
    · exact alone
  | perform i at_ there moves => exact absurd rfl failed
  | linger i there moves =>
    obtain ⟨at_, after⟩ := turns_linger there ⟨_, _⟩
    rw [after]
    exact alone.set at_ moves

/-- Unless an orchestration is parallel, one turn at most is open. -/
theorem Reachable.alone (reach : Reachable s) (single : e.plan.topology ≠ .parallel) : Alone s.turns := by
  induction reach with
  | opening => exact ⟨0, nofun⟩
  | @step s t x y before step ih =>
    by_cases well : t.loop.failure? = none
    · have after := before.step step
      have few : t.loop.turns.length ≤ 1 := by
        cases at_ : t.loop with
        | running batch => exact after.batch_le_one single at_
        | _ => exact Nat.zero_le _
      exact alone_append few (after.past_of_retired well)
    · exact step.alone before single well ih

/-- What all elements but one add nothing to. -/
theorem sum_map_le {α : Type} {l : List α} {f : α → Nat} {k most : Nat}
    (others : ∀ j a, l[j]? = some a → j ≠ k → f a = 0) (within : ∀ a ∈ l, f a ≤ most) : (l.map f).sum ≤ most := by
  induction l generalizing k with
  | nil => exact Nat.zero_le _
  | cons a rest ih =>
    rw [List.map_cons, List.sum_cons]
    cases k with
    | zero =>
      have none : (rest.map f).sum = 0 := by
        refine List.sum_eq_zero fun n mem => ?_
        obtain ⟨b, among, rfl⟩ := List.mem_map.mp mem
        obtain ⟨j, there⟩ := List.mem_iff_getElem?.mp among
        exact others (j + 1) b there (Nat.succ_ne_zero j)
      rw [none]
      exact within a List.mem_cons_self
    | succ k =>
      rw [others 0 a rfl (Nat.succ_ne_zero k).symm, Nat.zero_add]
      exact ih (fun j b there other => others (j + 1) b there fun same => other (Nat.succ.inj same))
        fun b mem => within b (List.mem_cons_of_mem a mem)

/-- Any other orchestration holds at most a thread for one agent, next to what that agent holds. -/
theorem Reachable.load_le_max (reach : Reachable s) (single : e.plan.topology ≠ .parallel)
    (agents : e.agents = List.range e.agents.length) {most : Nat}
    (within : ∀ agent < e.agents.length, ∀ {q : (e.behaviour agent).State}, (e.behaviour agent).Attains q →
      load agent q + 1 ≤ most)
    (none : ∀ agent {q : (e.behaviour agent).State}, (e.behaviour agent).Past q → load agent q = 0) :
    s.load load ≤ most := by
  have errands : s.errands.countP s.holds ≤ 1 :=
    List.countP_le_length.trans (reach.errands_le_one single)
  rw [Stage.load]
  cases turns : s.turns with
  | nil =>
    by_cases some : ∃ a ∈ s.errands, s.holds a = true
    · obtain ⟨a, mem, holds⟩ := some
      have room := within _ (reach.within_of_holds agents mem holds) .start
      simp only [List.map_nil, List.sum_nil]
      omega
    · have idle : s.errands.countP s.holds = 0 := List.countP_eq_zero.mpr fun a mem holds => some ⟨a, mem, holds⟩
      simp [idle]
  | cons u rest =>
    have inside {v : e.Turn} (mem : v ∈ s.turns) :=
      within _ (reach.within_of_turn agents mem) (reach.attained v mem)
    have room := inside (turns ▸ List.mem_cons_self : u ∈ s.turns)
    obtain ⟨k, past⟩ := reach.alone single
    have sum : (s.turns.map fun v => load v.submission.agent v.state).sum ≤ most - 1 :=
      sum_map_le (fun j v there other => none _ (past j v there other)) fun v mem => by
        have := inside mem
        omega
    rw [← turns]
    omega

/-! ## One thread at a time -/

theorem holds_waiting_iff {step : OpenStep} : s.holds (.waiting step) = true ↔ s.slots[step.slot]? = some .pending := by
  show (s.slots[step.slot]?).any _ = true ↔ _
  rw [Option.any_eq_true]
  constructor
  · rintro ⟨slot, there, open_⟩
    cases slot with
    | pending => exact there
    | assigned r => cases open_
  · exact fun there => ⟨.pending, there, rfl⟩

/-- The loop takes no threads. -/
theorem LoopStep.holding_le (step : LoopStep s t) : t.errands.countP t.holds ≤ s.errands.countP s.holds := by
  obtain ⟨errands, slots⟩ := step.slots_frame
  rw [errands]
  refine List.countP_mono_left fun a _ holds => ?_
  cases a with
  | waiting step' =>
    rw [holds_waiting_iff] at holds ⊢
    rcases slots holds with same | ⟨-, r, other⟩
    · exact same
    · cases other
  | _ => exact holds

/-- Nor does the workflow: what it orders has not started. -/
theorem FlowStep.holding_le {x : σ} (step : FlowStep x s t) :
    t.errands.countP t.holds ≤ s.errands.countP s.holds := by
  have same : t.holds = s.holds := by
    funext a
    cases a <;> simp only [Stage.holds, step.frame.2.1]
  rw [same]
  rcases step.errands_frame with ⟨os, errands, -⟩ | ⟨i, o, r, -, errands, -⟩
  · rw [errands, List.countP_append]
    have none : (os.map Errand.ordered).countP s.holds = 0 := by
      refine List.countP_eq_zero.mpr fun a mem => ?_
      obtain ⟨o, -, rfl⟩ := List.mem_map.mp mem
      exact Bool.false_ne_true
    omega
  · rw [errands]
    exact (List.eraseIdx_sublist _ _).countP_le

/-- A step activity that goes on takes one thread at most. -/
theorem ErrandStep.holding_le {a b : Errand Nat} {i : Nat} (there : s.errands[i]? = some a)
    (step : ErrandStep s a t b) (recorded : Recorded s) :
    (t.errands.set i b).countP t.holds ≤ s.errands.countP s.holds + 1 := by
  have inside := (List.getElem?_eq_some_iff.mp there).1
  have others : s.errands.countP t.holds ≤ s.errands.countP s.holds := by
    refine List.countP_mono_left fun a' mem holds => ?_
    cases a' with
    | waiting step' =>
      rw [holds_waiting_iff] at holds ⊢
      -- a new slot is nobody's but the new submission's
      rcases step.frame with rfl | ⟨o, agent, -, rfl, -⟩
      · exact holds
      · rwa [Stage.submit, List.getElem?_append_left (recorded.inside mem)] at holds
    | _ => exact holds
  rw [step.slots_frame.1, List.countP_set inside]
  split <;> split <;> omega

variable {load : ∀ agent, (e.behaviour agent).State → Nat}

/-- Turns begin without a thread. -/
theorem LoopStep.turns_load (step : LoopStep s t) (starts : ∀ agent, load agent (e.behaviour agent).start = 0) :
    (t.turns.map fun u => load u.submission.agent u.state).sum =
      (s.turns.map fun u => load u.submission.agent u.state).sum := by
  rcases step.turns_cases with ⟨after, before, retired⟩ | ⟨batch, before, running, retired, -⟩ |
    ⟨batch, outcomes, running, after, retired, -⟩
  · rw [Stage.turns, Stage.turns, after, before, retired]
  · have none : ((batch.map (Turn.of e)).map fun u => load u.submission.agent u.state).sum = 0 := by
      refine List.sum_eq_zero fun n mem => ?_
      simp only [List.map_map, List.mem_map] at mem
      obtain ⟨sub, -, rfl⟩ := mem
      exact starts sub.agent
    rw [Stage.turns, Stage.turns, before, running, retired, Loop.turns, List.map_append, List.sum_append, none,
      Nat.zero_add, List.nil_append]
  · rw [Stage.turns, Stage.turns, after, running, retired, Loop.turns, List.nil_append, List.map_append,
      List.map_append, List.sum_append, List.sum_append, Nat.add_comm]

/-- One element that grows by one. -/
theorem sum_map_set_le {α : Type} {f : α → Nat} {a b : α} (rises : f b ≤ f a + 1) {l : List α} {i : Nat}
    (there : l[i]? = some a) : ((l.set i b).map f).sum ≤ (l.map f).sum + 1 := by
  induction l generalizing i with
  | nil => cases there
  | cons c rest ih =>
    cases i with
    | zero =>
      obtain rfl : c = a := Option.some.inj there
      simp only [List.set_cons_zero, List.map_cons, List.sum_cons]
      omega
    | succ i =>
      have := ih there
      simp only [List.set_cons_succ, List.map_cons, List.sum_cons]
      omega

/-- One step takes one thread at most, if that goes for each step of an agent. -/
theorem Step.load_le (step : Step s x t y) (reach : Reachable s)
    (starts : ∀ agent, load agent (e.behaviour agent).start = 0)
    (rises : ∀ agent {q q' : (e.behaviour agent).State} {x y : σ}, (e.behaviour agent).Attains q →
      (e.behaviour agent).Step q x q' y → load agent q' ≤ load agent q + 1) :
    t.load load ≤ s.load load + 1 := by
  have moved {k : Nat} {u : e.Turn} {q : (e.behaviour u.submission.agent).State} {x y : σ}
      (at_ : s.turns[k]? = some u) (moves : (e.behaviour u.submission.agent).Step u.state x q y) :=
    sum_map_set_le (f := fun u => load u.submission.agent u.state) (b := ⟨u.submission, q⟩)
      (rises _ (reach.attained u (List.mem_of_getElem? at_)) moves) at_
  cases step with
  | loop step =>
    have holding := step.holding_le
    have turns := step.turns_load starts
    rw [Stage.load, Stage.load, turns]
    omega
  | flow step =>
    have holding := step.holding_le
    rw [Stage.load, Stage.load, Stage.turns, step.frame.1, step.frame.2.2.2.2.2.1, ← Stage.turns]
    omega
  | errand i there step =>
    have holding := step.holding_le there reach.recorded
    rcases step.frame with rfl | ⟨o, agent, -, rfl, -⟩
    · exact (Nat.add_le_add_right holding _).trans (Nat.le_of_eq (Nat.add_right_comm _ _ _))
    · exact (Nat.add_le_add_right holding _).trans (Nat.le_of_eq (Nat.add_right_comm _ _ _))
  | perform i at_ there moves =>
    obtain ⟨here, turns⟩ := turns_perform at_ there ⟨_, _⟩
    rw [Stage.load, turns]
    exact Nat.add_le_add_left (moved here moves) _
  | linger i there moves =>
    obtain ⟨here, turns⟩ := turns_linger there ⟨_, _⟩
    rw [Stage.load, turns]
    exact Nat.add_le_add_left (moved here moves) _

end Ensemble
end Rendezvous
