import Mathlib.Logic.Relation
import Rendezvous.Proofs.Staffing.Load

/-!
# All agents at the same time

In a parallel orchestration all agents can be at their turns together, each of them as far as it gets on its own
while the shared state stays as it is.  A step activity for each of them waits then, so the orchestration holds a
thread for each agent, next to what the agents hold (`Rush.brings`).
-/

namespace Rendezvous

set_option autoImplicit false

/-- How far a behaviour gets while the shared state stays as it is. -/
def Behaviour.Brings {σ : Type} (B : Behaviour σ) (x : σ) : B.State → B.State → Prop :=
  Relation.ReflTransGen fun q q' => B.Step q x q' x

theorem Planner.turns?_map {α : Type} (batch : List (Submission α)) :
    turns? (batch.map .turn) = some batch := by
  induction batch with
  | nil => rfl
  | cons s rest ih => rw [List.map_cons, turns?, ih, Option.map_some]

/-- A queue of submissions is a batch. -/
theorem Planner.drain_turns {α : Type} {p : Planner α} {batch : List (Submission α)} (nonempty : batch ≠ [])
    (queue : p.queue = batch.map .turn) : ∃ q, p.drain = some (.call batch, q) := by
  unfold drain
  split
  · rename_i empty
    rw [queue, List.map_eq_nil_iff] at empty
    exact absurd empty nonempty
  · rw [queue, turns?_map]
    exact ⟨_, rfl⟩

namespace Ensemble

variable {σ : Type} {e : Ensemble Nat σ} {s t : e.Stage} {x : σ}

/-- How far an orchestration gets while the shared state stays as it is. -/
def Brings (x : σ) : e.Stage → e.Stage → Prop := Relation.ReflTransGen fun s t => Step s x t x

/-- A parallel orchestration of agents that are known by their positions, on an engine that need not fail; nothing
limits the pool. -/
structure Rush (e : Ensemble Nat σ) : Prop where
  plan : e.plan = { id := e.plan.id, topology := .parallel }
  agents : e.agents = List.range e.agents.length
  engine : e.engine (.ok ())
  workers : e.workers = none

/-- The loop waits for the queue, which holds submissions of these agents.  The steps that wait for them hold threads;
the steps for some more orders have not started. -/
structure Queued (s : e.Stage) (agents : List Nat) (orders : List StepOrder) : Prop where
  live : s.live = true
  looking : s.loop = .looking
  retired : s.retired = []
  seats : s.planner.agents = e.agents
  queue : ∃ batch : List (Submission Nat), s.planner.queue = batch.map .turn ∧ batch.map (·.agent) = agents
  errands : ∃ sent : List (Errand Nat), s.errands = sent ++ orders.map .ordered ∧ sent.length = agents.length ∧
    ∀ a ∈ sent, ∃ step, a = .waiting step ∧ s.slots[step.slot]? = some .pending

/-- One step goes on, the ones before it wait, and the ones behind it have not started. -/
def Stage.handling (s : e.Stage) (sent : List (Errand Nat)) (a : Errand Nat) (orders : List StepOrder) : e.Stage :=
  { s with errands := sent ++ a :: orders.map .ordered }

theorem step_handling {sent : List (Errand Nat)} {a b : Errand Nat} {orders : List StepOrder}
    (moves : ErrandStep (s.handling sent a orders) a t b) :
    Step (s.handling sent a orders) x (t.handling sent b orders) x := by
  have here : (sent ++ a :: orders.map Errand.ordered)[sent.length]? = some a := by simp
  have turn : (sent ++ a :: orders.map Errand.ordered).set sent.length b = sent ++ b :: orders.map .ordered := by simp
  have step := Step.errand (x := x) sent.length here moves
  rw [moves.slots_frame.1] at step
  rwa [Stage.handling, turn] at step

/-- The next step starts, and submits its agent. -/
theorem Queued.next (rush : Rush e) {agents : List Nat} {o : StepOrder} {orders : List StepOrder}
    (queued : Queued s agents (o :: orders)) (there : e.agents[o.agentIndex]? = some o.agentIndex) :
    ∃ t, Brings x s t ∧ Queued t (agents ++ [o.agentIndex]) orders := by
  obtain ⟨live, looking, retired, seats, ⟨batch, queue, among⟩, sent, errands, length, waiting⟩ := queued
  have seat : s.planner.agentAt o.agentIndex = .ok o.agentIndex := by rwa [agentAt_natCast_iff, seats]
  have start : s = s.handling sent (.ordered o) orders := by
    rw [Stage.handling, ← List.map_cons, ← errands]
  have found := step_handling (x := x) (.find (s.handling sent (.ordered o) orders) o _ live seat)
  have begun := step_handling (x := x) (.begin (s.handling sent (.found o o.agentIndex) orders) o _ rush.engine)
  have submitted := step_handling (x := x) (.submit (s.handling sent (.begun o o.agentIndex) orders) o o.agentIndex)
  rw [start]
  refine ⟨_, .tail (.tail (.single found) begun) submitted, live, looking, retired, seats, ?_, ?_⟩
  · refine ⟨batch ++ [s.submission o o.agentIndex], ?_, ?_⟩
    · show s.planner.queue ++ _ = _
      rw [queue, List.map_append]
      rfl
    · rw [List.map_append, among]
      rfl
  · refine ⟨sent ++ [.waiting { order := o, agentName := (e.profile o.agentIndex).name, slot := s.slots.length }], ?_,
      by simp [length], ?_⟩
    · rw [List.append_assoc]
      rfl
    · intro a mem
      rcases List.mem_append.mp mem with old | new
      · obtain ⟨step, rfl, pending⟩ := waiting a old
        refine ⟨step, rfl, ?_⟩
        show (s.slots ++ [_])[_]? = _
        rwa [List.getElem?_append_left (List.getElem?_eq_some_iff.mp pending).1]
      · obtain rfl := List.mem_singleton.mp new
        refine ⟨_, rfl, ?_⟩
        show (s.slots ++ [_])[s.slots.length]? = _
        simp

/-- Step by step, all agents are submitted. -/
theorem Queued.all (rush : Rush e) {orders : List StepOrder} {agents : List Nat} (queued : Queued s agents orders)
    (there : ∀ o ∈ orders, e.agents[o.agentIndex]? = some o.agentIndex) :
    ∃ t, Brings x s t ∧ Queued t (agents ++ orders.map (·.agentIndex)) [] := by
  induction orders generalizing s agents with
  | nil => exact ⟨s, .refl, by rwa [List.map_nil, List.append_nil]⟩
  | cons o orders ih =>
    obtain ⟨t, first, queued⟩ := queued.next (x := x) rush (there o List.mem_cons_self)
    obtain ⟨u, rest, all⟩ := ih queued fun o' mem => there o' (List.mem_cons_of_mem o mem)
    rw [List.append_assoc] at all
    exact ⟨u, first.trans rest, all⟩

/-- The workflow orders all steps at once. -/
theorem queued_opening (rush : Rush e) :
    ∃ t id, Brings x e.opening t ∧ Queued t [] (stepOrders id e.agents.length) := by
  have made : Made e (e.planner "") := ⟨rfl, rfl, rfl⟩
  have plan : (e.planner "").plan = { id := "", topology := .parallel } := by
    rw [made.plan, rush.plan]
    rfl
  obtain ⟨start, valid, drive⟩ := made.of_start_parallel plan
  have s : Brings x e.opening e.opening := .refl
  have s := s.tail (.loop (.name _ "" rfl))
  have s := s.tail (.loop (.schedule _ start rfl valid rush.engine))
  have s := s.tail (.loop (.count _ 0 rfl))
  have s := s.tail (.flow (.orderAll _ (stepOrders "" e.agents.length) .finish (congrArg Flow.going drive)))
  exact ⟨_, "", s, rfl, rfl, rfl, rfl, ⟨[], rfl, rfl⟩, [], rfl, rfl, nofun⟩

/-- The loop lets all of them run. -/
theorem Queued.called (rush : Rush e) {agents : List Nat} (queued : Queued s agents []) (nonempty : agents ≠ []) :
    ∃ (t : e.Stage) (batch : List (Submission Nat)), Brings x s t ∧ t.loop = .running (batch.map (Turn.of e)) ∧
      batch.map (·.agent) = agents ∧ t.retired = [] ∧ t.errands.countP t.holds = agents.length := by
  obtain ⟨live, looking, retired, seats, ⟨batch, queue, among⟩, sent, errands, length, waiting⟩ := queued
  have turns : batch ≠ [] := by
    rintro rfl
    exact nonempty among.symm
  obtain ⟨q, drained⟩ := Planner.drain_turns turns queue
  have runs : ¬ e.Refuses batch := by
    rw [Refuses, rush.workers]
    exact fun refuses => Bool.false_ne_true refuses.2
  refine ⟨_, batch, .single (.loop (.call s batch q looking drained runs)), rfl, among, retired, ?_⟩
  show s.errands.countP s.holds = _
  rw [errands, List.map_nil, List.append_nil, ← length]
  refine List.countP_eq_length.mpr fun a mem => ?_
  obtain ⟨step, rfl, pending⟩ := waiting a mem
  exact holds_waiting_iff.mpr pending

/-- A turn goes on as far as its agent gets. -/
theorem brings_turn (done rest : List e.Turn) {sub : Submission Nat} {q q' : (e.behaviour sub.agent).State}
    (brings : (e.behaviour sub.agent).Brings x q q') :
    Brings x { s with loop := .running (done ++ ⟨sub, q⟩ :: rest) }
      { s with loop := .running (done ++ ⟨sub, q'⟩ :: rest) } := by
  induction brings with
  | refl => exact .refl
  | @tail b c _ moves ih =>
    have here : (done ++ (⟨sub, b⟩ : e.Turn) :: rest)[done.length]? = some ⟨sub, b⟩ := by simp
    have step := Step.perform (s := { s with loop := .running (done ++ ⟨sub, b⟩ :: rest) }) done.length rfl here moves
    simp only [List.set_append_right _ _ (Nat.le_refl _), Nat.sub_self, List.set_cons_zero] at step
    exact .tail ih step

/-- All turns go on. -/
theorem brings_batch {goal : ∀ agent, (e.behaviour agent).State}
    (brings : ∀ agent, (e.behaviour agent).Brings x (e.behaviour agent).start (goal agent))
    (batch : List (Submission Nat)) (done : List e.Turn) :
    Brings x { s with loop := .running (done ++ batch.map (Turn.of e)) }
      { s with loop := .running (done ++ batch.map fun sub => ⟨sub, goal sub.agent⟩) } := by
  induction batch generalizing done with
  | nil => exact .refl
  | cons sub batch ih =>
    have first := brings_turn (s := s) done (batch.map (Turn.of e)) (brings sub.agent)
    have rest := ih (done ++ [⟨sub, goal sub.agent⟩])
    rw [List.append_assoc, List.append_assoc] at rest
    exact first.trans rest

/-- All agents come as far as they get, at the same time. -/
theorem Rush.brings (rush : Rush e) {goal : ∀ agent, (e.behaviour agent).State}
    (brings : ∀ agent, (e.behaviour agent).Brings x (e.behaviour agent).start (goal agent))
    (load : ∀ agent, (e.behaviour agent).State → Nat) :
    ∃ s, Brings x e.opening s ∧
      s.load load = ((List.range e.agents.length).map fun agent => load agent (goal agent) + 1).sum := by
  -- the loop never sees a batch without agents
  by_cases none : e.agents.length = 0
  · rw [none]
    exact ⟨e.opening, .refl, rfl⟩
  obtain ⟨s, id, opens, queued⟩ := queued_opening (x := x) rush
  have there (o : StepOrder) (mem : o ∈ stepOrders id e.agents.length) :
      e.agents[o.agentIndex]? = some o.agentIndex := by
    obtain ⟨i, inside, rfl⟩ := List.mem_map.mp mem
    rw [rush.agents]
    exact List.getElem?_range (List.mem_range.mp inside)
  obtain ⟨t, submits, all⟩ := queued.all (x := x) rush there
  have indices : (stepOrders id e.agents.length).map (·.agentIndex) = List.range e.agents.length := by
    rw [stepOrders, List.map_map]
    exact List.map_id _
  rw [indices, List.nil_append] at all
  have nonempty : List.range e.agents.length ≠ [] := by
    rw [Ne, List.range_eq_nil]
    exact none
  obtain ⟨u, batch, calls, running, among, retired, holding⟩ := all.called (x := x) rush nonempty
  have goes := brings_batch (s := u) brings batch []
  have same : { u with loop := .running (batch.map (Turn.of e)) } = u := by rw [← running]
  rw [List.nil_append, List.nil_append, same] at goes
  refine ⟨_, ((opens.trans submits).trans calls).trans goes, ?_⟩
  have loads : (batch.map fun sub => load sub.agent (goal sub.agent)).sum =
      ((List.range e.agents.length).map fun agent => load agent (goal agent)).sum := by
    rw [← among, List.map_map]
    rfl
  show u.errands.countP u.holds + (List.map _ (batch.map _ ++ u.retired)).sum = _
  rw [retired, List.append_nil, List.map_map, holding, List.sum_map_add, ← loads, List.length_range]
  simp [Function.comp_def, Nat.add_comm]

end Ensemble
end Rendezvous
