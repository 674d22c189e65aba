import Rendezvous.Proofs.Release.Record

/-!
# The steps that a workflow plans

The steps that have been asked for and those of a gathering that are still to be asked for are planned.  No step is planned
twice (`Numbered`), and a parallel orchestration plans all its steps at once (`OnSpread`), so when its drive is over it has
asked for all of them.
-/

namespace Rendezvous

set_option autoImplicit false

namespace Walk

/-- The steps that have been asked for, and those that are still to be. -/
def planned (w : Walk) : List StepOrder := w.orders ++ w.place.unasked

section Planned

variable {w : Walk} {place place' : Place}

theorem planned_of_at (at_ : w.place = place) : w.planned = w.orders ++ place.unasked :=
  congrArg (fun place => w.orders ++ place.unasked) at_

/-- A workflow that goes on without asking for a step plans what it has planned, and what is new at its place. -/
theorem planned_goTo_of_new {entries : List Entry} {os : List StepOrder} (at_ : w.place = place)
    (silent : ordersOf (asksOf entries) = []) (new : place'.unasked = place.unasked ++ os) :
    (w.goTo place' entries).planned = w.planned ++ os := by
  rw [planned_of_at at_, List.append_assoc, ← new, planned, orders_goTo, silent, List.append_nil]
  rfl

theorem planned_goTo {entries : List Entry} (at_ : w.place = place) (silent : ordersOf (asksOf entries) = [])
    (same : place'.unasked = place.unasked) : (w.goTo place' entries).planned = w.planned :=
  (planned_goTo_of_new at_ silent (same.trans (List.append_nil _).symm)).trans (List.append_nil _)

/-- Of a gathering, the step that is asked for is one that has been planned. -/
theorem planned_ask {o : StepOrder} {rest : List StepOrder} {failure : Option Failure} {next : Drive}
    (at_ : w.place = .gathering (o :: rest) failure next) :
    (w.goTo (.gathering rest failure next) [.asked (.step o)]).planned = w.planned := by
  rw [planned_of_at at_, planned, orders_goTo]
  exact List.append_assoc _ _ _

theorem planned_close (at_ : w.place = place) (i : Nat) (o : StepOrder) (r : Result StepReport)
    (same : place'.unasked = place.unasked) : { w.close i o r with place := place' }.planned = w.planned := by
  rw [planned_of_at at_, ← same]
  exact congrArg (· ++ place'.unasked) (w.orders_close i o r)

end Planned

/-- What the workflow may still walk. -/
def Place.Ahead (P : Drive → Prop) : Place → Prop
  | going d | gathering _ _ d => P d
  | asking _ next => ∀ holds, P (next holds)
  | decided _ | releasing _ | ended _ => True

variable {s : OrchestrationStart} {w w' : Walk}

/-! ## No step is planned twice -/

/-- Each step has been planned once, and none of those ahead has been. -/
structure Numbered (s : OrchestrationStart) (w : Walk) : Prop where
  once : w.planned.Nodup
  ahead : w.place.Ahead (Drive.Fresh (StepOrder.Of s.plannerId s.topology) · w.planned)

/-- The workflow has gone on, and plans nothing new. -/
theorem Numbered.keep (numbered : Numbered s w) (same : w'.planned = w.planned)
    (ahead : ∀ own, w.place.Ahead (Drive.Fresh own · w.planned) → w'.place.Ahead (Drive.Fresh own · w.planned)) :
    Numbered s w' := by
  constructor
  · rw [same]
    exact numbered.once
  · rw [same]
    exact ahead _ numbered.ahead

/-- Some steps are planned that none of those before is. -/
theorem Numbered.plan {os : List StepOrder} {next : Drive} (numbered : Numbered s w)
    (fresh : (Drive.steps os next).Fresh (StepOrder.Of s.plannerId s.topology) w.planned)
    (new : w'.planned = w.planned ++ os) (at_ : w'.place = .gathering os none next) : Numbered s w' := by
  obtain ⟨-, distinct, others, fresh⟩ := fresh
  constructor
  · rw [new]
    exact List.nodup_append.mpr ⟨numbered.once, distinct, fun o old o' now same => others o' now (same ▸ old)⟩
  · rw [new, at_]
    exact fresh

theorem Step.numbered (step : Step s w w') (numbered : Numbered s w) : Numbered s w' := by
  have ahead := numbered.ahead
  cases step with
  | iteration n next at_ | skip i next at_ =>
    exact numbered.keep (planned_of_at at_).symm fun own ahead => by rwa [at_] at ahead
  | order o next at_ =>
    rw [at_] at ahead
    obtain ⟨named, new, fresh⟩ := ahead
    exact numbered.plan ⟨List.forall_mem_singleton.mpr named, List.nodup_singleton o,
      List.forall_mem_singleton.mpr new, fresh⟩ (planned_goTo_of_new at_ rfl rfl) rfl
  | orderAll os next at_ =>
    rw [at_] at ahead
    exact numbered.plan ahead (planned_goTo_of_new at_ rfl rfl) rfl
  | ask o rest failure next at_ =>
    exact numbered.keep (planned_ask at_) fun own ahead => by rwa [at_] at ahead
  | succeed i o r there goes | failLate i o f there late goes =>
    exact numbered.keep (planned_close rfl i o _ rfl) fun own ahead => ahead
  | fail i o f unasked failure next there at_ =>
    exact numbered.keep (planned_close at_ i o _ rfl) fun own ahead => by rwa [at_] at ahead
  | join next at_ all | askExit o next at_ | askCondition o next at_ =>
    exact numbered.keep (planned_goTo at_ rfl rfl) fun own ahead => by rwa [at_] at ahead
  | branch q next b at_ =>
    refine numbered.keep (planned_goTo at_ rfl rfl) fun own ahead => ?_
    rw [at_] at ahead
    exact ahead b
  | giveUp f next at_ | refuse q next f at_ | finish at_ | release v at_ | released v at_ =>
    exact numbered.keep (planned_goTo at_ rfl rfl) fun own ahead => trivial

theorem Reachable.numbered (reach : Reachable s w) : Numbered s w := by
  induction reach with
  | opening => exact ⟨List.nodup_nil, Drive.fresh_of s⟩
  | step _ step ih => exact step.numbered ih

/-- No step is asked for twice. -/
theorem Numbered.orders (numbered : Numbered s w) : w.orders.Nodup := (List.nodup_append.mp numbered.once).1

/-! ## Parallel orchestrations -/

/-- Some steps are planned all at once, and once they have been asked for and joined, nothing is left. -/
def OnSpread (os planned : List StepOrder) : Place → Prop
  | .going d => d = .steps os .finish ∧ planned = [] ∨ d = .finish ∧ planned = os
  | .gathering _ _ next => next = .finish ∧ planned = os
  | .asking .. => False
  | .decided _ | .releasing _ | .ended _ => planned = os

theorem Step.onSpread {os : List StepOrder} (step : Step s w w') (spread : OnSpread os w.planned w.place) :
    OnSpread os w'.planned w'.place := by
  cases step with
  | iteration n next at_ | skip i next at_ | order o next at_ | askExit o next at_ | askCondition o next at_ =>
    rw [at_] at spread
    rcases spread with ⟨no, -⟩ | ⟨no, -⟩ <;> cases no
  | branch q next b at_ | refuse q next f at_ =>
    rw [at_] at spread
    exact spread.elim
  | orderAll os' next at_ =>
    rw [at_] at spread
    rcases spread with ⟨same, none⟩ | ⟨no, -⟩
    · obtain ⟨rfl, rfl⟩ := Drive.steps.inj same
      exact ⟨rfl, (planned_goTo_of_new at_ rfl rfl).trans (congrArg (· ++ os') none)⟩
    · cases no
  | ask o rest failure next at_ =>
    rw [at_] at spread
    exact ⟨spread.1, (planned_ask at_).trans spread.2⟩
  | succeed i o r there goes | failLate i o f there late goes =>
    have same (r : Result StepReport) : (w.close i o r).planned = w.planned := planned_close rfl i o r rfl
    exact (congrArg (OnSpread os · w.place) (same _)).mpr spread
  | fail i o f unasked failure next there at_ =>
    rw [at_] at spread
    exact ⟨spread.1, (planned_close at_ i o _ rfl).trans spread.2⟩
  | join next at_ all =>
    rw [at_] at spread
    exact .inr ⟨spread.1, (planned_goTo at_ rfl rfl).trans spread.2⟩
  | giveUp f next at_ =>
    rw [at_] at spread
    exact (planned_goTo at_ rfl rfl).trans spread.2
  | finish at_ =>
    rw [at_] at spread
    rcases spread with ⟨no, -⟩ | ⟨-, all⟩
    · cases no
    · exact (planned_goTo at_ rfl rfl).trans all
  | release v at_ | released v at_ =>
    rw [at_] at spread
    exact (planned_goTo at_ rfl rfl).trans spread

/-- A parallel orchestration plans all its steps at once. -/
theorem Reachable.onSpread (reach : Reachable s w) (parallel : s.topology = .parallel) :
    OnSpread (Ensemble.stepOrders s.plannerId s.agentCount) w.planned w.place := by
  induction reach with
  | opening =>
    refine .inl ⟨?_, rfl⟩
    rw [Drive.of, parallel]
    rfl
  | step _ step ih => exact step.onSpread ih

/-- A parallel orchestration whose drive is over has asked for all its steps. -/
theorem Reachable.orders_of_parallel (reach : Reachable s w) (parallel : s.topology = .parallel)
    (decided : w.place.outcome?.isSome = true) : w.orders = Ensemble.stepOrders s.plannerId s.agentCount := by
  have spread := reach.onSpread parallel
  cases at_ : w.place with
  | decided v | releasing v | ended v =>
    rw [planned_of_at at_, at_] at spread
    exact (List.append_nil _).symm.trans spread
  | going d | gathering unasked failure next | asking q next =>
    rw [at_] at decided
    cases decided

end Walk
end Rendezvous
