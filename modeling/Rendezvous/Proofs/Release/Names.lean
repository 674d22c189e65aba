import Rendezvous.Proofs.Release.Planned

/-!
# No workflow has the name of another one

An orchestration is a workflow named for its planner, and each step that it asks for becomes a workflow of its own, which
is also the name of a run.  Whatever is replied and in whatever order, an orchestration asks for no step twice, and every
step is one of its own planner (`Reachable.own`); so it gives no name twice (`Reachable.names_nodup`).  Of planners whose ids
are different and have no colon in them, no two orchestrations give the same name, wherever each of them stands
(`Walk.names_apart`).
-/

namespace Rendezvous

set_option autoImplicit false

namespace Walk

variable {s : OrchestrationStart} {w w' : Walk}

/-! ## The names that an orchestration gives -/

/-- The steps that are planned are those of the planner. -/
theorem Step.own (step : Step s w w') (numbered : Numbered s w) (own : ∀ o ∈ w.planned, o.plannerId = s.plannerId) :
    ∀ o ∈ w'.planned, o.plannerId = s.plannerId := by
  have ahead := numbered.ahead
  -- only an order and a gathering plan something new
  have plans {os : List StepOrder} (new : w'.planned = w.planned ++ os)
      (named : ∀ o ∈ os, o.Of s.plannerId s.topology) : ∀ o ∈ w'.planned, o.plannerId = s.plannerId := by
    intro o mem
    rw [new] at mem
    exact (List.mem_append.mp mem).elim (own o) fun now => (named o now).1
  have keeps (same : w'.planned = w.planned) : ∀ o ∈ w'.planned, o.plannerId = s.plannerId := by rwa [same]
  cases step with
  | order o next at_ =>
    rw [at_] at ahead
    exact plans (planned_goTo_of_new at_ rfl rfl) (List.forall_mem_singleton.mpr ahead.1)
  | orderAll os next at_ =>
    rw [at_] at ahead
    exact plans (planned_goTo_of_new at_ rfl rfl) ahead.1
  | iteration n next at_ | skip i next at_ => exact keeps (planned_of_at at_).symm
  | ask o rest failure next at_ => exact keeps (planned_ask at_)
  | succeed i o r there goes | failLate i o f there late goes => exact keeps (planned_close rfl i o _ rfl)
  | fail i o f unasked failure next there at_ => exact keeps (planned_close at_ i o _ rfl)
  | join next at_ all | askExit o next at_ | askCondition o next at_ | branch q next b at_ | giveUp f next at_
  | refuse q next f at_ | finish at_ | release v at_ | released v at_ => exact keeps (planned_goTo at_ rfl rfl)

/-- Every step that an orchestration asks for is one of its own planner. -/
theorem Reachable.own (reach : Reachable s w) : ∀ o ∈ w.orders, o.plannerId = s.plannerId := by
  have planned : ∀ o ∈ w.planned, o.plannerId = s.plannerId := by
    induction reach with
    | opening => nofun
    | step reach step ih => exact step.own reach.numbered ih
  exact fun o mem => planned o (List.mem_append_left _ mem)

/-- The runs of the steps that have been asked for. -/
def runs (w : Walk) : List String := w.orders.map StepOrder.runId

/-- The names of all workflows of an orchestration: its own, and those of its steps. -/
def names (s : OrchestrationStart) (w : Walk) : List String := s.plannerId :: w.runs

/-- No two steps of an orchestration have the same run. -/
theorem Reachable.runs_nodup (reach : Reachable s w) : w.runs.Nodup := by
  refine List.pairwise_map.mpr (reach.numbered.orders.imp_of_mem ?_)
  intro o o' mem mem' other same
  exact other (StepOrder.runId_injective ((reach.own o mem).trans (reach.own o' mem').symm) same)

/-- An orchestration gives no name twice. -/
theorem Reachable.names_nodup (reach : Reachable s w) : (names s w).Nodup := by
  refine List.nodup_cons.mpr ⟨fun mem => ?_, reach.runs_nodup⟩
  obtain ⟨o, asked, same⟩ := List.mem_map.mp mem
  exact o.runId_ne_plannerId (same.trans (reach.own o asked).symm)

/-! ## The names of several orchestrations -/

/-- A name of an orchestration is that of its planner, or has it before the first colon. -/
theorem Reachable.mem_names (reach : Reachable s w) {name : String} (mem : name ∈ names s w) :
    name = s.plannerId ∨ ∃ i n : Int, name = stepRunId s.plannerId i n := by
  rcases List.mem_cons.mp mem with own | step
  · exact .inl own
  · obtain ⟨o, asked, rfl⟩ := List.mem_map.mp step
    exact .inr ⟨o.agentIndex, o.iteration, by rw [StepOrder.runId, reach.own o asked]⟩

/-- Orchestrations of different planners without colons give different names. -/
theorem Reachable.names_disjoint {s' : OrchestrationStart} (reach : Reachable s w) (reach' : Reachable s' w')
    (plain : ':' ∉ s.plannerId.toList) (plain' : ':' ∉ s'.plannerId.toList) (other : s.plannerId ≠ s'.plannerId) :
    List.Disjoint (names s w) (names s' w') := by
  -- the id of a planner has no colon, and the run of a step has one
  have colon (id : String) (i n : Int) : ':' ∈ (stepRunId id i n).toList := by
    obtain ⟨rest, named⟩ := toList_stepRunId id i n
    rw [named]
    exact List.mem_append_right _ List.mem_cons_self
  intro name mem mem'
  rcases reach.mem_names mem with rfl | ⟨i, n, named⟩
  · rcases reach'.mem_names mem' with same | ⟨j, m, named'⟩
    · exact other same
    · rw [named'] at plain
      exact plain (colon _ j m)
  · rcases reach'.mem_names mem' with rfl | ⟨j, m, named'⟩
    · rw [named] at plain'
      exact plain' (colon _ i n)
    · exact other (planner_of_stepRunId plain plain' (named.symm.trans named'))

/-- Whatever orchestrations there are, whatever they are replied and wherever they stand: none has asked for two steps with
the same run, and where their planners have different ids without colons, no name is given twice to any of their
workflows. -/
theorem names_apart :
    (∀ s w, Reachable s w → w.runs.Nodup) ∧
      ∀ fleet : List (OrchestrationStart × Walk), (∀ x ∈ fleet, Reachable x.1 x.2) →
        (∀ x ∈ fleet, ':' ∉ x.1.plannerId.toList) → (fleet.map (·.1.plannerId)).Nodup →
        (fleet.flatMap fun x => names x.1 x.2).Nodup := by
  refine ⟨fun s w reach => reach.runs_nodup, fun fleet reach plain distinct => ?_⟩
  refine List.nodup_flatMap.mpr ⟨fun x mem => (reach x mem).names_nodup, ?_⟩
  refine (List.pairwise_map.mp distinct).imp_of_mem fun {x y} mem mem' other => ?_
  exact (reach x mem).names_disjoint (reach y mem') (plain x mem) (plain y mem') other

/-- A loop of one agent, a pair of agents side by side, and a sequence that has not asked for anything. -/
def trio (loop pair : Walk) : List (OrchestrationStart × Walk) :=
  let sequence : OrchestrationStart := ⟨"r", .sequence, 1, unboundedIterations, false⟩
  [(⟨"p", .loop, 1, 2, false⟩, loop), (⟨"q", .parallel, 2, unboundedIterations, false⟩, pair),
    (sequence, opening sequence)]

/-- The loop is in its second pass, and both steps of the pair are under way. -/
theorem names_apart_trio : ∃ loop pair : Walk,
    (∀ x ∈ trio loop pair, Reachable x.1 x.2) ∧ loop.runs.Nodup ∧
      ((trio loop pair).flatMap fun x => names x.1 x.2).Nodup ∧
      (trio loop pair).flatMap (fun x => names x.1 x.2) = ["p", "p:0:1", "p:0:2", "q", "q:0", "q:1", "r"] := by
  have first := ((((Reachable.opening (s := ⟨"p", .loop, 1, 2, false⟩)).step (.iteration _ _ _ rfl)).step
    (.order _ _ _ rfl)).step (.ask _ _ _ _ _ rfl)).step (.succeed _ 0 _ ⟨0, "agent", "p:0:1"⟩ rfl rfl)
  have asks := ((first.step (.join _ _ rfl rfl)).step (.askExit _ _ _ rfl)).step (.branch _ _ _ false rfl)
  have loop := ((asks.step (.iteration _ _ _ rfl)).step (.order _ _ _ rfl)).step (.ask _ _ _ _ _ rfl)
  have pair := (((Reachable.opening (s := ⟨"q", .parallel, 2, unboundedIterations, false⟩)).step
    (.orderAll _ _ _ rfl)).step (.ask _ _ _ _ _ rfl)).step (.ask _ _ _ _ _ rfl)
  have reach {a b : Walk} (loop : Reachable _ a) (pair : Reachable _ b) : ∀ x ∈ trio a b, Reachable x.1 x.2 :=
    List.forall_mem_cons.mpr ⟨loop, List.forall_mem_cons.mpr ⟨pair, List.forall_mem_singleton.mpr .opening⟩⟩
  have ids (a b : Walk) : (trio a b).map (·.1.plannerId) = ["p", "q", "r"] := rfl
  have plain (a b : Walk) : ∀ x ∈ trio a b, ':' ∉ x.1.plannerId.toList := by
    have all : ∀ id ∈ (trio a b).map (·.1.plannerId), ':' ∉ id.toList := by
      rw [ids]
      decide
    exact fun x mem => all _ (List.mem_map_of_mem mem)
  have distinct (a b : Walk) : ((trio a b).map (·.1.plannerId)).Nodup := by
    rw [ids]
    decide
  exact ⟨_, _, reach loop pair, names_apart.1 _ _ loop,
    names_apart.2 _ (reach loop pair) (plain _ _) (distinct _ _), rfl⟩

end Walk
end Rendezvous
