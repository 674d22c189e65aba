import Rendezvous.Contract.Run

/-!
# The messages of an orchestration

An orchestration workflow paces the sub-agents of a composite without ever seeing them: it names its
planner by id and a sub-agent by index.  The order for a step carries the loop iteration, zero outside
of loops, so that every pass has a run of its own.

`check_toValue` says of each message that what is written reads back; two of them count iterations from
one, and there it takes a count of at least one.
-/

namespace Rendezvous

/-- The largest number of iterations, which stands for no limit. -/
def unboundedIterations : Nat := Nat.pow 2 31 - 1

/-- The shapes of a composite. -/
inductive Topology where
  | sequence
  | parallel
  | loop
  | conditional
  deriving Repr, DecidableEq

namespace Topology

/-- The name of a shape. -/
def name : Topology → String
  | sequence => "sequence"
  | parallel => "parallel"
  | loop => "loop"
  | conditional => "conditional"

/-- All shapes by name. -/
def named : List (String × Topology) :=
  [("sequence", sequence), ("parallel", parallel), ("loop", loop), ("conditional", conditional)]

/-- Read a shape from its name. -/
def check : Value → Checked Topology := Check.choice .notInEnum named

@[simp] theorem check_name (x : Topology) : check (.text x.name) = .ok x := by cases x <;> rfl

end Topology

/-! ## The start of an orchestration -/

/-- What an orchestration is started with. -/
structure OrchestrationStart where
  plannerId : String
  topology : Topology
  agentCount : Nat
  maxIterations : Nat := unboundedIterations
  testExitAtLoopEnd : Bool := false
  deriving Repr, DecidableEq

namespace OrchestrationStart

/-- Read the start of an orchestration from data. -/
def check : Value → Checked OrchestrationStart := Check.object fun e =>
  OrchestrationStart.mk <$> Check.required Check.text "planner_id" e
    <*> Check.required Topology.check "topology" e
    <*> Check.required (Check.naturalFrom 0) "agent_count" e
    <*> Check.defaulted unboundedIterations (Check.naturalFrom 1) "max_iterations" e
    <*> Check.defaulted false Check.boolean "test_exit_at_loop_end" e

/-- All fields of the start of an orchestration. -/
def toValue (s : OrchestrationStart) : Value := .dict [
  ("planner_id", .text s.plannerId), ("topology", .text s.topology.name),
  ("agent_count", .ofNat s.agentCount), ("max_iterations", .ofNat s.maxIterations),
  ("test_exit_at_loop_end", .bool s.testExitAtLoopEnd)]

/-- A start with a limit reads back. -/
theorem check_toValue {x : OrchestrationStart} (h : 1 ≤ x.maxIterations) :
    check x.toValue = .ok x := by
  simp [check, toValue, Check.required, Check.defaulted, Entries.get?, Check.naturalFrom_ofNat h]

end OrchestrationStart

/-! ## Steps -/

/-- The order to run one sub-agent. -/
structure StepOrder where
  plannerId : String
  agentIndex : Nat
  iteration : Nat := 0
  deriving Repr, DecidableEq

namespace StepOrder

/-- Read an order from data. -/
def check : Value → Checked StepOrder := Check.object fun e =>
  StepOrder.mk <$> Check.required Check.text "planner_id" e
    <*> Check.required (Check.naturalFrom 0) "agent_index" e
    <*> Check.defaulted 0 (Check.naturalFrom 0) "iteration" e

/-- All fields of an order. -/
def toValue (o : StepOrder) : Value := .dict [
  ("planner_id", .text o.plannerId), ("agent_index", .ofNat o.agentIndex),
  ("iteration", .ofNat o.iteration)]

/-- What is written reads back. -/
@[simp] theorem check_toValue (x : StepOrder) : check x.toValue = .ok x := by
  simp [check, toValue, Check.required, Check.defaulted, Entries.get?]

end StepOrder

/-- The run id of a step: the planner's id and the index, and the iteration inside a loop. -/
def stepRunId (plannerId : String) (agentIndex iteration : Int) : String :=
  if 0 < iteration then plannerId ++ ":" ++ toString agentIndex ++ ":" ++ toString iteration
  else plannerId ++ ":" ++ toString agentIndex

/-- The run id of an ordered step. -/
def StepOrder.runId (o : StepOrder) : String := stepRunId o.plannerId o.agentIndex o.iteration

/-- The report of an executed step. -/
structure StepReport where
  agentIndex : Int
  agentName : String
  runId : String
  deriving Repr, DecidableEq

namespace StepReport

/-- Read a report from data. -/
def check : Value → Checked StepReport := Check.object fun e =>
  StepReport.mk <$> Check.required Check.integer "agent_index" e
    <*> Check.required Check.text "agent_name" e
    <*> Check.required Check.text "run_id" e

/-- All fields of a report. -/
def toValue (r : StepReport) : Value := .dict [
  ("agent_index", .int r.agentIndex), ("agent_name", .text r.agentName), ("run_id", .text r.runId)]

/-- What is written reads back. -/
@[simp] theorem check_toValue (x : StepReport) : check x.toValue = .ok x := by
  simp [check, toValue, Check.required, Entries.get?]

end StepReport

/-! ## Conditions -/

/-- The question whether a sub-agent's condition holds. -/
structure ConditionOrder where
  plannerId : String
  agentIndex : Nat
  deriving Repr, DecidableEq

namespace ConditionOrder

/-- Read a question from data. -/
def check : Value → Checked ConditionOrder := Check.object fun e =>
  ConditionOrder.mk <$> Check.required Check.text "planner_id" e
    <*> Check.required (Check.naturalFrom 0) "agent_index" e

/-- All fields of a question. -/
def toValue (o : ConditionOrder) : Value := .dict [
  ("planner_id", .text o.plannerId), ("agent_index", .ofNat o.agentIndex)]

/-- What is written reads back. -/
@[simp] theorem check_toValue (x : ConditionOrder) : check x.toValue = .ok x := by
  simp [check, toValue, Check.required, Entries.get?]

end ConditionOrder

/-- The question whether a loop is to end. -/
structure ExitOrder where
  plannerId : String
  iteration : Nat
  deriving Repr, DecidableEq

namespace ExitOrder

/-- Read a question from data. -/
def check : Value → Checked ExitOrder := Check.object fun e =>
  ExitOrder.mk <$> Check.required Check.text "planner_id" e
    <*> Check.required (Check.naturalFrom 1) "iteration" e

/-- All fields of a question. -/
def toValue (o : ExitOrder) : Value := .dict [
  ("planner_id", .text o.plannerId), ("iteration", .ofNat o.iteration)]

/-- A question about an iteration, which are counted from one, reads back. -/
theorem check_toValue {x : ExitOrder} (h : 1 ≤ x.iteration) : check x.toValue = .ok x := by
  simp [check, toValue, Check.required, Entries.get?, Check.naturalFrom_ofNat h]

end ExitOrder

/-! ## Results -/

/-- What an orchestration ends with. -/
structure OrchestrationResult where
  plannerId : String
  topology : Topology
  steps : List StepReport := []
  iterations : Int := 0
  skipped : List Int := []
  deriving Repr, DecidableEq

namespace OrchestrationResult

/-- Read a result from data. -/
def check : Value → Checked OrchestrationResult := Check.object fun e =>
  OrchestrationResult.mk <$> Check.required Check.text "planner_id" e
    <*> Check.required Topology.check "topology" e
    <*> Check.defaulted [] (Check.list StepReport.check) "steps" e
    <*> Check.defaulted 0 Check.integer "iterations" e
    <*> Check.defaulted [] (Check.list Check.integer) "skipped_agents" e

/-- All fields of a result. -/
def toValue (r : OrchestrationResult) : Value := .dict [
  ("planner_id", .text r.plannerId), ("topology", .text r.topology.name),
  ("steps", .list (r.steps.map StepReport.toValue)), ("iterations", .int r.iterations),
  ("skipped_agents", .list (r.skipped.map Value.int))]

/-- What is written reads back. -/
@[simp] theorem check_toValue (x : OrchestrationResult) : check x.toValue = .ok x := by
  simp [check, toValue, Check.required, Check.defaulted, Entries.get?,
    Check.list_map StepReport.check_toValue, Check.list_map Check.integer_int]

end OrchestrationResult

/-- The answer to the question how an orchestration is doing. -/
structure OrchestrationStatus where
  plannerId : String
  topology : Option Topology := none
  state : WorkflowState
  currentIteration : Int := 0
  completedSteps : List StepReport := []
  skipped : List Int := []
  error : Option String := none
  deriving Repr, DecidableEq

namespace OrchestrationStatus

/-- Read a status from data. -/
def check : Value → Checked OrchestrationStatus := Check.object fun e =>
  OrchestrationStatus.mk <$> Check.required Check.text "planner_id" e
    <*> Check.defaulted none (Check.optional Topology.check) "topology" e
    <*> Check.required WorkflowState.check "status" e
    <*> Check.defaulted 0 Check.integer "current_iteration" e
    <*> Check.defaulted [] (Check.list StepReport.check) "completed_steps" e
    <*> Check.defaulted [] (Check.list Check.integer) "skipped_agents" e
    <*> Check.defaulted none (Check.optional Check.text) "error" e

/-- All fields of a status. -/
def toValue (s : OrchestrationStatus) : Value := .dict [
  ("planner_id", .text s.plannerId), ("topology", .ofText? (s.topology.map Topology.name)),
  ("status", .text s.state.name), ("current_iteration", .int s.currentIteration),
  ("completed_steps", .list (s.completedSteps.map StepReport.toValue)),
  ("skipped_agents", .list (s.skipped.map Value.int)), ("error", .ofText? s.error)]

/-- What is written reads back. -/
@[simp] theorem check_toValue (x : OrchestrationStatus) : check x.toValue = .ok x := by
  have topology : Check.optional Topology.check (.ofText? (x.topology.map Topology.name))
      = .ok x.topology := by
    cases x.topology with
    | none => rfl
    | some t => cases t <;> rfl
  simp [check, toValue, Check.required, Check.defaulted, Entries.get?, topology,
    Check.list_map StepReport.check_toValue, Check.list_map Check.integer_int]

end OrchestrationStatus
end Rendezvous
