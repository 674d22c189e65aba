import Rendezvous.Contract.Orchestration

/-!
# Names on the workflow engine

Workflows, activities, signals and queries are addressed by name, so neither side has to know the
code of the other.
-/

namespace Rendezvous.Names

/-- The workflow that records one run. -/
def runWorkflow : String := "agent-run"

/-- The workflow that paces a composite of the given shape. -/
def orchestrationWorkflow : Topology → String
  | .sequence => "sequential-orchestration"
  | .parallel => "parallel-orchestration"
  | .loop => "loop-orchestration"
  | .conditional => "conditional-orchestration"

/-- All workflows, in the order in which a worker registers them. -/
def workflows : List String :=
  runWorkflow :: [Topology.sequence, .parallel, .loop, .conditional].map orchestrationWorkflow

/-- The activity that executes a pending call. -/
def executeCall : String := "execute_call"

/-- The activity that runs one sub-agent. -/
def executeStep : String := "execute_agent_step"

/-- The activity that asks whether a loop is to end. -/
def checkExit : String := "check_exit_condition"

/-- The activity that asks whether a sub-agent is to run. -/
def checkCondition : String := "check_condition"

/-- The activity that releases the planning loop. -/
def complete : String := "complete_orchestration"

/-- All activities, in the order in which a worker registers them. -/
def activities : List String := [executeCall, executeStep, checkExit, checkCondition, complete]

/-- The signal that carries the events of a run. -/
def eventSignal : String := "agent-event"

/-- The query for the transcript of a run. -/
def transcriptQuery : String := "run_output"

/-- The query for the status of a run. -/
def runStatusQuery : String := "run_status"

/-- The query for the status of an orchestration. -/
def orchestrationStatusQuery : String := "orchestration_status"

/-- All queries. -/
def queries : List String := [transcriptQuery, runStatusQuery, orchestrationStatusQuery]

/-- The operation under which model calls are recorded. -/
def chatOperation : String := "chat"

/-! ## No name stands for two things, and a worker knows every workflow -/

theorem nodup_workflows : workflows.Nodup := by decide

theorem orchestrationWorkflow_mem_workflows (t : Topology) : orchestrationWorkflow t ∈ workflows := by
  cases t <;> decide

theorem nodup_activities : activities.Nodup := by decide

theorem nodup_queries : queries.Nodup := by decide

end Rendezvous.Names
