import Rendezvous.Orchestration.Drive
import Rendezvous.Failure

/-!
# The workflow of an orchestration

The workflow walks the course of its topology: it hands each request to the activity that serves it,
keeps a record of its progress, and stops at the first failure.  However that ends, its last request is
the one that releases the planning loop.  A failure of that last request takes the place of the result,
but no longer changes what the status says.

Activities are given as operations of any monad, so the same workflow is played over scripted answers
and over the activities of a running process.
-/

namespace Rendezvous

/-- How far an orchestration has come. -/
structure Progress where
  iteration : Nat := 0
  steps : List StepReport := []
  skipped : List Nat := []

namespace Progress

/-- A step has been reported. -/
def report (r : StepReport) (p : Progress) : Progress := { p with steps := p.steps ++ [r] }

/-- The outcomes of steps that ran at the same time, in the order in which they came: the reports are
kept and the first failure counts. -/
def reportAll (p : Progress) (outcomes : List (Result StepReport)) : Progress × Option Failure :=
  outcomes.foldl (fun (p, failure) outcome =>
    match outcome with
    | .ok r => (p.report r, failure)
    | .error f => (p, failure.or (some f))) (p, none)

/-- The status of an orchestration at this point. -/
def status (s : OrchestrationStart) (state : WorkflowState) (error : Option String) (p : Progress) :
    OrchestrationStatus where
  plannerId := s.plannerId
  topology := some s.topology
  state := state
  currentIteration := p.iteration
  completedSteps := p.steps
  skipped := p.skipped.map Int.ofNat
  error := error

/-- What an orchestration ends with at this point. -/
def result (s : OrchestrationStart) (p : Progress) : OrchestrationResult where
  plannerId := s.plannerId
  topology := s.topology
  steps := p.steps
  iterations := p.iteration
  skipped := p.skipped.map Int.ofNat

end Progress

/-- The status before an orchestration has begun. -/
def OrchestrationStatus.initial : OrchestrationStatus := { plannerId := "", state := .pending }

/-- The activities that serve the requests of an orchestration. -/
structure Activities (m : Type → Type) where
  step : Progress → StepOrder → m (Result StepReport)
  /-- Run several steps at the same time; the outcomes are in the order in which they came. -/
  steps : Progress → List StepOrder → m (List (Result StepReport))
  checkExit : Progress → ExitOrder → m (Result Bool)
  checkCondition : Progress → ConditionOrder → m (Result Bool)
  complete : OrchestrationStatus → m (Result Unit)

namespace Drive

variable {m : Type → Type} [Monad m]

/-- Walk a course up to its end or the first failure. -/
def run (a : Activities m) : Drive → Progress → m (Progress × Option Failure)
  | finish, p => pure (p, none)
  | iteration n next, p => run a (next ()) { p with iteration := n }
  | skip i next, p => run a next { p with skipped := p.skipped ++ [i] }
  | step order next, p => do
    match ← a.step p order with
    | .ok r => run a next (p.report r)
    | .error f => pure (p, some f)
  | steps orders next, p => do
    match p.reportAll (← a.steps p orders) with
    | (p, none) => run a next p
    | (p, some f) => pure (p, some f)
  | checkExit order next, p => do
    match ← a.checkExit p order with
    | .ok holds => run a (next holds) p
    | .error f => pure (p, some f)
  | checkCondition order next, p => do
    match ← a.checkCondition p order with
    | .ok holds => run a (next holds) p
    | .error f => pure (p, some f)
termination_by structural d => d

end Drive

/-- How an orchestration ended: what its status says, and its result. -/
structure OrchestrationEnd where
  status : OrchestrationStatus
  result : Result OrchestrationResult

/-- Play the workflow of an orchestration. -/
def orchestrate {m : Type → Type} [Monad m] (a : Activities m) (s : OrchestrationStart) :
    m OrchestrationEnd := do
  let (p, failure) ← (Drive.of s).run a {}
  let (status, result) := match failure with
    | none => (p.status s .completed none, Except.ok (p.result s))
    | some f => (p.status s .failed (some f.message), .error f)
  match ← a.complete status with
  | .ok () => return { status, result }
  | .error f => return { status, result := .error f }

end Rendezvous
