import Rendezvous.Orchestration.Workflow

/-!
# Orchestrations over a script

A script says what each activity answers the first time, the second time and so on, and how long a step
takes.  Playing an orchestration over a script shows what it asks for and how far it has come whenever
it asks.

Of steps that run at the same time, one that takes no time ends before the next one starts, and the
others end in the order of their times.  Once one of them has failed, those that take longer never end.
-/

namespace Rendezvous

/-- What the step activity does at one call. -/
structure ScriptedStep where
  delay : Nat := 0
  failure : Option Failure := none

/-- What the activities do, call by call; beyond the script a step succeeds, a loop goes on, a condition
holds and the planning loop is released. -/
structure OrchestrationScript where
  steps : List ScriptedStep := []
  exits : List (Result Bool) := []
  conditions : List (Result Bool) := []
  completions : List (Result Unit) := []

/-- A request, and what the status said when it was made. -/
structure ScriptEntry where
  request : OrchestrationRequest
  state : WorkflowState
  iteration : Int
  completed : Nat

/-- What is left of a script, and the requests so far. -/
structure ScriptState where
  script : OrchestrationScript
  entries : List ScriptEntry := []

namespace Script

/-- An operation on what is left of a script. -/
abbrev Play := StateM ScriptState

/-- Note a request. -/
def note (entry : ScriptEntry) : Play Unit :=
  modify fun s => { s with entries := s.entries ++ [entry] }

/-- The answers to a call, and what they leave. -/
def next {α : Type} (default : α) : List α → α × List α
  | [] => (default, [])
  | a :: rest => (a, rest)

/-- The report of a step that succeeds. -/
def report (o : StepOrder) : StepReport where
  agentIndex := o.agentIndex
  agentName := "agent " ++ toString o.agentIndex
  runId := o.runId

/-- The outcome of a step. -/
def outcome (o : StepOrder) (s : ScriptedStep) : Result StepReport :=
  match s.failure with
  | none => .ok (report o)
  | some f => .error f

/-- Start a step. -/
def start (p : Progress) (completed : Nat) (o : StepOrder) : Play ScriptedStep := do
  note { request := .step o, state := .running, iteration := p.iteration, completed }
  modifyGet fun s =>
    let (step, rest) := next {} s.script.steps
    (step, { s with script := { s.script with steps := rest } })

/-- Start steps one after the other. -/
def startAll (p : Progress) (completed : Nat) :
    List StepOrder → Play (List (Nat × Result StepReport))
  | [] => pure []
  | o :: rest => do
    let s ← start p completed o
    let atOnce := s.delay == 0 && s.failure.isNone
    return (s.delay, outcome o s) :: (← startAll p (if atOnce then completed + 1 else completed) rest)

/-- The delay of the first failure. -/
def firstFailure? (ends : List (Nat × Result StepReport)) : Option Nat :=
  (ends.find? fun e => e.2 matches .error _).map Prod.fst

/-- The steps that end, in the order in which they do. -/
def ends (started : List (Nat × Result StepReport)) : List (Nat × Result StepReport) :=
  let byDelay := started.mergeSort fun a b => a.1 ≤ b.1
  match firstFailure? byDelay with
  | none => byDelay
  | some t => byDelay.filter (·.1 ≤ t)

/-- The activities of a script. -/
def activities : Activities Play where
  step p o := return outcome o (← start p p.steps.length o)
  steps p os := return (ends (← startAll p p.steps.length os)).map Prod.snd
  checkExit p o := do
    note { request := .checkExit o, state := .running, iteration := p.iteration
           completed := p.steps.length }
    modifyGet fun s =>
      let (answer, rest) := next (.ok false) s.script.exits
      (answer, { s with script := { s.script with exits := rest } })
  checkCondition p o := do
    note { request := .checkCondition o, state := .running, iteration := p.iteration
           completed := p.steps.length }
    modifyGet fun s =>
      let (answer, rest) := next (.ok true) s.script.conditions
      (answer, { s with script := { s.script with conditions := rest } })
  complete status := do
    note { request := .complete status.plannerId, state := status.state
           iteration := status.currentIteration, completed := status.completedSteps.length }
    modifyGet fun s =>
      let (answer, rest) := next (.ok ()) s.script.completions
      (answer, { s with script := { s.script with completions := rest } })

/-- Play an orchestration over a script. -/
def play (script : OrchestrationScript) (s : OrchestrationStart) :
    OrchestrationEnd × List ScriptEntry :=
  let (ended, state) := (orchestrate activities s).run { script }
  (ended, state.entries)

end Script
end Rendezvous
