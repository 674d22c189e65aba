import Rendezvous.Hub.Turns

/-!
# An orchestration and its planning loop

The orchestration says who is next, the loop lets them run, and neither goes on without the other.  A step
of the orchestration submits its agent; the loop finds it in the queue, lets the agent run, and
acknowledges its turn; then the step ends.  Steps that are requested at the same time are submitted in
their order before the loop looks into the queue, so they are one batch.

An agent on its own runs on the thread of the loop, whose calls belong to the agent's run from then on.
The agents of a larger batch have threads of their own, and all of them run before the first failure among
them counts.  After a failure the loop gives up, and that failure is what the loop ends with; in all other
cases it ends when it is told that the orchestration has ended, however that went.
-/

namespace Rendezvous.Act

variable {κ α β ω : Type}

/-- The record of the orchestration of a planner: its number. -/
def newOrchestration (plannerId : String) : Act κ α β ω Nat := do
  let n := (← hub).engine.orchestrations.length
  onEngine fun e => .ok { e with orchestrations := e.orchestrations ++ [{ plannerId }] }
  return n

/-- Note something about an orchestration. -/
def noteOrchestration (record : Nat) (f : OrchestrationRecord → OrchestrationRecord) :
    Act κ α β ω Unit :=
  onEngine fun e => .ok (e.noteOrchestration record f)

/-- Note a request of an orchestration. -/
def noteRequest (record : Nat) (r : OrchestrationRequest) : Act κ α β ω Unit :=
  noteOrchestration record fun o => { o with requests := o.requests ++ [r] }

/-! ## Batches -/

/-- How the agents of a planner run. -/
structure Runner (κ α β ω : Type) where
  /-- The number of the planner. -/
  planner : Nat
  /-- How many agents may run at the same time; zero stands for no limit. -/
  workers : Option Int
  profile : β → Profile
  run : β → Act κ α β ω Unit

/-- Let the agents of a batch run. -/
def runBatch (r : Runner κ α β ω) : List (Submission β) → Act κ α β ω (List (Result Unit))
  | [s] => return [← attempt (r.run s.agent)]
  | batch => do
    if r.workers.any (· < 0) then throw (.of (.badValue "max_workers must be greater than 0"))
    batch.mapM fun s => attempt (onThread { run := s.run } (r.run s.agent))

/-- The failure of a result. -/
def failure? {γ : Type} : Result γ → Option Failure
  | .ok _ => none
  | .error f => some f

/-- Let a batch run and acknowledge it, or give up: the first failure. -/
def serveBatch (r : Runner κ α β ω) (batch : List (Submission β)) : Act κ α β ω (Option Failure) := do
  match (← runBatch r batch).findSome? failure? with
  | some f =>
    abort r.planner f
    return some f
  | none =>
    batch.forM fun _ => do
      let _ ← nextAction r.planner
    return none

/-! ## The activities of an orchestration -/

/-- An action beside a loop, which has failed or not. -/
abbrev Paced (κ α β ω : Type) := StateT (Option Failure) (Act κ α β ω)

/-- An action that has nothing to do with the loop. -/
def beside {γ : Type} (x : Act κ α β ω γ) : Paced κ α β ω γ := StateT.lift x

/-- Let the loop run the batch that it finds. -/
def serveLoop (r : Runner κ α β ω) : Paced κ α β ω Unit := do
  match ← beside (look r.planner) with
  | some (.call batch) => set (← beside (serveBatch r batch))
  | _ => pure ()

/-- Begin a step on a thread of its own; then it waits for the turn of its agent. -/
def openStep (r : Runner κ α β ω) (record : Nat) (o : StepOrder) : Act κ α β ω (Result OpenStep) := do
  noteRequest record (.step o)
  let opened ← attempt (onThread {} (beginStep r.profile o))
  if opened.isOk then
    noteOrchestration record fun e => { e with waiting := e.waiting ++ [o.agentIndex] }
  return opened

/-- End a step on its thread. -/
def closeStep (record : Nat) (s : OpenStep) : Act κ α β ω (Result StepReport) := do
  noteOrchestration record fun e => { e with waiting := e.waiting.erase s.order.agentIndex }
  attempt (onThread {} (endStep s))

/-- The steps that have begun, if all of them have, or else the failures of those that could not;
then the others are left waiting, as the orchestration has failed. -/
def allOpened : List (Result OpenStep) → Except (List Failure) (List OpenStep)
  | [] => .ok []
  | .ok s :: rest => (allOpened rest).map (s :: ·)
  | .error f :: rest =>
    match allOpened rest with
    | .ok _ => .error [f]
    | .error fs => .error (f :: fs)

/-- The activities that serve the orchestration of a planner. -/
def pacedActivities (r : Runner κ α β ω) (record : Nat) : Activities (Paced κ α β ω) where
  step _ o := do
    match ← beside (openStep r record o) with
    | .error f => return .error f
    | .ok s =>
      serveLoop r
      beside (closeStep record s)
  steps _ os := do
    let opened ← beside (os.mapM (openStep r record))
    match allOpened opened with
    | .ok steps =>
      serveLoop r
      beside (steps.mapM (closeStep record))
    | .error failures => return failures.map .error
  checkExit _ o := beside do
    noteRequest record (.checkExit o)
    attempt (onThread {} (askExit o))
  checkCondition _ o := beside do
    noteRequest record (.checkCondition o)
    attempt (onThread {} (askCondition o))
  complete status := beside do
    noteRequest record (.complete status.plannerId)
    completePlanner status.plannerId
    return .ok ()

/-- Run the agents of a planner as its orchestration says.  The failure is that of the loop. -/
def pace (r : Runner κ α β ω) : Act κ α β ω Unit := do
  let p ← planner r.planner
  let _ ← firstAction r.planner
  let record ← newOrchestration p.plan.id
  let (ending, failure) ← (orchestrate (pacedActivities r record) (← ofResult p.start)).run none
  noteOrchestration record ({ · with ending := some ending })
  let _ ← look r.planner
  match failure with
  | some f => throw f
  | none => pure ()

end Rendezvous.Act
