import Rendezvous.Contract.Run
import Rendezvous.Failure

/-!
# The workflow of a run

The durable record of one agent's calls.  Events arrive at any time and wait in a queue; the workflow
takes them one by one, orders each call from the call activity, waits for its report and adds it to the
transcript.  The event that ends the run is the last one it takes.  A failing call ends the run with
that failure, and so does an event that does not name its call and its operation; then the run is still
shown as running, with the call that it was at.

Every input (`start`, `signal`, `report`) is followed by at most one step of the workflow's own
(`advance`), as it always comes to wait: for its start, for an event, for a report, or for nothing.
-/

namespace Rendezvous

/-- What the workflow of a run is waiting for. -/
inductive RunPhase where
  | start
  | event
  /-- The report on a call of the given kind. -/
  | report (kind : EventKind)
  /-- Nothing: the run has ended. -/
  | nothing (result : Result Transcript)

/-- The workflow of one run. -/
structure RunWorkflow where
  /-- Events that have not been taken yet. -/
  events : List RunEvent := []
  /-- The calls that have been ordered. -/
  orders : List CallOrder := []
  transcript : Transcript := {}
  state : WorkflowState := .pending
  currentCall : Option String := none
  phase : RunPhase := .start

namespace RunWorkflow

/-- End the run. -/
def finish (result : Result Transcript) (w : RunWorkflow) : RunWorkflow :=
  { w with phase := .nothing result }

/-- Take an event. -/
def take (e : RunEvent) (w : RunWorkflow) : RunWorkflow :=
  if e.isTerminal then { w with state := .completed }.finish (.ok w.transcript)
  else
    let w := { w with currentCall := e.callId }
    match (CallOrder.ofEvent w.transcript.runId e).toResult with
    | .error f => w.finish (.error f)
    | .ok order => { w with orders := w.orders ++ [order], phase := .report e.kind }

/-- Take the first of the events, if the workflow is waiting for one and there is one. -/
def advance (w : RunWorkflow) : RunWorkflow :=
  match w.phase, w.events with
  | .event, e :: rest => { w with events := rest }.take e
  | _, _ => w

/-- Start the run. -/
def start (s : RunStart) (w : RunWorkflow) : RunWorkflow :=
  { w with transcript := { runId := s.runId, agentName := s.agentName }, state := .running
           phase := .event }.advance

/-- An event arrives. -/
def signal (e : RunEvent) (w : RunWorkflow) : RunWorkflow :=
  { w with events := w.events ++ [e] }.advance

/-- The report on the call that was ordered last arrives. -/
def report (r : Result CallReport) (w : RunWorkflow) : RunWorkflow :=
  match w.phase, r with
  | .report _, .error f => w.finish (.error f)
  | .report kind, .ok r =>
    { w with transcript := { w.transcript with calls := w.transcript.calls ++ [CallRecord.ofReport kind r] }
             currentCall := none, phase := .event }.advance
  | _, _ => w

/-! ## Answers of the call activity -/

/-- The position of the order whose report the workflow is waiting for. -/
def awaited? (w : RunWorkflow) : Option Nat :=
  match w.phase with
  | .report _ => some (w.orders.length - 1)
  | _ => none

/-- Report on the last order, if the activity has an answer to it. -/
def answered (answer : Nat → CallOrder → Option (Result CallReport)) (w : RunWorkflow) : RunWorkflow :=
  match w.phase, w.orders.getLast? with
  | .report _, some order =>
    match answer (w.orders.length - 1) order with
    | some r => w.report r
    | none => w
  | _, _ => w

/-- Report on one order after the other for as long as the activity has answers.  Each answer but the
first is to an event that was waiting, so there are no more of them than that. -/
def serve (answer : Nat → CallOrder → Option (Result CallReport)) (w : RunWorkflow) : RunWorkflow :=
  (w.events.length + 1).repeat (answered answer) w

/-! ## Queries -/

/-- The answer to the question how the run is doing. -/
def status (w : RunWorkflow) : RunStatus where
  runId := w.transcript.runId
  agentName := w.transcript.agentName
  state := w.state
  completedCalls := w.transcript.calls.length
  queuedEvents := w.events.length
  currentCallId := w.currentCall

/-- How the run ended, if it has. -/
def result? (w : RunWorkflow) : Option (Result Transcript) :=
  match w.phase with
  | .nothing result => some result
  | _ => none

/-! ## What an input leaves alone -/

/-- Events are never taken back: taking one leaves the rest of the queue alone. -/
theorem events_take (e : RunEvent) (w : RunWorkflow) : (w.take e).events = w.events := by
  unfold take
  split
  · rfl
  · simp only
    split <;> rfl

/-- A run that has ended takes no event any more. -/
theorem signal_finished {w : RunWorkflow} {result : Result Transcript}
    (h : w.phase = .nothing result) (e : RunEvent) :
    w.signal e = { w with events := w.events ++ [e] } := by
  simp [signal, advance, h]

/-- A report that nobody waits for is not heard. -/
theorem report_of_not_awaited {w : RunWorkflow} (h : w.awaited? = none) (r : Result CallReport) :
    w.report r = w := by
  unfold awaited? at h
  unfold report
  split <;> simp_all

end RunWorkflow
end Rendezvous
