import Rendezvous.Program.Perform
import Rendezvous.Program.Reader

/-!
# The account of a program

What a program leaves: the trace of its statements, what the engine has taken, what the orchestrations did,
the records of agents, the requests of models and the shared state, all as data.
-/

namespace Rendezvous.Program

/-! ## The trace -/

mutual

/-- A step of the trace as data. -/
def stepValue : TraceStep → Value
  | .mk word result notes body =>
    .dict (("do", .text word) :: ((result.map Result.report).getD [] ++ notes ++ bodyField body))
termination_by structural s => s

/-- The block of a step as a field. -/
def bodyField : Option (List TraceStep) → Entries Value
  | none => []
  | some steps => [("body", .list (stepValues steps))]
termination_by structural body => body

/-- The steps of a block as data. -/
def stepValues : List TraceStep → List Value
  | [] => []
  | s :: rest => stepValue s :: stepValues rest
termination_by structural steps => steps

end

/-! ## The engine -/

/-- A start of a workflow as data; events are none. -/
def startedValue? : EngineEntry → Option Value
  | .started workflow payload id => some (.dict [
      ("workflow", .text workflow), ("instance_id", .text id), ("payload", payload)])
  | .raised .. => none

/-- How the call went that an event ordered. -/
def answerFields : Option (Result CallReport) → Entries Value
  | none => []
  | some (.ok r) => [("output", r.toValue)]
  | some (.error f) => [("failure", f.toValue)]

/-- An event as data, with the id of its run; starts are none. -/
def raisedValue? : EngineEntry → Option (String × Value)
  | .raised id e answer => some (id, .dict <| [
      ("type", .text e.kind.name), ("operation_name", .ofText? e.operation),
      ("payload", .ofText? e.payload), ("has_call_id", .bool e.callId.isSome)] ++ answerFields answer)
  | .started .. => none

/-- Values by their names, in order. -/
def grouped (pairs : List (String × Value)) : Entries (List Value) :=
  pairs.foldl (fun es (name, v) => Entries.put name ((Entries.get? name es).getD [] ++ [v]) es) []

/-- Reports in the order of their agents. -/
def sortedReports (steps : List StepReport) : List StepReport :=
  steps.mergeSort fun a b => a.agentIndex ≤ b.agentIndex

/-- Steps that ran at the same time are shown in the order of their agents. -/
def shownReports (topology : Option Topology) (steps : List StepReport) : List StepReport :=
  if topology = some .parallel then sortedReports steps else steps

/-- How an orchestration ended as data. -/
def endingFields (e : OrchestrationEnd) : Entries Value :=
  let status := { e.status with
    completedSteps := shownReports e.status.topology e.status.completedSteps }
  let result : Entries Value := match e.result with
    | .error f => f.report
    | .ok r => [("result", { r with steps := shownReports r.topology r.steps }.toValue)]
  result ++ [("status", status.toValue)]

/-- What an orchestration did as data. -/
def orchestrationValue (o : OrchestrationRecord) : Value :=
  .dict <| [("planner_id", .text o.plannerId),
      ("activities", .list (o.requests.map fun r => .list [.text r.activity, r.input]))]
    ++ ((o.ending.map endingFields).getD [])
    ++ (if o.waiting.isEmpty then [] else [("abandoned_steps", .list (o.waiting.map Value.ofNat))])

/-! ## Agents and models -/

/-- A request of a model as data. -/
def requestValue (r : ChatRequest) : Value := .dict [
  ("messages", .list (r.messages.map Message.toValue)), ("tools", .ofTexts (r.tools.map (·.name)))]

/-- The requests that a model was given, as data. -/
def requestsValue (h : Host) (model : Nat) : Value :=
  .list ((h.models.getD model {}).requests.map requestValue)

/-- The record of an agent as data. -/
def recordValue (h : Host) (r : AgentRecord) : Value := .dict [
  ("agent", .text r.name), ("run_id", .ofText? r.run), ("trace", .list (stepValues r.trace)),
  ("requests", (r.model.map (requestsValue h)).getD (.list []))]

/-- The records of agents, by their runs. -/
def sortedRecords (records : List AgentRecord) : List AgentRecord :=
  records.mergeSort fun a b => a.run.getD "" ≤ b.run.getD ""

/-! ## The account -/

/-- The account of what a program has left. -/
def account (scope : Nat) (trace : List TraceStep) (w : World Routine Outcome Seat Host) : Value :=
  let record := w.hub.engine.record
  .dict [("trace", .list (stepValues trace)), ("started", .list (record.filterMap startedValue?)),
    ("runs", .dict ((grouped (record.filterMap raisedValue?)).map fun (id, vs) => (id, .list vs))),
    ("orchestrations", .list (w.hub.engine.orchestrations.map orchestrationValue)),
    ("agents", .list ((sortedRecords w.host.records).map (recordValue w.host))),
    ("requests", requestsValue w.host 0), ("state", .dict (w.hub.scope scope).snapshot),
    ("registered", .dict [("runs", .ofTexts w.hub.exchange.runIds),
      ("planners", .ofTexts w.hub.livePlanners.keys)])]

/-- Perform a program on a hub of its own: the account of it. -/
def play (state : Entries Value) (replies : List Value) (program : List Statement) : Result Value :=
  let start : World Routine Outcome Seat Host :=
    { hub := { scopes := [{ state }] }, host := { models := [{ replies }] } }
  let (trace, w) := performEach 0 program start
  trace.map fun trace => account 0 trace w

end Rendezvous.Program
