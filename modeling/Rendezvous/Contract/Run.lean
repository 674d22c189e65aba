import Rendezvous.Check

/-!
# The messages of one run

An agent thread tells the run's workflow about its calls by events; the workflow orders each call from
the call activity, receives a report and publishes the transcript of the run.  Each message has a
check (`check`), which reads it from data, and a written form (`toValue`) with all of its fields;
`check_toValue` says that what is written reads back.
-/

namespace Rendezvous

/-! ## Events -/

/-- What an event asks of the run. -/
inductive EventKind where
  | toolCall
  | modelCall
  | done
  deriving Repr, DecidableEq

namespace EventKind

/-- The name of a kind of event. -/
def name : EventKind → String
  | toolCall => "tool-call"
  | modelCall => "model-call"
  | done => "done"

/-- All kinds by name. -/
def named : List (String × EventKind) :=
  [("tool-call", toolCall), ("model-call", modelCall), ("done", done)]

/-- Read a kind from its name. -/
def check : Value → Checked EventKind := Check.choice .notInEnum named

@[simp] theorem check_name (x : EventKind) : check (.text x.name) = .ok x := by cases x <;> rfl

end EventKind

/-- An event sent into a run: a call to execute, or the end of the run. -/
structure RunEvent where
  kind : EventKind
  callId : Option String := none
  operation : Option String := none
  payload : Option String := none
  deriving Repr, DecidableEq

namespace RunEvent

/-- Whether the event ends its run. -/
def isTerminal (e : RunEvent) : Bool := e.kind == .done

/-- The event that ends a run. -/
def finish : RunEvent := { kind := .done }

/-- The event for a call. -/
def call (kind : EventKind) (callId operation : String) (payload : Option String) : RunEvent :=
  { kind, callId := some callId, operation := some operation, payload }

/-- Read an event from data. -/
def check : Value → Checked RunEvent := Check.object fun e =>
  RunEvent.mk <$> Check.required EventKind.check "type" e
    <*> Check.defaulted none (Check.optional Check.text) "call_id" e
    <*> Check.defaulted none (Check.optional Check.text) "operation_name" e
    <*> Check.defaulted none (Check.optional Check.text) "payload" e

/-- All fields of an event. -/
def toValue (e : RunEvent) : Value := .dict [
  ("type", .text e.kind.name), ("call_id", .ofText? e.callId),
  ("operation_name", .ofText? e.operation), ("payload", .ofText? e.payload)]

/-- What is written reads back. -/
@[simp] theorem check_toValue (x : RunEvent) : check x.toValue = .ok x := by
  simp [check, toValue, Check.required, Check.defaulted, Entries.get?]

end RunEvent

/-! ## The start of a run -/

/-- What a run is started with. -/
structure RunStart where
  runId : String
  agentName : String
  userMessage : Option String := none
  systemMessage : Option String := none
  deriving Repr, DecidableEq

namespace RunStart

/-- Read the start of a run from data. -/
def check : Value → Checked RunStart := Check.object fun e =>
  RunStart.mk <$> Check.required Check.text "run_id" e
    <*> Check.required Check.text "agent_name" e
    <*> Check.defaulted none (Check.optional Check.text) "user_message" e
    <*> Check.defaulted none (Check.optional Check.text) "system_message" e

/-- All fields of the start of a run. -/
def toValue (s : RunStart) : Value := .dict [
  ("run_id", .text s.runId), ("agent_name", .text s.agentName),
  ("user_message", .ofText? s.userMessage), ("system_message", .ofText? s.systemMessage)]

/-- What is written reads back. -/
@[simp] theorem check_toValue (x : RunStart) : check x.toValue = .ok x := by
  simp [check, toValue, Check.required, Check.defaulted, Entries.get?]

end RunStart

/-! ## Orders and reports of calls -/

/-- The order to execute a pending call. -/
structure CallOrder where
  runId : String
  callId : String
  operation : String
  payload : Option String := none
  deriving Repr, DecidableEq

namespace CallOrder

/-- Read an order from data. -/
def check : Value → Checked CallOrder := Check.object fun e =>
  CallOrder.mk <$> Check.required Check.text "run_id" e
    <*> Check.required Check.text "call_id" e
    <*> Check.required Check.text "operation_name" e
    <*> Check.defaulted none (Check.optional Check.text) "payload" e

/-- The order for an event of a run; the event has to name its call and its operation. -/
def ofEvent (runId : String) (e : RunEvent) : Checked CallOrder :=
  check <| .dict [
    ("run_id", .text runId), ("call_id", .ofText? e.callId),
    ("operation_name", .ofText? e.operation), ("payload", .ofText? e.payload)]

/-- All fields of an order. -/
def toValue (o : CallOrder) : Value := .dict [
  ("run_id", .text o.runId), ("call_id", .text o.callId),
  ("operation_name", .text o.operation), ("payload", .ofText? o.payload)]

/-- What is written reads back. -/
@[simp] theorem check_toValue (x : CallOrder) : check x.toValue = .ok x := by
  simp [check, toValue, Check.required, Check.defaulted, Entries.get?]

end CallOrder

/-- The report of an executed call. -/
structure CallReport where
  operation : String
  payload : Option String := none
  resultText : Option String := none
  deriving Repr, DecidableEq

namespace CallReport

/-- Read a report from data. -/
def check : Value → Checked CallReport := Check.object fun e =>
  CallReport.mk <$> Check.required Check.text "operation_name" e
    <*> Check.defaulted none (Check.optional Check.text) "payload" e
    <*> Check.defaulted none (Check.optional Check.text) "result_text" e

/-- All fields of a report. -/
def toValue (r : CallReport) : Value := .dict [
  ("operation_name", .text r.operation), ("payload", .ofText? r.payload),
  ("result_text", .ofText? r.resultText)]

/-- What is written reads back. -/
@[simp] theorem check_toValue (x : CallReport) : check x.toValue = .ok x := by
  simp [check, toValue, Check.required, Check.defaulted, Entries.get?]

end CallReport

/-! ## Transcripts -/

/-- One completed call in a transcript. -/
structure CallRecord where
  kind : EventKind
  operation : String
  input : Option String := none
  output : Option String := none
  deriving Repr, DecidableEq

namespace CallRecord

/-- The record of a reported call. -/
def ofReport (kind : EventKind) (r : CallReport) : CallRecord :=
  { kind, operation := r.operation, input := r.payload, output := r.resultText }

/-- Read a record from data. -/
def check : Value → Checked CallRecord := Check.object fun e =>
  CallRecord.mk <$> Check.required EventKind.check "kind" e
    <*> Check.required Check.text "operation_name" e
    <*> Check.defaulted none (Check.optional Check.text) "input" e
    <*> Check.defaulted none (Check.optional Check.text) "output" e

/-- All fields of a record. -/
def toValue (r : CallRecord) : Value := .dict [
  ("kind", .text r.kind.name), ("operation_name", .text r.operation),
  ("input", .ofText? r.input), ("output", .ofText? r.output)]

/-- What is written reads back. -/
@[simp] theorem check_toValue (x : CallRecord) : check x.toValue = .ok x := by
  simp [check, toValue, Check.required, Check.defaulted, Entries.get?]

end CallRecord

/-- The completed calls of one run, in the order in which their events arrived. -/
structure Transcript where
  runId : String := ""
  agentName : String := ""
  calls : List CallRecord := []
  deriving Repr, DecidableEq

namespace Transcript

/-- The calls of one kind. -/
def callsOf (kind : EventKind) (t : Transcript) : List CallRecord :=
  t.calls.filter (·.kind == kind)

/-- Read a transcript from data. -/
def check : Value → Checked Transcript := Check.object fun e =>
  Transcript.mk <$> Check.defaulted "" Check.text "run_id" e
    <*> Check.defaulted "" Check.text "agent_name" e
    <*> Check.defaulted [] (Check.list CallRecord.check) "calls" e

/-- All fields of a transcript. -/
def toValue (t : Transcript) : Value := .dict [
  ("run_id", .text t.runId), ("agent_name", .text t.agentName),
  ("calls", .list (t.calls.map CallRecord.toValue))]

/-- What is written reads back. -/
@[simp] theorem check_toValue (x : Transcript) : check x.toValue = .ok x := by
  simp [check, toValue, Check.defaulted, Entries.get?, Check.list_map CallRecord.check_toValue]

end Transcript

/-! ## Status -/

/-- How far a workflow has come. -/
inductive WorkflowState where
  | pending
  | running
  | completed
  | failed
  deriving Repr, DecidableEq

namespace WorkflowState

/-- The name of a state. -/
def name : WorkflowState → String
  | pending => "pending"
  | running => "running"
  | completed => "completed"
  | failed => "failed"

/-- All states by name. -/
def named : List (String × WorkflowState) :=
  [("pending", pending), ("running", running), ("completed", completed), ("failed", failed)]

/-- Read a state from its name. -/
def check : Value → Checked WorkflowState := Check.choice .notInEnum named

@[simp] theorem check_name (x : WorkflowState) : check (.text x.name) = .ok x := by cases x <;> rfl

end WorkflowState

/-- The answer to the question how a run is doing. -/
structure RunStatus where
  runId : String
  agentName : String
  state : WorkflowState
  completedCalls : Int := 0
  queuedEvents : Int := 0
  currentCallId : Option String := none
  deriving Repr, DecidableEq

namespace RunStatus

/-- Read a status from data. -/
def check : Value → Checked RunStatus := Check.object fun e =>
  RunStatus.mk <$> Check.required Check.text "run_id" e
    <*> Check.required Check.text "agent_name" e
    <*> Check.required WorkflowState.check "status" e
    <*> Check.defaulted 0 Check.integer "completed_calls" e
    <*> Check.defaulted 0 Check.integer "queued_events" e
    <*> Check.defaulted none (Check.optional Check.text) "current_call_id" e

/-- All fields of a status. -/
def toValue (s : RunStatus) : Value := .dict [
  ("run_id", .text s.runId), ("agent_name", .text s.agentName), ("status", .text s.state.name),
  ("completed_calls", .int s.completedCalls), ("queued_events", .int s.queuedEvents),
  ("current_call_id", .ofText? s.currentCallId)]

/-- What is written reads back. -/
@[simp] theorem check_toValue (x : RunStatus) : check x.toValue = .ok x := by
  simp [check, toValue, Check.required, Check.defaulted, Entries.get?]

end RunStatus
end Rendezvous
