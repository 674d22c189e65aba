import Rendezvous.Contract.Chat
import Rendezvous.Contract.Orchestration
import Rendezvous.Profile
import Rendezvous.Scope

/-!
# All messages by name

Every kind of message has a name, a check that reads it from data, a written form with all of its fields,
and the properties that are worked out from the fields.
-/

namespace Rendezvous

/-- Reads a message from data: its fields, and what is worked out from them. -/
abbrev MessageReader := Value → Checked (Entries Value)

namespace MessageReader

/-- A reader of messages of one kind. -/
def of {α : Type} (check : Value → Checked α) (write : α → Value)
    (properties : α → Entries Value := fun _ => []) : MessageReader :=
  fun v => (check v).map fun a => ("value", write a) :: properties a

/-- The readers of all kinds of messages. -/
def all : List (String × MessageReader) := [
  ("AgentEvent", of RunEvent.check RunEvent.toValue fun e => [("is_terminal", .bool e.isTerminal)]),
  ("AgentRunInput", of RunStart.check RunStart.toValue),
  ("CallActivityInput", of CallOrder.check CallOrder.toValue),
  ("CallActivityOutput", of CallReport.check CallReport.toValue),
  ("CallRecord", of CallRecord.check CallRecord.toValue),
  ("RunOutput", of Transcript.check Transcript.toValue fun t => [
    ("tool_calls", .list ((t.callsOf .toolCall).map CallRecord.toValue)),
    ("model_calls", .list ((t.callsOf .modelCall).map CallRecord.toValue))]),
  ("RunStatusQueryResult", of RunStatus.check RunStatus.toValue),
  ("ToolCallRequest", of ToolRequest.check ToolRequest.toValue),
  ("ToolSpecification", of ToolSpec.check ToolSpec.toValue),
  ("ChatMessage", of Message.check Message.toValue),
  ("ChatRequest", of ChatRequest.check ChatRequest.toValue fun r => [
    ("user_message", .ofText? r.userMessage), ("system_message", .ofText? r.systemMessage),
    ("prompt_text", .text r.promptText)]),
  ("ChatResponse", of ChatReply.check ChatReply.toValue fun r =>
    [("has_tool_calls", .bool r.hasToolCalls)]),
  ("OrchestrationInput", of OrchestrationStart.check OrchestrationStart.toValue),
  ("ExecutionActivityInput", of StepOrder.check StepOrder.toValue),
  ("ExecutionActivityOutput", of StepReport.check StepReport.toValue),
  ("ConditionCheckInput", of ConditionOrder.check ConditionOrder.toValue),
  ("ExitConditionCheckInput", of ExitOrder.check ExitOrder.toValue),
  ("OrchestrationResult", of OrchestrationResult.check OrchestrationResult.toValue),
  ("OrchestrationStatusQueryResult", of OrchestrationStatus.check OrchestrationStatus.toValue),
  ("AgentConfig", of Profile.check Profile.toValue),
  ("AgentScope", of Scope.check Scope.toValue)]

/-- Read a message of the kind with a name. -/
def read (name : String) (v : Value) : Result Value :=
  match all.lookup name with
  | some reader => (reader v).toResult.map .dict
  | none => .error (.of (.noKey name))

end MessageReader
end Rendezvous
