import Rendezvous.Check

/-!
# Conversations with a chat model

A request is a conversation together with the tools that the model may call; a reply is text, or tool
calls that the model wants made.  These types know nothing of a provider, so a model call can be
routed and recorded whoever serves it.
-/

namespace Rendezvous

/-- A tool call that a model asks for. -/
structure ToolRequest where
  id : String
  name : String
  arguments : Entries Value := []
  deriving Inhabited

namespace ToolRequest

/-- Read a tool call from data. -/
def check : Value → Checked ToolRequest := Check.object fun e =>
  ToolRequest.mk <$> Check.required Check.text "id" e
    <*> Check.required Check.text "name" e
    <*> Check.defaulted [] Check.dict "arguments" e

/-- All fields of a tool call. -/
def toValue (r : ToolRequest) : Value := .dict [
  ("id", .text r.id), ("name", .text r.name), ("arguments", .dict r.arguments)]

/-- What is written reads back. -/
@[simp] theorem check_toValue (x : ToolRequest) : check x.toValue = .ok x := by
  simp [check, toValue, Check.required, Check.defaulted, Entries.get?]

end ToolRequest

/-- What a model is told about a tool: its name, its purpose, and the schema of its arguments. -/
structure ToolSpec where
  name : String
  description : String := ""
  parameters : Entries Value := [("type", .text "object"), ("properties", .dict [])]
  deriving Inhabited

namespace ToolSpec

/-- Read a description of a tool from data. -/
def check : Value → Checked ToolSpec := Check.object fun e =>
  ToolSpec.mk <$> Check.required Check.text "name" e
    <*> Check.defaulted "" Check.text "description" e
    <*> Check.defaulted [("type", .text "object"), ("properties", .dict [])] Check.dict "parameters" e

/-- All fields of a description of a tool. -/
def toValue (s : ToolSpec) : Value := .dict [
  ("name", .text s.name), ("description", .text s.description), ("parameters", .dict s.parameters)]

/-- What is written reads back. -/
@[simp] theorem check_toValue (x : ToolSpec) : check x.toValue = .ok x := by
  simp [check, toValue, Check.required, Check.defaulted, Entries.get?]

end ToolSpec

/-! ## Messages -/

/-- Who says something in a conversation. -/
inductive Role where
  | system
  | user
  | assistant
  | tool
  deriving Repr, DecidableEq

namespace Role

/-- The name of a role. -/
def name : Role → String
  | system => "system"
  | user => "user"
  | assistant => "assistant"
  | tool => "tool"

/-- All roles by name. -/
def named : List (String × Role) :=
  [("system", system), ("user", user), ("assistant", assistant), ("tool", tool)]

/-- Read a role from its name. -/
def check : Value → Checked Role := Check.choice .notLiteral named

@[simp] theorem check_name (x : Role) : check (.text x.name) = .ok x := by cases x <;> rfl

end Role

/-- One message of a conversation. -/
structure Message where
  role : Role
  content : Option String := none
  toolCalls : List ToolRequest := []
  toolCallId : Option String := none

namespace Message

/-- A message of the system. -/
def system (content : String) : Message := { role := .system, content := some content }

/-- A message of the user. -/
def user (content : String) : Message := { role := .user, content := some content }

/-- The answer of a tool to one of the calls that the assistant asked for. -/
def answer (callId content : String) : Message :=
  { role := .tool, content := some content, toolCallId := some callId }

/-- Read a message from data. -/
def check : Value → Checked Message := Check.object fun e =>
  Message.mk <$> Check.required Role.check "role" e
    <*> Check.defaulted none (Check.optional Check.text) "content" e
    <*> Check.defaulted [] (Check.list ToolRequest.check) "tool_calls" e
    <*> Check.defaulted none (Check.optional Check.text) "tool_call_id" e

/-- All fields of a message. -/
def toValue (m : Message) : Value := .dict [
  ("role", .text m.role.name), ("content", .ofText? m.content),
  ("tool_calls", .list (m.toolCalls.map ToolRequest.toValue)),
  ("tool_call_id", .ofText? m.toolCallId)]

/-- A message on one line. -/
def line (m : Message) : String := m.role.name ++ ": " ++ m.content.getD ""

/-- What is written reads back. -/
@[simp] theorem check_toValue (x : Message) : check x.toValue = .ok x := by
  simp [check, toValue, Check.required, Check.defaulted, Entries.get?, Check.list_map ToolRequest.check_toValue]

end Message

/-! ## Requests and replies -/

/-- A conversation for a model to go on with. -/
structure ChatRequest where
  messages : List Message
  tools : List ToolSpec := []
  model : Option String := none
  temperature : Option Float := none

namespace ChatRequest

/-- The text of the last message of the user. -/
def userMessage (r : ChatRequest) : Option String :=
  (r.messages.reverse.find? (·.role == .user)).bind (·.content)

/-- The text of the first message of the system. -/
def systemMessage (r : ChatRequest) : Option String :=
  (r.messages.find? (·.role == .system)).bind (·.content)

/-- The conversation as plain text, a message on each line. -/
def promptText (r : ChatRequest) : String := "\n".intercalate (r.messages.map Message.line)

/-- Read a request from data. -/
def check : Value → Checked ChatRequest := Check.object fun e =>
  ChatRequest.mk <$> Check.required (Check.list Message.check) "messages" e
    <*> Check.defaulted [] (Check.list ToolSpec.check) "tools" e
    <*> Check.defaulted none (Check.optional Check.text) "model" e
    <*> Check.defaulted none (Check.optional Check.number) "temperature" e

/-- All fields of a request. -/
def toValue (r : ChatRequest) : Value := .dict [
  ("messages", .list (r.messages.map Message.toValue)),
  ("tools", .list (r.tools.map ToolSpec.toValue)), ("model", .ofText? r.model),
  ("temperature", (r.temperature.map Value.float).getD .null)]

/-- What is written reads back. -/
@[simp] theorem check_toValue (x : ChatRequest) : check x.toValue = .ok x := by
  have temperature : Check.optional Check.number ((x.temperature.map Value.float).getD .null)
      = .ok x.temperature := by
    cases x.temperature <;> rfl
  simp [check, toValue, Check.required, Check.defaulted, Entries.get?, temperature,
    Check.list_map Message.check_toValue, Check.list_map ToolSpec.check_toValue]

end ChatRequest

/-- What a model answers. -/
structure ChatReply where
  text : Option String := none
  toolCalls : List ToolRequest := []
  finishReason : Option String := none
  deriving Inhabited

namespace ChatReply

/-- Whether the model asks for tool calls. -/
def hasToolCalls (r : ChatReply) : Bool := !r.toolCalls.isEmpty

/-- Read a reply from data. -/
def check : Value → Checked ChatReply := Check.object fun e =>
  ChatReply.mk <$> Check.defaulted none (Check.optional Check.text) "text" e
    <*> Check.defaulted [] (Check.list ToolRequest.check) "tool_calls" e
    <*> Check.defaulted none (Check.optional Check.text) "finish_reason" e

/-- All fields of a reply. -/
def toValue (r : ChatReply) : Value := .dict [
  ("text", .ofText? r.text), ("tool_calls", .list (r.toolCalls.map ToolRequest.toValue)),
  ("finish_reason", .ofText? r.finishReason)]

/-- What is written reads back. -/
@[simp] theorem check_toValue (x : ChatReply) : check x.toValue = .ok x := by
  simp [check, toValue, Check.defaulted, Entries.get?, Check.list_map ToolRequest.check_toValue]

end ChatReply
end Rendezvous
