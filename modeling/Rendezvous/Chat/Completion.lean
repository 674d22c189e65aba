import Rendezvous.Contract.Chat
import Rendezvous.Json.Reader
import Rendezvous.Json.Writer
import Rendezvous.Settings
import Rendezvous.Text.Given

/-!
# Chat models behind a completion service

A request becomes the parameters of one call of the service, and the first choice that the service
returns becomes the reply.  Arguments of tool calls are JSON texts on the service's side and
dictionaries on this one, so they are written and read on the way.  A client of the service is built
when it is first needed, which is when a missing key shows.
-/

namespace Rendezvous

/-- What a client of a completion service is built with. -/
structure CompletionClient where
  key : String
  location : Option String := none
  deriving Repr, DecidableEq

/-- A chat model behind a completion service. -/
structure CompletionModel where
  key : Option String
  /-- The model that serves requests which name none. -/
  model : String
  location : Option String := none
  deriving Repr, DecidableEq

namespace CompletionModel

/-- A model with what is given, and else what the settings say. -/
def of (key model location : Option String) (s : Settings) : CompletionModel :=
  { key := (Text.given? key).or (Text.given? s.modelKey), model := Text.orElse model s.model
    location := Text.given? location }

/-- The client of a model; there is none without a key. -/
def client (m : CompletionModel) : Result CompletionClient :=
  match m.key with
  | some key => .ok { key, location := m.location }
  | none => .error (.of (.badValue ("OpenAI API key is required. Set OPENAI_API_KEY in environment "
      ++ "or pass api_key parameter.")))

end CompletionModel

namespace Completion

/-! ## Parameters -/

/-- A tool call as the service writes it. -/
def toolCall (r : ToolRequest) : Value := .dict [
  ("id", .text r.id), ("type", .text "function"),
  ("function", .dict [("name", .text r.name), ("arguments", .text (Json.write (.dict r.arguments)))])]

/-- A message as the service writes it. -/
def message (m : Message) : Value := .dict <|
  [("role", .text m.role.name), ("content", .ofText? m.content)]
    ++ (if m.toolCalls.isEmpty then [] else [("tool_calls", .list (m.toolCalls.map toolCall))])
    ++ ((Text.given? m.toolCallId).map fun id => ("tool_call_id", Value.text id)).toList

/-- A tool as the service writes it. -/
def tool (s : ToolSpec) : Value := .dict [
  ("type", .text "function"),
  ("function", .dict [("name", .text s.name), ("description", .text s.description),
    ("parameters", .dict s.parameters)])]

/-- The parameters of a call of the service. -/
def parameters (m : CompletionModel) (r : ChatRequest) : Entries Value :=
  [("model", .text (Text.orElse r.model m.model)), ("messages", .list (r.messages.map message))]
    ++ (if r.tools.isEmpty then [] else [("tools", .list (r.tools.map tool))])
    ++ (r.temperature.map fun t => ("temperature", Value.float t)).toList

/-! ## Choices -/

/-- A tool call of a choice.  Its arguments may be missing or empty, and are JSON otherwise. -/
def toolRequest (call : Value) : Result ToolRequest := do
  let field (key : String) := (call.field? key).getD .null
  let arguments ← match field "arguments" with
    | .text s =>
      match Json.read? (Text.orElse (some s) "\x7b\x7d") with
      | some v => pure v
      | none => throw (.of .badJson)
    | _ => pure (.dict [])
  (ToolRequest.check (.dict [("id", field "id"), ("name", field "name"),
    ("arguments", arguments)])).toResult

/-- The tool calls of a choice. -/
def toolRequests : Value → Result (List ToolRequest)
  | .list calls => calls.mapM toolRequest
  | _ => .ok []

/-- The reply that a choice stands for. -/
def reply (choice : Value) : Result ChatReply := do
  let calls ← toolRequests ((choice.field? "tool_calls").getD .null)
  let read ← (ChatReply.check (.dict [("text", (choice.field? "content").getD .null),
    ("finish_reason", (choice.field? "finish_reason").getD .null)])).toResult
  return { read with toolCalls := calls }

/-- The reply to a request is the first of the choices. -/
def firstReply : List Value → Result ChatReply
  | [] => .error (.of (.noItem "list index out of range"))
  | choice :: _ => reply choice

end Completion

/-- A chat model at work. -/
structure CompletionSession where
  model : CompletionModel
  /-- Whether the model has its client: it is handed one or builds one. -/
  connected : Bool := false
  /-- The clients that the model has built. -/
  built : List CompletionClient := []
  /-- The parameters of the calls that the model has made. -/
  calls : List (Entries Value) := []

namespace CompletionSession

/-- Build a client, unless there is one. -/
def connect (s : CompletionSession) : Result CompletionSession :=
  if s.connected then .ok s
  else s.model.client.map fun c => { s with connected := true, built := s.built ++ [c] }

/-- Put a request to the service. -/
def chat (service : Entries Value → Result (List Value)) (r : ChatRequest) (s : CompletionSession) :
    Result ChatReply × CompletionSession :=
  match s.connect with
  | .error f => (.error f, s)
  | .ok s =>
    let parameters := Completion.parameters s.model r
    ((service parameters).bind Completion.firstReply, { s with calls := s.calls ++ [parameters] })

/-- No second client is built. -/
theorem connect_connected {s t : CompletionSession} (h : s.connect = .ok t) : t.connect = .ok t := by
  unfold connect at h
  split at h
  · rename_i hc
    cases h
    simp [connect, hc]
  · cases hm : s.model.client with
    | error f => rw [hm] at h; cases h
    | ok c => rw [hm] at h; cases h; rfl

end CompletionSession
end Rendezvous
