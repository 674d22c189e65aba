import Rendezvous.Agent.Composite
import Rendezvous.Agent.Conversation
import Rendezvous.Agent.Research
import Rendezvous.Call.Outcome
import Rendezvous.Failure.Described
import Rendezvous.Hub.Router
import Rendezvous.Program.Syntax
import Rendezvous.Tool.Countries
import Rendezvous.Tool.Toolbox

/-!
# What programs have beside the hub

The toolsets, whose attributes may be set, models that reply from a script, the records that agents leave,
and the most recent result.  Calls of tools and models go through the router of the hub.
-/

namespace Rendezvous

/-- What happened in a statement. -/
inductive TraceStep where
  | mk (word : String) (result : Option (Result Value)) (notes : Entries Value)
    (body : Option (List TraceStep))
  deriving Inhabited

/-- A model that replies from a script. -/
structure ScriptedModel where
  replies : List Value := []
  requests : List ChatRequest := []

/-- What an agent leaves: a scripted one for each of its invocations, one that talks with a model when it is
built. -/
structure AgentRecord where
  name : String
  run : Option String := none
  trace : List TraceStep := []
  model : Option Nat := none

/-- A call of a tool or a model. -/
inductive Routine where
  | tool (on : ToolSource) (c : ToolCall)
  | chat (model : Nat) (request : ChatRequest)

/-- What a program has beside the hub. -/
structure Host where
  toolbox : Toolset := Toolbox.toolset
  countries : Toolset := Countries.toolset
  /-- The model of the program comes first. -/
  models : List ScriptedModel
  records : List AgentRecord := []
  last : Value := .null
  /-- What happened in the block that was left most recently. -/
  block : List TraceStep := []

namespace Host

/-- A toolset. -/
def toolset (on : ToolSource) (h : Host) : Toolset :=
  match on with
  | .toolbox => h.toolbox
  | .countries => h.countries

/-- Put another toolset in the place of one. -/
def withToolset (on : ToolSource) (s : Toolset) (h : Host) : Host :=
  match on with
  | .toolbox => { h with toolbox := s }
  | .countries => { h with countries := s }

/-- A model. -/
def model (n : Nat) (h : Host) : ScriptedModel := h.models.getD n {}

end Host

namespace Program

/-- An action of a program. -/
abbrev Do := Act Routine Outcome Seat Host

/-- What the program has beside the hub. -/
def host : Do Host := return (← Act.world).host

/-- Change what the program has beside the hub. -/
def changeHost (f : Host → Host) : Do Unit := Act.change fun w => { w with host := f w.host }

/-- A toolset. -/
def toolset (on : ToolSource) : Do Toolset := return (← host).toolset on

/-! ## Models -/

/-- A new model: its number. -/
def newModel (replies : List Value) : Do Nat := do
  let n := (← host).models.length
  changeHost fun h => { h with models := h.models ++ [{ replies }] }
  return n

/-- The reply that a script gives. -/
def scriptedReply (v : Value) : Result ChatReply :=
  match v.field? "raise" with
  | some failure => .error (.described failure)
  | none => (ChatReply.check v).toResult

/-- Let a model reply. -/
def reply (n : Nat) (request : ChatRequest) : Do ChatReply := do
  let model := (← host).model n
  let next : ScriptedModel :=
    { replies := model.replies.tail, requests := model.requests ++ [request] }
  changeHost fun h => { h with models := h.models.set n next }
  match model.replies with
  | [] => throw (.of (.breakdown "no scripted reply left"))
  | v :: _ => Act.ofResult (scriptedReply v)

/-! ## Calls -/

/-- Calls as they are, with nothing around them. -/
def performer : Performer Routine Outcome Seat Host where
  perform
    | .tool on c => do
      let s ← toolset on
      return .value (← Act.ofResult (s.call (← Act.context).guarded c))
    | .chat n request => return .reply (← reply n request)
  text := Outcome.text?

/-- A call of a tool to be routed. -/
def toolRoutine (on : ToolSource) (c : ToolCall) : RoutedCall Routine where
  kind := .toolCall
  call := .tool on c
  operation := c.operation
  payload := some (describeArguments c.args c.named)

/-- A call of a model to be routed. -/
def chatRoutine (model : Nat) (request : ChatRequest) : RoutedCall Routine where
  kind := .modelCall
  call := .chat model request
  operation := Names.chatOperation
  payload := some request.promptText
  userMessage := request.userMessage
  systemMessage := request.systemMessage

/-- Call something by its name on the object around a toolset. -/
def callOn (on : ToolSource) (c : ToolCall) : Do Value := do
  let s ← toolset on
  match s.routed? c.operation with
  | none => throw (Toolset.noAttribute s.kind c.operation)
  | some .tool => return (← Act.route performer (toolRoutine on c)).toValue
  | some (.own a) => do
    let (v, s) ← Act.ofResult (s.callOwn c a)
    changeHost (Host.withToolset on s)
    return v
  | some (.other a) => Act.ofResult (s.callAttribute (← Act.context).guarded c a)

/-- Ask a model. -/
def ask (model : Nat) (request : ChatRequest) : Do ChatReply := do
  match ← Act.route performer (chatRoutine model request) with
  | .reply r => return r
  | .value _ => throw (.of (.breakdown "a model replies"))

/-! ## Agents -/

/-- A new record: its number. -/
def newRecord (r : AgentRecord) : Do Nat := do
  let n := (← host).records.length
  changeHost fun h => { h with records := h.records ++ [r] }
  return n

/-- The complaint about a model that asks for tools where there are none. -/
def noTools (agent tool : String) : Failure :=
  .of (.badValue ("Agent " ++ agent ++ " has no tools but the model requested " ++ tool))

/-- The complaint about a model that asks for a tool that is not there. -/
def noTool (agent tool : String) : Failure :=
  .of (.badValue ("Agent " ++ agent ++ " has no tool named " ++ tool))

/-- Call what a model asks for: the text of what comes of it.  An attribute that is null counts as
missing. -/
def useTool (agent : String) (tools : Option ToolSource) (r : ToolRequest) : Do String := do
  match tools with
  | none => throw (noTools agent r.name)
  | some on =>
    let s ← toolset on
    match s.routed? r.name with
    | none | some (.other (.value .null)) => throw (noTool agent r.name)
    | some _ => return (← callOn on { operation := r.name, named := r.arguments }).shown

/-- An agent that talks with a model. -/
def talker (profile : Profile) (model : Nat) (tools : Option ToolSource) (rounds : Int) :
    Agent Routine Outcome Host where
  kind := "ToolCallingAgent"
  profile := profile
  invoke n := do
    let s ← Act.scope n
    let specs ← match tools with
      | none => pure []
      | some on => do Act.ofResult (← toolset on).specifications
    let partners : Partners Do := { tools := specs, ask := ask model, use := useTool profile.name tools }
    return .ofText? (← Conversation.hold partners profile rounds s)

/-- Build an agent that talks with a model of its own, under a name for its record. -/
def newTalker (name : String) (profile : Profile) (replies : List Value) (tools : Option ToolSource)
    (rounds : Int) : Do (Agent Routine Outcome Host) := do
  let model ← newModel replies
  let _ ← newRecord { name, model := some model }
  return talker profile model tools rounds

end Program
end Rendezvous
