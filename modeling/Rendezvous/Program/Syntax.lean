import Rendezvous.Agent.Composite
import Rendezvous.Tool.Routed

/-!
# Programs

A program is a list of statements that exercise the hub: they call tools and models, begin and end runs and
requests, change the shared state, and build and run agents.  An agent of a program is scripted, that is
again a list of statements, or talks with a model whose replies are given, or lets other agents take turns.
-/

namespace Rendezvous

/-- The toolsets that programs know. -/
inductive ToolSource where
  | toolbox
  | countries
  deriving Repr, DecidableEq

/-- A value that a program gives: written down, or the most recent result. -/
inductive Given where
  | value (v : Value)
  | last

/-- The prompts of a run that is to be started. -/
structure Prompts where
  user : Option String := none
  system : Option String := none

/-- How a program builds a composite. -/
structure CompositePlan where
  /-- The fields of the profile. -/
  profile : Entries Value
  /-- What its planner is made with. -/
  plan : PlannerPlan
  workers : Option Int
  /-- How many activities there are at the same time. -/
  activities : Int
  /-- How often the list of sub-agents is repeated. -/
  repetitions : Nat

mutual

/-- A statement of a program. -/
inductive Statement where
  /-- Call a tool. -/
  | call (on : ToolSource) (c : ToolCall)
  /-- Ask the model of the program; the request is checked first. -/
  | chat (request : Value)
  /-- Look an attribute of the toolbox up. -/
  | getAttribute (name : String)
  | setAttribute (name : String) (value : Value)
  /-- Look at the object around the toolbox. -/
  | inspect
  | write (key : String) (value : Given)
  | read (key : String) (default : Value)
  | has (key : String)
  /-- Add to a value of the shared state, which is zero if there is none. -/
  | increase (key : String) (amount : Value)
  | fail (failure : Failure)
  /-- Go on after a failure. -/
  | attempt (body : List Statement)
  /-- Do as if this was the execution that the call activity has asked for. -/
  | guard (body : List Statement)
  | bind (run : Option String) (body : List Statement)
  | setRun (run : Option String)
  | clear
  /-- Serve a request. -/
  | serve (agentName : Option String) (body : List Statement)
  | activate (agentName : Option String) (prompts : Prompts)
  | startRun (agentName : String) (prompts : Prompts) (run : Option String)
  | finishRun (run : String)
  /-- Do tracked work. -/
  | track (name : String) (prompts : Prompts) (result : Value) (body : List Statement)
  /-- Work on another thread and wait for it. -/
  | thread (inherits : Bool) (body : List Statement)
  /-- How things stand. -/
  | inform
  /-- Let the engine refuse some starts and events. -/
  | closeEngine (starts events : List String)
  /-- Build an agent and run it tracked, against the scope of the program or an empty one. -/
  | runAgent (fresh : Bool) (agent : AgentPlan)
  /-- Build an agent and run it. -/
  | invoke (agent : AgentPlan)

/-- How a program builds an agent; a profile is given by its fields. -/
inductive AgentPlan where
  | script (profile : Entries Value) (result : Given) (body : List Statement)
  | bare (profile : Entries Value)
  /-- An agent that talks with a model and may call tools. -/
  | talker (profile : Entries Value) (replies : List Value) (tools : Option ToolSource) (rounds : Int)
  /-- The demonstration. -/
  | research (replies : List Value)
  | composite (plan : CompositePlan) (agents : List AgentPlan)

end

instance : Inhabited Statement := ⟨.inspect⟩

instance : Inhabited AgentPlan := ⟨.bare []⟩

/-- The word for a statement. -/
def Statement.word : Statement → String
  | call .. => "call"
  | chat _ => "chat"
  | getAttribute _ => "getattr"
  | setAttribute .. => "setattr"
  | inspect => "proxy"
  | write .. => "write"
  | read .. => "read"
  | has _ => "has"
  | increase .. => "incr"
  | fail _ => "raise"
  | attempt _ => "try"
  | guard _ => "guard"
  | bind .. => "bind"
  | setRun _ => "set_run"
  | clear => "clear"
  | serve .. => "scope"
  | activate .. => "activate"
  | startRun .. => "start_run"
  | finishRun _ => "finish_run"
  | track .. => "durable"
  | thread .. => "thread"
  | inform => "info"
  | closeEngine .. => "engine"
  | runAgent .. => "run_agent"
  | invoke _ => "invoke"

end Rendezvous
