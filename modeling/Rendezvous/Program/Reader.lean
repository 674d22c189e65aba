import Rendezvous.Program.Syntax
import Rendezvous.Agent.Conversation
import Rendezvous.Condition.Described
import Rendezvous.Failure.Described

/-!
# Reading programs

A statement is a dictionary that names itself under `do`, an agent one that names its kind under `kind`; the
other fields depend on these.  Fields that are missing have their defaults, and what is not known as a
statement does nothing but look.
-/

namespace Rendezvous.Program

/-! ## Fields -/

/-- The fields of a dictionary. -/
abbrev Fields := Entries Value

/-- The value under a key, or null. -/
def field (key : String) (e : Fields) : Value := (Entries.get? key e).getD .null

/-- The text under a key, if there is one. -/
def text? (key : String) (e : Fields) : Option String :=
  match field key e with
  | .text s => some s
  | _ => none

/-- The text under a key, or an empty one. -/
def text (key : String) (e : Fields) : String := (text? key e).getD ""

/-- The integer under a key, if there is one. -/
def integer? (key : String) (e : Fields) : Option Int :=
  match field key e with
  | .int n => some n
  | .bool b => some (if b then 1 else 0)
  | _ => none

/-- The items of the list under a key. -/
def items (key : String) (e : Fields) : List Value :=
  match field key e with
  | .list vs => vs
  | _ => []

/-- The texts in the list under a key. -/
def texts (key : String) (e : Fields) : List String :=
  (items key e).filterMap fun
    | .text s => some s
    | _ => none

/-- The fields of the dictionary under a key. -/
def fields (key : String) (e : Fields) : Fields :=
  match field key e with
  | .dict es => es
  | _ => []

/-- The fields with some names. -/
def only (keys : List String) (e : Fields) : Fields := e.filter fun (k, _) => keys.contains k

/-! ## Statements -/

/-- The toolset with a name. -/
def source (key : String) (e : Fields) : Option ToolSource :=
  match text? key e with
  | some "research" => some .countries
  | some _ => some .toolbox
  | none => none

/-- The prompts of a run. -/
def prompts (e : Fields) : Prompts where
  user := text? "user_message" e
  system := text? "system_message" e

/-- A statement from its fields, with its block and its agent. -/
def statementOf (e : Fields) (body : List Statement) (agent : AgentPlan) : Statement :=
  match text "do" e with
  | "call" => .call ((source "on" e).getD .toolbox)
      { operation := text "tool" e, args := items "args" e, named := fields "kwargs" e }
  | "chat" => .chat (field "request" e)
  | "getattr" => .getAttribute (text "name" e)
  | "setattr" => .setAttribute (text "name" e) (field "value" e)
  | "write" => .write (text "key" e)
      (if (field "last" e).truthy then .last else .value (field "value" e))
  | "read" => .read (text "key" e) (field "default" e)
  | "has" => .has (text "key" e)
  | "incr" => .increase (text "key" e) ((Entries.get? "by" e).getD (.int 1))
  | "raise" => .fail (.described (field "error" e))
  | "try" => .attempt body
  | "guard" => .guard body
  | "bind" => .bind (text? "run_id" e) body
  | "set_run" => .setRun (text? "run_id" e)
  | "clear" => .clear
  | "scope" => .serve (text? "agent_name" e) body
  | "activate" => .activate (text? "agent_name" e) (prompts e)
  | "start_run" => .startRun (text "agent_name" e) (prompts e) (text? "run_id" e)
  | "finish_run" => .finishRun (text "run_id" e)
  | "durable" => .track (Text.orElse (text? "name" e) ((text? "func_name" e).getD "func")) (prompts e)
      (field "returns" e) body
  | "thread" => .thread (field "inherit" e).truthy body
  | "info" => .inform
  | "engine" => .closeEngine (texts "fail_schedule" e) (texts "fail_events" e)
  | "run_agent" => .runAgent (field "new_scope" e).truthy agent
  | "invoke" => .invoke agent
  | _ => .inspect

/-! ## Agents -/

/-- The fields of a profile. -/
def profileFields (e : Fields) : Fields :=
  only ["name", "description", "output_key", "user_message", "system_message"] e

/-- What the planner of a composite is made with. -/
def plannerPlan (topology : Topology) (e : Fields) : PlannerPlan :=
  let plan : PlannerPlan := { id := "", topology }
  match topology with
  | .loop => { plan with
      maxIterations := (Entries.get? "max_iterations" e).getD plan.maxIterations
      testExitAtLoopEnd := (Entries.get? "test_exit_at_loop_end" e).getD plan.testExitAtLoopEnd
      exitCondition := Condition.describedAt? "exit" (.dict e) }
  | .conditional => { plan with conditions := Condition.describedAll (field "conditions" e) }
  | _ => plan

/-- How many activities there are at the same time, unless something else is said. -/
def defaultActivities : Int := 64

/-- A composite from its fields. -/
def compositePlan (topology : Topology) (e : Fields) : CompositePlan where
  profile := only ["name", "description", "output_key"] e
  plan := plannerPlan topology e
  workers := integer? "max_workers" e
  activities := (integer? "max_activities" e).getD defaultActivities
  repetitions := ((integer? "repeat" e).getD 1).toNat

/-- An agent from its fields, with its block and its sub-agents. -/
def agentOf (e : Fields) (body : List Statement) (agents : List AgentPlan) : AgentPlan :=
  let kind := text "kind" e
  match Topology.named.lookup kind with
  | some topology => .composite (compositePlan topology e) agents
  | none =>
    match kind with
    | "script" => .script (profileFields e)
        (if (field "returns_last" e).truthy then .last else .value (field "returns" e)) body
    | "tool_calling" => .talker (profileFields e) (items "replies" e) (source "tools" e)
        ((integer? "max_tool_rounds" e).getD defaultToolRounds)
    | "research" => .research (items "replies" e)
    | _ => .bare (profileFields e)

mutual

/-- Read a statement. -/
def readStatement : Value → Statement
  | .dict e => statementOf e (readBody e) (readAgentOf e)
  | _ => .inspect
termination_by structural v => v

/-- Read a list of statements. -/
def readStatements : List Value → List Statement
  | [] => []
  | v :: rest => readStatement v :: readStatements rest
termination_by structural vs => vs

/-- Read a block. -/
def readBlock : Value → List Statement
  | .list vs => readStatements vs
  | _ => []
termination_by structural v => v

/-- Read the block among some fields. -/
def readBody : List (String × Value) → List Statement
  | [] => []
  | (key, v) :: rest => if key = "body" then readBlock v else readBody rest
termination_by structural e => e

/-- Read the agent among some fields. -/
def readAgentOf : List (String × Value) → AgentPlan
  | [] => default
  | (key, v) :: rest => if key = "agent" then readAgent v else readAgentOf rest
termination_by structural e => e

/-- Read an agent. -/
def readAgent : Value → AgentPlan
  | .dict e => agentOf e (readBody e) (readSubAgents e)
  | _ => default
termination_by structural v => v

/-- Read a list of agents. -/
def readAgents : List Value → List AgentPlan
  | [] => []
  | v :: rest => readAgent v :: readAgents rest
termination_by structural vs => vs

/-- Read a value as a list of agents. -/
def readAgentList : Value → List AgentPlan
  | .list vs => readAgents vs
  | _ => []
termination_by structural v => v

/-- Read the sub-agents among some fields. -/
def readSubAgents : List (String × Value) → List AgentPlan
  | [] => []
  | (key, v) :: rest => if key = "sub_agents" then readAgentList v else readSubAgents rest
termination_by structural e => e

end

end Rendezvous.Program
