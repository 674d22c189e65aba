import Rendezvous.Program.Host
import Rendezvous.Failure.Report

/-!
# Performing programs

A statement leaves a step of the trace, with its result if it has one, and either lets the next statement go
on or ends the block it stands in with a failure.  A block leaves the steps of its statements up to the one
that failed.

`Program.perform` performs a statement, `Program.performAll` a block, and `Program.build` builds an agent.
-/

namespace Rendezvous.Program

/-! ## Steps of the trace -/

/-- What is left of a statement: its step, and whether it failed. -/
abbrev Performed := TraceStep × Result Unit

/-- The step of a statement without a body. -/
def step (word : String) (result : Option (Result Value)) (notes : Entries Value := []) : TraceStep :=
  .mk word result notes none

/-- Leave the step of a statement with a result, which is then the most recent one. -/
def leave (word : String) (r : Result Value) (notes : Entries Value := [])
    (body : Option (List TraceStep) := none) : Do Performed := do
  match r with
  | .ok v => changeHost fun h => { h with last := v }
  | .error _ => pure ()
  return (.mk word (some r) notes body, r.map fun _ => ())

/-- Leave the step of a statement that has no result, unless it failed. -/
def leaveQuietly (word : String) (r : Result Unit) (notes : Entries Value := [])
    (body : Option (List TraceStep) := none) : Do Performed :=
  let failed : Option (Result Value) := match r with
    | .ok () => none
    | .error f => some (.error f)
  return (.mk word failed notes body, r)

/-- A statement that has a result. -/
def valued (word : String) (x : Do Value) : Do Performed := do leave word (← Act.attempt x)

/-- A statement that has no result. -/
def quiet (word : String) (x : Do Unit) : Do Performed := do leaveQuietly word (← Act.attempt x)

/-- Perform a block with something around it: what comes of it, and the steps of the block. -/
def around {γ : Type} (wrap : Do Unit → Do γ) (block : Do (List TraceStep × Result Unit)) :
    Do (Result γ × List TraceStep) := do
  changeHost fun h => { h with block := [] }
  let r ← Act.attempt <| wrap do
    let (steps, r) ← block
    changeHost fun h => { h with block := steps }
    Act.ofResult r
  return (r, (← host).block)

/-- A statement with a block and no result. -/
def blocked (word : String) (wrap : Do Unit → Do Unit) (block : Do (List TraceStep × Result Unit)) :
    Do Performed := do
  let (r, steps) ← around wrap block
  leaveQuietly word r [] (some steps)

/-! ## Pieces of statements -/

/-- The value that is given. -/
def given : Given → Do Value
  | .value v => return v
  | .last => return (← host).last

/-- How things stand. -/
def standing : Do Value := do
  let c ← Act.context
  let h ← Act.hub
  return .dict [("run_id", .ofText? c.run), ("guard", .bool c.guarded),
    ("runs", .ofTexts h.exchange.runIds), ("planners", .ofTexts h.livePlanners.keys)]

/-- What the object around the toolbox shows of itself, and what a model is told about the countries. -/
def shownProxy : Do Value := do
  let box ← toolset .toolbox
  let specs ← Act.ofResult (← toolset .countries).specifications
  let add := box.tool? "add"
  return .dict [("names", .ofTexts box.toolNames), ("repr", .text box.routedShown),
    ("routed_name", .ofText? (add.map (·.name))), ("routed_doc", .ofText? (add.bind (·.documentation))),
    ("specs", .list (specs.map ToolSpec.toValue))]

/-- What is known of the toolbox by a name, as far as it can be shown. -/
def attributeValue (name : String) : Do Value := do
  let s ← toolset .toolbox
  match s.attribute? name with
  | none => throw (Toolset.noAttribute s.kind name)
  | some (.value v) => return v
  | some _ => return .null

/-- What the object around the toolbox knows by a name, as far as it can be shown. -/
def routedValue (name : String) : Do Value := do
  let s ← toolset .toolbox
  match s.routed? name with
  | none => throw (Toolset.noAttribute s.kind name)
  | some (.other (.value v)) => return v
  | some _ => return .null

/-- Add to a value of a scope. -/
def increase (scope : Nat) (key : String) (amount : Value) : Do Value := do
  let found := (← Act.scope scope).read key .null
  let v ← Act.ofResult (Toolbox.add (if found.truthy then found else .int 0) amount)
  Act.writeScope scope key v
  return v

/-- Read a profile from its fields. -/
def profileOf (fields : Entries Value) : Do Profile := Act.ofResult (Profile.check (.dict fields)).toResult

/-- Run a scripted agent: its block has a record and a most recent result of its own. -/
def runScript (name : String) (result : Given) (block : Do (List TraceStep × Result Unit)) : Do Value := do
  let record ← newRecord { name, run := (← Act.context).run }
  let outside := (← host).last
  changeHost fun h => { h with last := .null }
  let (trace, r) ← block
  let v ← given result
  changeHost fun h => { h with
    last := outside, records := h.records.modify record ({ · with trace }) }
  Act.ofResult r
  return v

/-- The list of sub-agents as often as it is wanted. -/
def repeated {γ : Type} (n : Nat) (xs : List γ) : List γ := (List.replicate n xs).flatten

/-- Build a composite around sub-agents. -/
def composite (p : CompositePlan) (agents : List (Agent Routine Outcome Host)) :
    Do (Agent Routine Outcome Host) := do
  let agents := repeated p.repetitions agents
  let profile ← profileOf p.profile
  let c : Composite := { profile, plan := p.plan, workers := p.workers }
  return (← Act.ofResult (c.checkWidth p.activities agents.length)).toAgent agents

/-! ## Statements, blocks and agents -/

mutual

/-- Perform a statement against a scope. -/
def perform (scope : Nat) : Statement → Do Performed
  | .call on c => valued "call" (callOn on c)
  | .chat request => valued "chat" do
    return (← ask 0 (← Act.ofResult (ChatRequest.check request).toResult)).toValue
  | .getAttribute name => valued "getattr" (routedValue name)
  | .setAttribute name value => valued "setattr" do
    changeHost fun h => { h with toolbox := h.toolbox.setAttribute name value }
    attributeValue name
  | .inspect => valued "proxy" shownProxy
  | .write key value => quiet "write" do Act.writeScope scope key (← given value)
  | .read key default => valued "read" do return (← Act.scope scope).read key default
  | .has key => valued "has" do return .bool ((← Act.scope scope).has key)
  | .increase key amount => valued "incr" (increase scope key amount)
  | .fail failure => quiet "raise" (throw failure)
  | .attempt body => do
    let (r, steps) ← around id (performAll scope body)
    return (.mk "try" none [("caught", .bool !r.isOk)] (some steps), .ok ())
  | .guard body => blocked "guard" Act.guarded (performAll scope body)
  | .bind run body => blocked "bind" (Act.bindRun run) (performAll scope body)
  | .setRun run => quiet "set_run" (Act.setRun run)
  | .clear => quiet "clear" (Act.setRun none)
  | .serve agentName body => do
    let n ← Act.newRequest agentName
    let (r, steps) ← around (Act.serving n) (performAll scope body)
    leaveQuietly "scope" r [("run_id", .ofText? (← Act.request n).run)] (some steps)
  | .activate agentName prompts => valued "activate" do
    return .ofText? (← Act.activate agentName prompts.user prompts.system)
  | .startRun agentName prompts run => valued "start_run" do
    return .text (← Act.startRun agentName prompts.user prompts.system run)
  | .finishRun run => quiet "finish_run" (Act.finishRun run)
  | .track name prompts result body => do
    let (r, steps) ← around (Act.tracked name prompts.user prompts.system) (performAll scope body)
    leave "durable" (r.map fun _ => result) [] (some steps)
  | .thread inherits body => do
    let outside ← Act.context
    let start := if inherits then outside else {}
    blocked "thread" (Act.onThread start) (performAll scope body)
  | .inform => valued "info" standing
  | .closeEngine closedStarts closedEvents => quiet "engine" <| Act.changeHub fun h =>
    { h with engine := { h.engine with closedStarts, closedEvents } }
  | .runAgent fresh agent => do
    match ← Act.attempt (build agent) with
    | .error f => leave "run_agent" (.error f)
    | .ok a =>
      let n ← if fresh then Act.newScope {} else pure scope
      leave "run_agent" (← Act.attempt (a.runTracked n)) [("repr", .text a.shown)]
  | .invoke agent => do
    match ← Act.attempt (build agent) with
    | .error f => leave "invoke" (.error f)
    | .ok a =>
      leave "invoke" (← Act.attempt (a.run scope)) [("description", .text a.profile.description)]
termination_by structural s => s

/-- Perform the statements of a block, up to the first that fails. -/
def performAll (scope : Nat) : List Statement → Do (List TraceStep × Result Unit)
  | [] => return ([], .ok ())
  | s :: rest => do
    match ← perform scope s with
    | (step, .error f) => return ([step], .error f)
    | (step, .ok ()) => do
      let (steps, r) ← performAll scope rest
      return (step :: steps, r)
termination_by structural statements => statements

/-- Build an agent. -/
def build : AgentPlan → Do (Agent Routine Outcome Host)
  | .script fields result body => do
    let profile ← profileOf fields
    return { kind := "ScriptAgent", profile
             invoke := fun n => runScript profile.name result (performAll n body) }
  | .bare fields => return .bare (← profileOf fields)
  | .talker fields replies tools rounds => do
    let profile ← profileOf fields
    newTalker profile.name profile replies tools rounds
  | .research replies => do
    let writer ← newTalker "research" Research.writer replies (some .countries) defaultToolRounds
    return Research.pipeline.toAgent [writer]
  | .composite plan agents => do composite plan (← buildAll agents)
termination_by structural a => a

/-- Build agents. -/
def buildAll : List AgentPlan → Do (List (Agent Routine Outcome Host))
  | [] => return []
  | a :: rest => do
    let agent ← build a
    return agent :: (← buildAll rest)
termination_by structural agents => agents

end

/-- Perform the statements of a program: a failure ends only the statement that it comes from. -/
def performEach (scope : Nat) : List Statement → Do (List TraceStep)
  | [] => return []
  | s :: rest => do
    let (step, _) ← perform scope s
    return step :: (← performEach scope rest)

end Rendezvous.Program
