import Rendezvous.Hub.Turns

/-!
# A planner worked by hand

A session takes one planner through its life a step at a time: steps of the activities, steps of the
planning loop, and questions.  The loop has a thread of its own; where it comes to wait for the queue it
is parked, and takes no step of its own until there is something in the queue.  A step activity has a
thread of its own too, which waits until the turn of its agent has ended.

`Session.take` is one step: what it does itself, then the activities that can end now, then the loop if it
was parked and can go on.
-/

namespace Rendezvous

/-- A step of a session. -/
inductive SessionStep where
  | init (agents : List Profile) (state : Entries Value)
  | readState
  | write (key : String) (value : Value)
  | agentAt (index : Int)
  /-- Submit an agent without a step. -/
  | submit (agent : Profile) (run : Option String)
  /-- Tell the planner that the orchestration has ended. -/
  | complete
  | checkExit (iteration : Int)
  | checkCondition (index : Int)
  /-- Let the engine refuse all starts, or all events. -/
  | closeEngine (starts events : Bool)
  /-- Start a step activity. -/
  | startStep (o : StepOrder)
  | askExit (o : ExitOrder)
  | askCondition (o : ConditionOrder)
  /-- The activity that ends an orchestration. -/
  | completePlanner (id : String)
  | firstAction
  | nextAction
  | abort (failure : Failure)
  | setRun (run : Option String)

/-- What a step of a session answers. -/
inductive SessionReply where
  | value (v : Value)
  | agent (p : Profile)
  | action (a : LoopAction Profile)
  /-- The loop is parked from now on. -/
  | parked
  /-- The loop was parked already. -/
  | refused

/-- What a session keeps beside the hub. -/
structure SessionState where
  planner : Nat := 0
  /-- The thread of the loop. -/
  loop : Context := {}
  isParked : Bool := false
  /-- The slots of agents that were submitted without a step. -/
  submitted : List Nat := []
  /-- How many step activities have been started. -/
  started : Nat := 0
  /-- The step activities that have not ended yet, by their numbers. -/
  waiting : List (Nat × Result OpenStep) := []

/-- All that happened in a step of a session. -/
structure SessionAnswer where
  reply : Result SessionReply
  /-- The step activities that have ended. -/
  finished : List (Nat × Result StepReport) := []
  /-- The action that a parked loop has gone on with. -/
  resumed : Option (LoopAction Profile) := none

namespace Session

/-- An action of a session. -/
abbrev Do := Act Unit Unit Profile SessionState

/-- The state of the session. -/
def state : Do SessionState := return (← Act.world).host

/-- Change the state of the session. -/
def changeState (f : SessionState → SessionState) : Do Unit :=
  Act.change fun w => { w with host := f w.host }

/-! ## The thread of the loop -/

/-- Do something on the thread of the loop. -/
def onLoop {γ : Type} (x : Do γ) : Do γ := do
  Act.onThread (← state).loop <| Act.andFinally x do
    let loop ← Act.context
    changeState fun s => { s with loop }

/-- Do something on the thread of the loop, unless it is parked. -/
def unlessParked (x : Do SessionReply) : Do SessionReply := do
  if (← state).isParked then return .refused else onLoop x

/-- The answer with an action; without one the loop is parked. -/
def actionReply : Option (LoopAction Profile) → Do SessionReply
  | some a => return .action a
  | none => do
    changeState fun s => { s with isParked := true }
    return .parked

/-- Let a parked loop go on, if there is something in the queue. -/
def resume : Do (Option (LoopAction Profile)) := do
  let s ← state
  if s.isParked then
    let action ← onLoop (Act.look s.planner)
    changeState fun s => { s with isParked := action.isNone }
    return action
  else return none

/-! ## The activities -/

/-- Start a step activity: its number. -/
def startStep (o : StepOrder) : Do Nat := do
  let number := (← state).started
  changeState fun s => { s with started := number + 1 }
  let opened ← Act.attempt (Act.onThread {} (Act.beginStep id o))
  changeState fun s => { s with waiting := s.waiting ++ [(number, opened)] }
  return number

/-- End those of some step activities that have failed to begin or whose agents have had their turns; the
others go on waiting. -/
def endSteps : List (Nat × Result OpenStep) → Do (List (Nat × Result StepReport))
  | [] => pure []
  | (number, .error f) :: rest => return (number, .error f) :: (← endSteps rest)
  | (number, .ok step) :: rest => do
    if ((← Act.hub).turns.getD step.slot .pending).isDone then
      let r ← Act.attempt (Act.onThread {} (Act.endStep step))
      return (number, r) :: (← endSteps rest)
    else
      changeState fun s => { s with waiting := s.waiting ++ [(number, .ok step)] }
      endSteps rest

/-! ## Steps -/

/-- What a step does itself. -/
def perform (n : Nat) (p : Planner Profile) : SessionStep → Do SessionReply
  | .init agents state => do
    Act.initPlanner n agents (← Act.newScope (Scope.of state []))
    return .value (.ofTexts (agents.map (·.name)))
  | .readState => do
    return .value (.dict ((← Act.hub).scope (← Act.ofResult p.scopeNumber)).snapshot)
  | .write key value => do
    let scope ← Act.ofResult p.scopeNumber
    Act.changeHub fun h => { h with scopes := h.scopes.modify scope (Scope.write key value) }
    return .value .null
  | .agentAt index => return .agent (← Act.ofResult (p.agentAt index))
  | .submit agent run => do
    let slot ← Act.submit n agent run
    let number := (← state).submitted.length
    changeState fun s => { s with submitted := s.submitted ++ [slot] }
    return .value (.ofNat number)
  | .complete => do
    Act.setPlanner n p.complete
    return .value .null
  | .checkExit iteration => do
    return .value (.bool (← Act.ofResult (p.checkExit (← Act.hub).scope iteration)))
  | .checkCondition index => do
    return .value (.bool (← Act.ofResult (p.checkCondition (← Act.hub).scope index)))
  | .closeEngine starts events => do
    Act.changeHub fun h => { h with engine := { h.engine with
      closedStarts := if starts then ["*"] else [], closedEvents := if events then ["*"] else [] } }
    return .value .null
  | .startStep o => return .value (.ofNat (← startStep o))
  | .askExit o => return .value (.bool (← Act.askExit o))
  | .askCondition o => return .value (.bool (← Act.askCondition o))
  | .completePlanner id => do
    Act.completePlanner id
    return .value .null
  | .firstAction => unlessParked do actionReply (← Act.firstAction n)
  | .nextAction => unlessParked do actionReply (← Act.nextAction n)
  | .abort failure => unlessParked do
    Act.abort n failure
    return .value .null
  | .setRun run => unlessParked do
    Act.setRun run
    return .value .null

/-- Take a step; what could not be read as one fails and does nothing. -/
def take (step : Result SessionStep) : Do SessionAnswer := do
  let n := (← state).planner
  let reply ← Act.attempt do perform n (← Act.planner n) (← Act.ofResult step)
  let waiting := (← state).waiting
  changeState fun s => { s with waiting := [] }
  return { reply, finished := ← endSteps waiting, resumed := ← resume }

end Session
end Rendezvous
