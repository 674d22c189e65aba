import Rendezvous.Hub.Lifecycle
import Rendezvous.Profile
import Rendezvous.Value.Shown

/-!
# Taking turns

A planner on the hub stands between two sides.  On one side are the activities that serve its
orchestration: a step starts a run for its agent, submits the agent, and waits until the turn of the
agent has ended (`beginStep`, `endStep`).  On the other side is the planning loop: it starts the
orchestration (`firstAction`), ends the turn of one agent after the other (`nextAction`), or gives up
(`abort`).  A planner is alive from the moment it is initialized until the loop has been told that the
orchestration has ended, could not start it, or has given up.

Where the loop would wait for the queue, its action is missing; `look` is what it goes on with once
there is something in the queue.
-/

namespace Rendezvous

/-- A step whose agent has been submitted. -/
structure OpenStep where
  order : StepOrder
  agentName : String
  slot : Nat

namespace OpenStep

/-- The report of a step whose agent has had its turn. -/
def report (s : OpenStep) : StepReport where
  agentIndex := s.order.agentIndex
  agentName := s.agentName
  runId := s.order.runId

end OpenStep

namespace Hub

variable {κ α β : Type}

/-- A planner. -/
def planner (n : Nat) (h : Hub κ α β) : Planner β :=
  h.planners.getD n { plan := { id := "", topology := .sequence } }

/-- Change a planner. -/
def setPlanner (n : Nat) (p : Planner β) (h : Hub κ α β) : Hub κ α β :=
  { h with planners := h.planners.set n p }

/-- A scope. -/
def scope (n : Nat) (h : Hub κ α β) : Scope := h.scopes.getD n {}

/-- Leave an outcome in a slot of a turn. -/
def assignTurn (outcome : Result Unit) (h : Hub κ α β) (slot : Nat) : Hub κ α β :=
  { h with turns := h.turns.modify slot (Slot.assign outcome) }

end Hub

namespace Act

variable {κ α β ω : Type}

/-! ## Planners -/

/-- A planner. -/
def planner (n : Nat) : Act κ α β ω (Planner β) := return (← hub).planner n

/-- Change a planner. -/
def setPlanner (n : Nat) (p : Planner β) : Act κ α β ω Unit := changeHub (·.setPlanner n p)

/-- A new scope: its number. -/
def newScope (s : Scope) : Act κ α β ω Nat := do
  let n := (← hub).scopes.length
  changeHub fun h => { h with scopes := h.scopes ++ [s] }
  return n

/-- Make a planner; its id is drawn if it has none. -/
def newPlanner (plan : PlannerPlan) : Act κ α β ω Nat := do
  let id ← match Text.given? (some plan.id) with
    | some id => pure id
    | none => do
      let n := (← hub).plannersDrawn + 1
      changeHub fun h => { h with plannersDrawn := n }
      pure ("planner-" ++ toString n)
  let n := (← hub).planners.length
  changeHub fun h => { h with planners := h.planners ++ [{ plan := { plan with id } }] }
  return n

/-- Give a planner its agents and its scope, and let activities find it. -/
def initPlanner (n : Nat) (agents : List β) (scope : Nat) : Act κ α β ω Unit := do
  let p ← planner n
  setPlanner n (p.init agents scope)
  changeHub fun h => { h with livePlanners := Entries.put p.plan.id n h.livePlanners }

/-- The thread belongs to no run any more, and activities do not find the planner any more. -/
def leavePlanner (n : Nat) : Act κ α β ω Unit := do
  setRun none
  let p ← planner n
  changeHub fun h => { h with livePlanners := Entries.erase p.plan.id h.livePlanners }

/-! ## The side of the activities -/

/-- The complaint that a planner is not there. -/
def noPlanner (id : String) (known : List String) : Failure :=
  .of (.bridgeState ("No planner found for ID: " ++ id ++ ". Registered IDs: " ++ listLiteral known))

/-- Find a planner. -/
def findPlanner (id : String) : Act κ α β ω Nat := do
  let live := (← hub).livePlanners
  match Entries.get? id live with
  | some n => return n
  | none => throw (noPlanner id live.keys)

/-- Submit an agent for a turn: the slot that is assigned when the turn has ended. -/
def submit (n : Nat) (agent : β) (run : Option String) : Act κ α β ω Nat := do
  let slot := (← hub).turns.length
  changeHub fun h => { h with turns := h.turns ++ [.pending] }
  setPlanner n ((← planner n).submit { agent, slot, run })
  return slot

/-- Begin a step: start a run for its agent and submit the agent. -/
def beginStep (profile : β → Profile) (o : StepOrder) : Act κ α β ω OpenStep := do
  let n ← findPlanner o.plannerId
  match (← planner n).agentAt o.agentIndex with
  | .error f => throw (.because (.bridgeState f.message) f)
  | .ok agent =>
    let p := profile agent
    let _ ← startRun p.name p.userMessage p.systemMessage (some o.runId)
    let slot ← submit n agent (some o.runId)
    return { order := o, agentName := p.name, slot }

/-- End a step, once the turn of its agent has ended: its run ends however the turn went. -/
def endStep (s : OpenStep) : Act κ α β ω StepReport := do
  andFinally (do ofSlot ((← hub).turns.getD s.slot .pending)) (finishRun s.order.runId)
  return s.report

/-- Ask the exit condition of a planner. -/
def askExit (o : ExitOrder) : Act κ α β ω Bool := do
  let h ← hub
  ofResult ((h.planner (← findPlanner o.plannerId)).checkExit h.scope o.iteration)

/-- Ask the condition of an agent. -/
def askCondition (o : ConditionOrder) : Act κ α β ω Bool := do
  let h ← hub
  ofResult ((h.planner (← findPlanner o.plannerId)).checkCondition h.scope o.agentIndex)

/-- Tell a planner that its orchestration has ended; one that is gone has nothing left to be told. -/
def completePlanner (id : String) : Act κ α β ω Unit := do
  match Entries.get? id (← hub).livePlanners with
  | some n => setPlanner n (← planner n).complete
  | none => pure ()

/-! ## The side of the loop -/

/-- Look into the queue of a planner. -/
def look (n : Nat) : Act κ α β ω (Option (LoopAction β)) := do
  match (← planner n).drain with
  | none => return none
  | some (action, p) =>
    setPlanner n p
    if action.isDone then leavePlanner n
    match Planner.boundRun action with
    | some run => setRun (some run)
    | none => pure ()
    return some action

/-- The next action, after an acknowledgement. -/
def turn (n : Nat) : Act κ α β ω (Option (LoopAction β)) := do
  let p := (← planner n).countDown
  setPlanner n p
  if p.isWaiting then return some .noOp else look n

/-- Start the orchestration of a planner and look for the first batch. -/
def firstAction (n : Nat) : Act κ α β ω (Option (LoopAction β)) := do
  let p ← planner n
  let started ← attempt do
    let start ← ofResult p.start
    startWorkflow (Names.orchestrationWorkflow p.plan.topology) start.toValue p.plan.id
  match started with
  | .ok () => turn n
  | .error f => leavePlanner n; throw f

/-- The turn of an agent has ended: acknowledge it, and look what comes next. -/
def nextAction (n : Nat) : Act κ α β ω (Option (LoopAction β)) := do
  setRun none
  let (slot, p) := (← planner n).acknowledge
  setPlanner n p
  changeHub fun h => slot.toList.foldl (Hub.assignTurn (.ok ())) h
  turn n

/-- Give up: every slot that the planner knows of fails. -/
def abort (n : Nat) (f : Failure) : Act κ α β ω Unit := do
  let (slots, p) := (← planner n).abort
  setPlanner n p
  changeHub fun h => slots.foldl (Hub.assignTurn (.error f)) h
  leavePlanner n

end Act
end Rendezvous
