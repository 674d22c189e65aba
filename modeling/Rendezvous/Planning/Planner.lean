import Rendezvous.Condition
import Rendezvous.Contract.Orchestration

/-!
# Planners

A planner keeps an orchestration and the loop that runs its agents in step.  The orchestration submits
agents to a queue; the loop drains the queue, and what it finds there at one time is a batch.  Every
agent of a batch has to be acknowledged before the loop looks into the queue again.  A notice in the
queue that the orchestration has ended ends the loop, and takes whatever else is in the queue with it.

Each submission comes with a slot, which the step of the orchestration waits on.  The planner only says
which slots are to be assigned: the one of the agent whose turn has ended (`acknowledge`), or all that
are left (`abort`).

`isWaiting_countDown`, `drain_eq_none_iff` and `abort_openSlots` say when the loop looks into the queue,
when it has to wait there, and that an abort leaves no slot open.
-/

namespace Rendezvous

/-- An agent that has been submitted for a turn. -/
structure Submission (α : Type) where
  agent : α
  /-- Assigned when the turn has ended. -/
  slot : Nat
  run : Option String

/-- What is in the queue of a planner. -/
inductive Notice (α : Type) where
  | turn (s : Submission α)
  /-- The orchestration has ended. -/
  | complete

/-- What the loop is to do next. -/
inductive LoopAction (α : Type) where
  | call (batch : List (Submission α))
  | noOp
  | done

namespace LoopAction

variable {α : Type}

/-- The name of an action. -/
def name : LoopAction α → String
  | call _ => "call"
  | noOp => "no_op"
  | done => "done"

/-- The agents to run. -/
def batch : LoopAction α → List (Submission α)
  | call b => b
  | _ => []

/-- Whether the loop is to end. -/
def isDone : LoopAction α → Bool
  | done => true
  | _ => false

end LoopAction

/-- What a planner is made with. -/
structure PlannerPlan where
  id : String
  topology : Topology
  /-- The limit of a loop and where it asks its exit condition, as they were given; what makes no sense
  is refused when the orchestration is started. -/
  maxIterations : Value := .ofNat unboundedIterations
  testExitAtLoopEnd : Value := .bool false
  exitCondition : Option Condition := none
  /-- The conditions of sub-agents, by their positions. -/
  conditions : List (Int × Condition) := []

/-- A planner. -/
structure Planner (α : Type) where
  plan : PlannerPlan
  agents : List α := []
  /-- The scope that the agents share, once the planner has been initialized. -/
  scope : Option Nat := none
  queue : List (Notice α) := []
  /-- The slots of the batch behind the current one. -/
  pending : List Nat := []
  /-- The slot of the agent whose turn it is. -/
  current : Option Nat := none
  /-- How many acknowledgements are missing. -/
  outstanding : Int := 0

namespace Planner

variable {α : Type}

/-! ## The agents -/

/-- Bind the agents and the scope. -/
def init (agents : List α) (scope : Nat) (p : Planner α) : Planner α :=
  { p with agents, scope := some scope }

/-- The agent at a position; positions below zero count from the end. -/
def agentAt (index : Int) (p : Planner α) : Result α :=
  let position := if index < 0 then index + p.agents.length else index
  match if position < 0 then none else p.agents[position.toNat]? with
  | some agent => .ok agent
  | none => .error (.of (.plannerState ("Planner " ++ p.plan.id ++ " has no agent at index "
      ++ toString index ++ " (" ++ toString p.agents.length ++ " agent(s))")))

/-- The complaint about a planner that has no scope yet. -/
def notInitialized (p : Planner α) : Failure :=
  .of (.plannerState ("Planner " ++ p.plan.id ++ " has not been initialized"))

/-- The scope, which only a planner that has been initialized has. -/
def scopeNumber (p : Planner α) : Result Nat :=
  match p.scope with
  | some n => .ok n
  | none => .error p.notInitialized

/-- Ask a condition that may be missing; `otherwise` is the answer of a missing one. -/
def ask (scopeAt : Nat → Scope) (iteration : Int) (otherwise : Bool) (condition : Option Condition)
    (p : Planner α) : Result Bool :=
  match condition with
  | none => .ok otherwise
  | some c => p.scopeNumber.bind fun n => c.verdict (scopeAt n) iteration

/-- Whether the loop is to end; without an exit condition it is not. -/
def checkExit (scopeAt : Nat → Scope) (iteration : Int) (p : Planner α) : Result Bool :=
  p.ask scopeAt iteration false p.plan.exitCondition

/-- Whether the agent at a position is to run; without a condition it is. -/
def checkCondition (scopeAt : Nat → Scope) (index : Int) (p : Planner α) : Result Bool :=
  p.ask scopeAt 0 true (p.plan.conditions.lookup index)

/-- What the orchestration of the planner is started with. -/
def start (p : Planner α) : Result OrchestrationStart :=
  (OrchestrationStart.check (.dict [
    ("planner_id", .text p.plan.id), ("topology", .text p.plan.topology.name),
    ("agent_count", .ofNat p.agents.length), ("max_iterations", p.plan.maxIterations),
    ("test_exit_at_loop_end", p.plan.testExitAtLoopEnd)])).toResult

/-! ## The side of the orchestration -/

/-- Put something into the queue. -/
def put (n : Notice α) (p : Planner α) : Planner α := { p with queue := p.queue ++ [n] }

/-- Submit an agent. -/
def submit (s : Submission α) (p : Planner α) : Planner α := p.put (.turn s)

/-- Tell the loop that the orchestration has ended. -/
def complete (p : Planner α) : Planner α := p.put .complete

/-! ## The side of the loop -/

/-- The turn of the current agent has ended: the slot to assign, if there is one. -/
def acknowledge (p : Planner α) : Option Nat × Planner α :=
  (p.current, { p with current := p.pending.head?, pending := p.pending.tail })

/-- One acknowledgement less is missing. -/
def countDown (p : Planner α) : Planner α := { p with outstanding := p.outstanding - 1 }

/-- Whether acknowledgements are missing, so that the loop must not look into the queue. -/
def isWaiting (p : Planner α) : Bool := 0 < p.outstanding

/-- The submissions in a queue; none if it holds the notice that the orchestration has ended. -/
def turns? : List (Notice α) → Option (List (Submission α))
  | [] => some []
  | .complete :: _ => none
  | .turn s :: rest => (turns? rest).map (s :: ·)

/-- Hand out a batch. -/
def dispatch (batch : List (Submission α)) (p : Planner α) : Planner α :=
  let slots := p.pending ++ batch.map (·.slot)
  { p with outstanding := batch.length, current := slots.head?, pending := slots.tail }

/-- Take all there is in the queue; nothing comes of it as long as it is empty. -/
def drain (p : Planner α) : Option (LoopAction α × Planner α) :=
  match p.queue with
  | [] => none
  | notices =>
    let p := { p with queue := [] }
    match turns? notices with
    | none => some (.done, p)
    | some batch => some (.call batch, p.dispatch batch)

/-- The run that the loop's own thread belongs to after an action: that of an agent on its own. -/
def boundRun : LoopAction α → Option String
  | .call [s] => s.run
  | _ => none

/-- The slots of a queue. -/
def slotsOf (notices : List (Notice α)) : List Nat :=
  notices.filterMap fun
    | .turn s => some s.slot
    | .complete => none

/-- Give up: the slots that are to fail. -/
def abort (p : Planner α) : List Nat × Planner α :=
  (p.current.toList ++ p.pending ++ slotsOf p.queue,
    { p with current := none, pending := [], outstanding := 0, queue := [] })

/-! ## What the transitions do -/

/-- The slots that the planner still knows of. -/
def openSlots (p : Planner α) : List Nat := p.current.toList ++ p.pending ++ slotsOf p.queue

/-- The loop has to wait exactly when nothing is in the queue. -/
theorem drain_eq_none_iff (p : Planner α) : p.drain = none ↔ p.queue = [] := by
  unfold drain
  cases p.queue with
  | nil => simp
  | cons n rest => simp only [reduceCtorEq, iff_false]; split <;> simp

/-- After a batch has been handed out, the loop may look again after as many acknowledgements as there
are agents in it. -/
theorem isWaiting_countDown (p : Planner α) : p.countDown.isWaiting = decide (1 < p.outstanding) := by
  have h : 0 < p.outstanding - 1 ↔ 1 < p.outstanding := by omega
  simp only [countDown, isWaiting, h]

theorem outstanding_dispatch (batch : List (Submission α)) (p : Planner α) :
    (p.dispatch batch).outstanding = batch.length := rfl

/-- An abort fails every slot that the planner knows of and leaves none open. -/
theorem abort_openSlots (p : Planner α) :
    p.abort.1 = p.openSlots ∧ p.abort.2.openSlots = [] := ⟨rfl, rfl⟩

/-- A submission opens its slot. -/
theorem openSlots_submit (s : Submission α) (p : Planner α) :
    (p.submit s).openSlots = p.openSlots ++ [s.slot] := by
  simp [openSlots, submit, put, slotsOf]

end Planner
end Rendezvous
