import Rendezvous.Contract.Names

/-!
# What an orchestration asks for

The course of an orchestration is a tree of requests: each request leads to what follows it, and the
answers of conditions choose between branches.  `Drive.of` builds the tree of every topology.  The tree
is unfolded as it is walked, since a loop may have no end in sight.
-/

namespace Rendezvous

/-- A request to one of the activities that serve orchestrations. -/
inductive OrchestrationRequest where
  | step (order : StepOrder)
  | checkExit (order : ExitOrder)
  | checkCondition (order : ConditionOrder)
  | complete (plannerId : String)
  deriving Repr, DecidableEq

namespace OrchestrationRequest

/-- The name of the activity. -/
def activity : OrchestrationRequest → String
  | step _ => Names.executeStep
  | checkExit _ => Names.checkExit
  | checkCondition _ => Names.checkCondition
  | complete _ => Names.complete

/-- What the activity is given. -/
def input : OrchestrationRequest → Value
  | step order => order.toValue
  | checkExit order => order.toValue
  | checkCondition order => order.toValue
  | complete plannerId => .text plannerId

end OrchestrationRequest

/-- The course of an orchestration. -/
inductive Drive where
  | finish
  /-- An iteration of a loop begins. -/
  | iteration (n : Nat) (next : Unit → Drive)
  /-- A sub-agent is to run. -/
  | step (order : StepOrder) (next : Drive)
  /-- Several sub-agents are to run at the same time. -/
  | steps (orders : List StepOrder) (next : Drive)
  /-- A sub-agent is left out. -/
  | skip (index : Nat) (next : Drive)
  /-- Whether the loop is to end. -/
  | checkExit (order : ExitOrder) (next : Bool → Drive)
  /-- Whether a sub-agent is to run. -/
  | checkCondition (order : ConditionOrder) (next : Bool → Drive)

namespace Drive

variable (plannerId : String)

/-- The sub-agents in order. -/
def sequence : List Nat → Drive
  | [] => finish
  | i :: rest => step { plannerId, agentIndex := i } (sequence rest)

/-- All sub-agents at once. -/
def parallel (indices : List Nat) : Drive :=
  steps (indices.map fun i => { plannerId, agentIndex := i }) finish

/-- The sub-agents whose conditions hold, in order. -/
def conditional : List Nat → Drive
  | [] => finish
  | i :: rest => checkCondition { plannerId, agentIndex := i } fun holds =>
      if holds then step { plannerId, agentIndex := i } (conditional rest)
      else skip i (conditional rest)

/-- End here if the exit condition holds, and go on otherwise. -/
def unlessExit (iteration : Nat) (next : Unit → Drive) : Drive :=
  checkExit { plannerId, iteration } fun holds => if holds then finish else next ()

/-- The rest of a pass of a loop through its sub-agents; the exit condition is asked after each of them
or only at the end. -/
def pass (atEnd : Bool) (iteration : Nat) (next : Unit → Drive) : List Nat → Drive
  | [] => if atEnd then unlessExit plannerId iteration next else next ()
  | i :: rest =>
    step { plannerId, agentIndex := i, iteration } <|
      if atEnd then pass atEnd iteration next rest
      else unlessExit plannerId iteration fun () => pass atEnd iteration next rest

/-- What remains of a loop that has come to an iteration and may begin a number of them. -/
def loop (atEnd : Bool) (indices : List Nat) : (remaining iteration : Nat) → Drive
  | 0, _ => finish
  | remaining + 1, n =>
    iteration n fun () => pass plannerId atEnd n (fun () => loop atEnd indices remaining (n + 1)) indices

/-- The course of an orchestration of each topology. -/
def of (s : OrchestrationStart) : Drive :=
  let indices := List.range s.agentCount
  match s.topology with
  | .sequence => sequence s.plannerId indices
  | .parallel => parallel s.plannerId indices
  | .conditional => conditional s.plannerId indices
  | .loop => loop s.plannerId s.testExitAtLoopEnd indices s.maxIterations 1

end Drive
end Rendezvous
