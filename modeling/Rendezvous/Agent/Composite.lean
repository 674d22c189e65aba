import Rendezvous.Agent.Basic
import Rendezvous.Hub.Pacing

/-!
# Composites

A composite is an agent that lets other agents take turns, as an orchestration of its own says.  Its result
is the value under its output key, or else all of the shared state.
-/

namespace Rendezvous

/-- How a composite lets its sub-agents take turns. -/
structure Composite where
  profile : Profile
  plan : PlannerPlan
  /-- How many sub-agents may run at the same time; zero stands for no limit. -/
  workers : Option Int := none

namespace Composite

variable {κ α ω : Type}

/-- The complaint about a composite that would leave no activity for the calls of its sub-agents. -/
def tooWide (name : String) (width : Nat) (limit : Int) : Failure :=
  .of (.badValue ("Parallel agent " ++ name ++ " has " ++ toString width
    ++ " sub-agent(s); the worker runs at most " ++ toString limit
    ++ " activities at once and needs a spare thread for their calls"))

/-- All sub-agents of a parallel composite occupy an activity at the same time, and one more is needed for
their calls. -/
def checkWidth (limit : Int) (width : Nat) (c : Composite) : Result Composite :=
  if c.plan.topology = .parallel && limit ≤ width then .error (tooWide c.profile.name width limit)
  else .ok c

/-- Let a sub-agent run. -/
def runSeat (agents : List (Agent κ α ω)) (scope : Nat) (s : Seat) : Act κ α Seat ω Unit :=
  match agents[s.position]? with
  | some a => do let _ ← a.run scope
  | none => pure ()

/-- Let the sub-agents take turns. -/
def invoke (c : Composite) (agents : List (Agent κ α ω)) (scope : Nat) : Act κ α Seat ω Value := do
  let planner ← Act.newPlanner c.plan
  Act.initPlanner planner (Agent.seats agents) scope
  Act.pace { planner, workers := c.workers, profile := Seat.profile, run := runSeat agents scope }
  let s ← Act.scope scope
  match Text.given? c.profile.outputKey with
  | some key => return s.read key .null
  | none => return .dict s.snapshot

/-- A composite as an agent. -/
def toAgent (c : Composite) (agents : List (Agent κ α ω)) : Agent κ α ω where
  kind := "OrchestratedAgent"
  profile := c.profile
  invoke := c.invoke agents

end Composite
end Rendezvous
