import Rendezvous.Hub.Lifecycle
import Rendezvous.Hub.Turns

/-!
# Agents

An agent has a profile and does its work against the scope of an invocation.  Whoever wants the work done
runs the agent, which also writes the result to the scope, if the profile names a key for it.

Where agents take turns they are known by their seats, so that a planner need not know what they do.
-/

namespace Rendezvous

/-- The place of an agent among those that take turns. -/
structure Seat where
  position : Nat
  profile : Profile

/-- An agent; `invoke` is its work against the scope with a number. -/
structure Agent (κ α ω : Type) where
  kind : String
  profile : Profile
  invoke : Nat → Act κ α Seat ω Value

namespace Act

variable {κ α β ω : Type}

/-- A scope. -/
def scope (n : Nat) : Act κ α β ω Scope := return (← hub).scope n

/-- Store a value in a scope. -/
def writeScope (n : Nat) (key : String) (value : Value) : Act κ α β ω Unit :=
  changeHub fun h => { h with scopes := h.scopes.modify n (Scope.write key value) }

end Act

namespace Agent

variable {κ α ω : Type}

/-- How an agent shows itself. -/
def shown (a : Agent κ α ω) : String := a.profile.introduction a.kind

/-- Run an agent. -/
def run (a : Agent κ α ω) (scope : Nat) : Act κ α Seat ω Value := do
  let v ← a.invoke scope
  match Text.given? a.profile.outputKey with
  | some key => Act.writeScope scope key v
  | none => pure ()
  return v

/-- Run an agent inside a run of its own, unless the thread already belongs to one. -/
def runTracked (a : Agent κ α ω) (scope : Nat) : Act κ α Seat ω Value :=
  Act.tracked a.profile.name a.profile.userMessage a.profile.systemMessage (a.run scope)

/-- An agent whose work has not been written. -/
def bare (profile : Profile) : Agent κ α ω where
  kind := "AgentBase"
  profile := profile
  invoke _ := throw (.of (.notImplemented "AgentBase must implement invoke()"))

/-- The agents with their seats. -/
def seats (agents : List (Agent κ α ω)) : List Seat :=
  agents.zipIdx.map fun (a, position) => { position, profile := a.profile }

end Agent
end Rendezvous
