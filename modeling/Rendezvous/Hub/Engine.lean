import Rendezvous.Contract.Names
import Rendezvous.Orchestration.Workflow

/-!
# The workflow engine

The engine as far as the hub sees it: it takes requests to start workflows and events for them, unless
it cannot reach the workflow, and it keeps a record of what it has taken.
-/

namespace Rendezvous

/-- Something that the engine has taken. -/
inductive EngineEntry where
  | started (workflow : String) (payload : Value) (id : String)
  /-- An event, and how the call that it orders went. -/
  | raised (id : String) (event : RunEvent) (answer : Option (Result CallReport))

/-- What an orchestration did. -/
structure OrchestrationRecord where
  plannerId : String
  requests : List OrchestrationRequest := []
  ending : Option OrchestrationEnd := none
  /-- The sub-agents whose steps wait for their turns. -/
  waiting : List Nat := []

/-- The engine. -/
structure Engine where
  /-- The ids of workflows that cannot be started; a star stands for all of them. -/
  closedStarts : List String := []
  /-- The ids of workflows that no event reaches; a star stands for all of them. -/
  closedEvents : List String := []
  record : List EngineEntry := []
  orchestrations : List OrchestrationRecord := []

namespace Engine

/-- Whether an id is among some. -/
def covers (ids : List String) (id : String) : Bool := ids.contains "*" || ids.contains id

/-- Start a workflow. -/
def start (workflow : String) (payload : Value) (id : String) (e : Engine) : Result Engine :=
  if covers e.closedStarts id then
    .error (.of (.unreachable ("Cannot start " ++ workflow ++ " " ++ id)))
  else .ok { e with record := e.record ++ [.started workflow payload id] }

/-- Raise an event; it is at the end of the record. -/
def raise (id : String) (event : RunEvent) (e : Engine) : Result Engine :=
  if covers e.closedEvents id then
    .error (.of (.unreachable ("Workflow " ++ id ++ " is unreachable")))
  else .ok { e with record := e.record ++ [.raised id event none] }

/-- Note how the call went that an event ordered. -/
def answer (position : Nat) (r : Result CallReport) (e : Engine) : Engine :=
  { e with record := e.record.modify position fun
      | .raised id event _ => .raised id event (some r)
      | entry => entry }

/-- Note something about an orchestration. -/
def noteOrchestration (number : Nat) (f : OrchestrationRecord → OrchestrationRecord) (e : Engine) :
    Engine :=
  { e with orchestrations := e.orchestrations.modify number f }

end Engine
end Rendezvous
