import Rendezvous.Hub.Act
import Rendezvous.Text.Given

/-!
# The life of runs

A run is one tracked execution of an agent.  It is registered before its workflow is started, so the
first event can never reach a run that nobody knows, and it is forgotten when the event that ends it has
been sent, or could not be.  Runs begin in two ways: an agent is tracked (`tracked`), or the first routed
call of a request needs one (`activate`, inside `serving`).

`tracked_of_bound` says that work which already belongs to a run joins it.
-/

namespace Rendezvous.Act

variable {κ α β ω γ : Type}

/-- Start a workflow on the engine. -/
def startWorkflow (workflow : String) (payload : Value) (id : String) : Act κ α β ω Unit :=
  onEngine (Engine.start workflow payload id)

/-- Draw an id for a run. -/
def drawRun : Act κ α β ω String := do
  let n := (← hub).runsDrawn + 1
  changeHub fun h => { h with runsDrawn := n }
  return "run-" ++ toString n

/-- Forget a run. -/
def dropRun (id : String) : Act κ α β ω Unit :=
  onExchange fun e => ((), e.dropRun id)

/-- Start a run: register it, then start its workflow.  A run whose workflow cannot be started is
forgotten again. -/
def startRun (agentName : String) (userMessage systemMessage : Option String)
    (run : Option String := none) : Act κ α β ω String := do
  let id ← match Text.given? run with
    | some id => pure id
    | none => drawRun
  onExchange fun e => ((), e.createRun id)
  let start : RunStart := { runId := id, agentName, userMessage, systemMessage }
  match ← attempt (startWorkflow Names.runWorkflow start.toValue id) with
  | .ok () => return id
  | .error f => dropRun id; throw f

/-- End a run: send the event that ends it and forget it. -/
def finishRun (id : String) : Act κ α β ω Unit :=
  andFinally (onEngine (Engine.raise id .finish)) (dropRun id)

/-! ## Tracked work -/

/-- Do some work inside a run of its own, unless it already belongs to one. -/
def tracked (agentName : String) (userMessage systemMessage : Option String) (x : Act κ α β ω γ) :
    Act κ α β ω γ := do
  match (← context).run with
  | some _ => x
  | none =>
    let id ← startRun agentName userMessage systemMessage
    andFinally (bindRun (some id) x) (finishRun id)

/-! ## Requests -/

/-- The name of a run that nobody has named. -/
def defaultAgentName : String := "standalone"

/-- A new request: its number. -/
def newRequest (agentName : Option String) : Act κ α β ω Nat := do
  let n := (← hub).requests.length
  changeHub fun h => { h with requests := h.requests ++ [{ agentName }] }
  return n

/-- A request. -/
def request (n : Nat) : Act κ α β ω Request := return (← hub).requests.getD n {}

/-- Serve a request.  The run that it has started, if any, ends with it, and from then on the thread
belongs to no run. -/
def serving (n : Nat) (x : Act κ α β ω γ) : Act κ α β ω γ := do
  let r ← attempt (within (fun c => { c with request := some n })
    (fun before after => { after with request := before.request }) x)
  match (← request n).run with
  | none => pure ()
  | some id => andFinally (finishRun id) (setRun none)
  ofResult r

/-- The run of the request that the thread serves, which is started if there is none yet; nothing
outside of requests.  The thread belongs to the run from here on. -/
def activate (agentName userMessage systemMessage : Option String) :
    Act κ α β ω (Option String) := do
  match (← context).request with
  | none => return none
  | some n =>
    let q ← request n
    let id ← match q.run with
      | some id => pure id
      | none =>
        let name := Text.orElse agentName (Text.orElse q.agentName defaultAgentName)
        let id ← startRun name userMessage systemMessage
        changeHub fun h => { h with requests := h.requests.modify n fun q => { q with run := some id } }
        pure id
    setRun (some id)
    return some id

/-! ## Lemmas -/

/-- Work that already belongs to a run joins it. -/
theorem tracked_of_bound {w : World κ α β ω} {id : String} (h : w.context.run = some id)
    (agentName : String) (userMessage systemMessage : Option String) (x : Act κ α β ω γ) :
    tracked agentName userMessage systemMessage x w = x w := by
  simp only [tracked, bind, context, h]

end Rendezvous.Act
