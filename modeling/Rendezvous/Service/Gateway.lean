import Rendezvous.Contract.Names

/-!
# The gateway to the workflow engine

Agent threads start workflows, raise events and ask for transcripts and statuses through a gateway,
which hands each request to the loop that its connection belongs to and waits for the answer.  On the
thread of that very loop it would wait for ever, so there it refuses.

The engine itself is reduced to what it can do to the gateway: take a request or fail it.  A gateway
keeps a record of what has reached the engine.
-/

namespace Rendezvous

/-- The questions that the workflows answer. -/
inductive EngineQuery where
  | transcript
  | runStatus
  | orchestrationStatus
  deriving Repr, DecidableEq

namespace EngineQuery

/-- The name of a question. -/
def name : EngineQuery → String
  | transcript => Names.transcriptQuery
  | runStatus => Names.runStatusQuery
  | orchestrationStatus => Names.orchestrationStatusQuery

/-- An answer has to fit the question. -/
def check (answer : Value) : EngineQuery → Checked Value
  | transcript => (Transcript.check answer).map Transcript.toValue
  | runStatus => (RunStatus.check answer).map RunStatus.toValue
  | orchestrationStatus => (OrchestrationStatus.check answer).map OrchestrationStatus.toValue

end EngineQuery

/-- What has reached the engine. -/
inductive EngineContact where
  | connected (address namespaceName : String)
  | started (workflow : String) (start : RunStart) (id taskQueue : String)
  /-- A running workflow was looked up. -/
  | found (id : String)
  | signalled (id : String) (event : RunEvent)
  | asked (id : String) (query : EngineQuery)

/-- How the engine treats what reaches it: its failures, and its answers to questions by name. -/
structure EngineConduct where
  connecting : Option Failure := none
  starting : Option Failure := none
  signalling : Option Failure := none
  answers : Entries Value := []

/-- A connection to the engine, and the record of what has reached it. -/
structure Gateway where
  taskQueue : String
  conduct : EngineConduct
  record : List EngineContact

namespace Gateway

/-- Connect to the engine; a failure to connect comes with advice. -/
def connect (address namespaceName taskQueue : String) (conduct : EngineConduct) :
    List EngineContact × Result Gateway :=
  let record := [.connected address namespaceName]
  (record, match conduct.connecting with
    | none => .ok { taskQueue, conduct, record }
    | some f => .error (.because (.breakdown ("Failed to connect to Temporal at " ++ address ++ ": "
        ++ f.message ++ ". Make sure Temporal server is running. "
        ++ "For local development, run: temporal server start-dev")) f))

/-- Note a contact. -/
def note (contact : EngineContact) (g : Gateway) : Gateway := { g with record := g.record ++ [contact] }

/-- The refusal on the thread of the gateway's own loop. -/
def ownLoop : Failure := .of (.breakdown ("TemporalWorkflowGateway called from its own event loop "
  ++ "thread. Run agents in a worker thread, e.g. with asyncio.to_thread()."))

/-- Let the engine take a request, or refuse or fail it. -/
def hand (onLoop : Bool) (failure : Option Failure) (contact : EngineContact) (g : Gateway) :
    Result Unit × Gateway :=
  if onLoop then (.error ownLoop, g)
  else match failure with
    | some f => (.error f, g)
    | none => (.ok (), g.note contact)

/-- Start a workflow. -/
def schedule (onLoop : Bool) (workflow : String) (start : RunStart) (id : String) (g : Gateway) :
    Result Unit × Gateway :=
  g.hand onLoop g.conduct.starting (.started workflow start id g.taskQueue)

/-- Raise an event in a workflow. -/
def raise (onLoop : Bool) (id : String) (event : RunEvent) (g : Gateway) : Result Unit × Gateway :=
  (g.note (.found id)).hand onLoop g.conduct.signalling (.signalled id event)

/-- Ask a workflow a question. -/
def ask (id : String) (query : EngineQuery) (g : Gateway) : Result Value × Gateway :=
  let answer := (Entries.get? query.name g.conduct.answers).getD .null
  ((query.check answer).toResult, (g.note (.found id)).note (.asked id query))

/-- On the thread of its own loop a gateway lets nothing through. -/
theorem hand_ownLoop (failure : Option Failure) (contact : EngineContact) (g : Gateway) :
    g.hand true failure contact = (.error ownLoop, g) := rfl

end Gateway
end Rendezvous
