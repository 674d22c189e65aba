import Rendezvous.Value
import Rendezvous.Failure
import Rendezvous.Digest.NamedId
import Rendezvous.Settings
import Rendezvous.Text.Given

/-!
# Tracing

A tracer records spans: pieces of work with a name, each on a trace.  All spans of one run are on one
trace, whose id is made from the run's id; a span without a run gets a trace of its own.  A tracer
without credentials records nothing.  Whatever goes wrong while recording is left out of the record and
never reaches the work that is recorded.
-/

namespace Rendezvous

/-- How a tracer reaches the service that keeps its record. -/
structure TraceClient where
  publicKey : String
  secretKey : String
  location : String
  deriving Repr, DecidableEq

/-- The parts of the service that are out of order. -/
structure TraceFaults where
  start : Bool := false
  update : Bool := false
  flush : Bool := false
  deriving Repr, DecidableEq

/-- The span that work is inside of. The trace of a span without a run has an id drawn at random, and
is left open here. -/
structure TraceContext where
  trace : Option String
  run : Option String
  span : String
  observation : Option Nat
  deriving Repr, DecidableEq

/-- An entry of the record. Observations are numbered from one. -/
inductive TraceEntry where
  | started (observation : Nat) (span : String) (metadata : Entries Value) (trace : Option String)
  | updated (observation : Nat) (output : Value)
  | ended (observation : Nat) (failure : Option Reason)
  | flushed
  /-- The context at this point, noted by the work itself. -/
  | noted (context : Option TraceContext)
  /-- A failure that left a span, noted by the work itself. -/
  | left (failure : Failure)
  /-- Whether this tracer is the one that others use by default, noted by the work itself. -/
  | byDefault (holds : Bool)

/-- A tracer and its record so far, the latest entry first. -/
structure Tracer where
  client : Option TraceClient := none
  faults : TraceFaults := {}
  observations : Nat := 0
  record : List TraceEntry := []

namespace Tracer

/-- A tracer with the given credentials or else those of the settings; it is off without both keys. -/
def of (publicKey secretKey location : Option String) (enabled : Bool) (s : Settings)
    (faults : TraceFaults) : Tracer :=
  let publicKey := Text.orElse publicKey s.tracePublic
  let secretKey := Text.orElse secretKey s.traceSecret
  if enabled && publicKey != "" && secretKey != "" then
    { client := some { publicKey, secretKey, location := Text.orElse location s.traceLocation }, faults }
  else { faults }

/-- Whether the tracer records anything. -/
def isEnabled (t : Tracer) : Bool := t.client.isSome

/-- Add an entry to the record. -/
def add (entry : TraceEntry) (t : Tracer) : Tracer := { t with record := entry :: t.record }

/-- The id of the trace of a run. -/
def traceId (runId : String) : String := Digest.namedId Digest.locators ("durable-agents:" ++ runId)

/-- The trace of a span: that of its run, if it has one. -/
def traceOf? (run : Option String) : Option String := (Text.given? run).map traceId

/-- Begin a span: its observation, if it could be started, and the context inside of it. -/
def openSpan (span : String) (run : Option String) (metadata : Entries Value)
    (outside : Option TraceContext) (t : Tracer) : Option Nat × Option TraceContext × Tracer :=
  if !t.isEnabled then (none, outside, t)
  else
    let trace := traceOf? run
    if t.faults.start then (none, some { trace, run, span, observation := none }, t)
    else
      let n := t.observations + 1
      (some n, some { trace, run, span, observation := some n },
        { t with observations := n }.add (.started n span metadata trace))

/-- End a span, with the reason of the failure that left it. -/
def closeSpan (observation : Option Nat) (failure : Option Reason) (t : Tracer) : Tracer :=
  match observation with
  | some n => t.add (.ended n failure)
  | none => t

/-- Record the output of a span. -/
def recordOutput (observation : Option Nat) (output : Value) (t : Tracer) : Tracer :=
  match observation with
  | some n => if t.faults.update then t else t.add (.updated n output)
  | none => t

/-- Send what has been recorded. -/
def flush (t : Tracer) : Tracer := if t.isEnabled && !t.faults.flush then t.add .flushed else t

end Tracer
end Rendezvous
