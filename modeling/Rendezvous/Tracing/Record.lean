import Rendezvous.Tracing.Tracer
import Rendezvous.Failure.Report

/-!
# The record of a tracer as data

Observations are shown by their numbers.  The id of a trace that was drawn at random is not shown.
-/

namespace Rendezvous

/-- The id of an observation. -/
def observationId (n : Nat) : String := "obs-" ++ toString n

/-- What is shown of the id of a trace. -/
def shownTrace (trace : Option String) : String := trace.getD "<random>"

/-- A context as data. -/
def TraceContext.toValue (c : TraceContext) : Value := .dict [
  ("trace_id", .text (shownTrace c.trace)), ("run_id", .ofText? c.run), ("span_name", .text c.span),
  ("observation_id", .ofText? (c.observation.map observationId))]

/-- An entry as data. -/
def TraceEntry.toValue : TraceEntry → Value
  | started n span metadata trace => .list [.text "start", .text (observationId n), .text span,
      .text "span", .dict metadata, .text (shownTrace trace)]
  | updated n output => .list [.text "update", .text (observationId n), output]
  | ended n failure =>
    .list [.text "end", .text (observationId n), .ofText? (failure.map Reason.kindName)]
  | flushed => .list [.text "flush"]
  | noted context => .list [.text "context", (context.map TraceContext.toValue).getD .null]
  | left failure => .list [.text "raised", failure.toValue]
  | byDefault holds => .list [.text "default", .bool holds]

/-- A client as data. -/
def TraceClient.toValue (c : TraceClient) : Value := .list [.text "client", .dict [
  ("public_key", .text c.publicKey), ("secret_key", .text c.secretKey),
  ("base_url", .text c.location)]]

/-- All that a tracer has recorded, the oldest entry first. -/
def Tracer.shownRecord (t : Tracer) : Value :=
  .list ((t.client.map TraceClient.toValue).toList ++ t.record.reverse.map TraceEntry.toValue)

end Rendezvous
