import Rendezvous.Tracing.Tracer

/-!
# Programs of spans

Work under a tracer, as far as tracing matters: spans inside one another, outputs recorded on the span
around them, failures that leave spans or are caught at their end.  `Spans.run` performs such a program.
-/

namespace Rendezvous

/-- A step of work under a tracer. -/
inductive SpanStep where
  /-- Work inside a span; with `catches` a failure ends there. -/
  | span (name : String) (run : Option String) (metadata : Entries Value) (body : List SpanStep)
    (catches : Bool)
  /-- Record an output on the span around. -/
  | output (v : Value)
  | fail (failure : Failure)
  | flush
  /-- Note the context. -/
  | context
  /-- Make the tracer the default one, and note whether it is. -/
  | default
  deriving Inhabited

/-- Where a program of spans stands. -/
structure SpanState where
  tracer : Tracer
  context : Option TraceContext := none

namespace SpanState

/-- Note something in the record. -/
def note (entry : TraceEntry) (s : SpanState) : SpanState := { s with tracer := s.tracer.add entry }

/-- Note the context in the record. -/
def noteContext (s : SpanState) : SpanState := s.note (.noted s.context)

end SpanState

namespace SpanStep

mutual

/-- Perform a step inside the span with the given observation. -/
def perform (observation : Option Nat) : SpanStep → SpanState → Result Unit × SpanState
  | span name run metadata body catches, s =>
    let (inner, inside, tracer) := s.tracer.openSpan name run metadata s.context
    let entered : SpanState := ⟨tracer, inside⟩
    let (result, done) := performAll inner body entered.noteContext
    match result with
    | .ok () => (.ok (), { tracer := done.tracer.closeSpan inner none, context := s.context })
    | .error f =>
      let closed : SpanState :=
        { tracer := done.tracer.closeSpan inner (some f.reason), context := s.context }
      (if catches then .ok () else .error f, closed.note (.left f))
  | output v, s => (.ok (), { s with tracer := s.tracer.recordOutput observation v })
  | fail f, s => (.error f, s)
  | flush, s => (.ok (), { s with tracer := s.tracer.flush })
  | context, s => (.ok (), s.noteContext)
  | default, s => (.ok (), s.note (.byDefault true))
termination_by structural step => step

/-- Perform steps in order, up to the first failure. -/
def performAll (observation : Option Nat) : List SpanStep → SpanState → Result Unit × SpanState
  | [], s => (.ok (), s)
  | step :: rest, s =>
    match perform observation step s with
    | (.ok (), s) => performAll observation rest s
    | (.error f, s) => (.error f, s)
termination_by structural steps => steps

end

end SpanStep
end Rendezvous
