import Rendezvous.Hub.Act
import Rendezvous.Value.Shown

/-!
# The call activity

The workflow of a run orders a call by its run and its id.  The activity finds the pending call, performs
the captured operation as a guarded one, so that it is not routed again, and leaves the outcome in the
slot that the caller waits on.  The outcome is left before the report is made, so the caller never waits
for the report.

Whatever goes wrong in the operation reaches the caller as it is; the activity itself fails with a report
of it.  A run or a call that is not there is beyond repair.
-/

namespace Rendezvous

/-- How captured calls are performed, and the text that is kept of what comes of them. -/
structure Performer (κ α β ω : Type) where
  perform : κ → Act κ α β ω α
  text : α → Option String

namespace Act

variable {κ α β ω γ : Type}

/-- Work inside a span; it is given the observation to record its output on. -/
def inSpan (name : String) (run : Option String) (metadata : Entries Value)
    (x : Option Nat → Act κ α β ω γ) : Act κ α β ω γ := do
  let outside := (← context).span
  let (observation, inside) ← onTracer fun t =>
    let (observation, inside, t) := t.openSpan name run metadata outside
    ((observation, inside), t)
  changeContext fun c => { c with span := inside }
  let r ← attempt (x observation)
  changeContext fun c => { c with span := outside }
  let reason : Option Reason := match r with
    | .ok _ => none
    | .error f => some f.reason
  onTracer fun t => ((), t.closeSpan observation reason)
  ofResult r

/-- The complaint that a run is not there. -/
def noRun (runId : String) (known : List String) : Failure :=
  .of (.bridgeState ("No pending-call table found for run: " ++ runId ++ ". Registered runs: "
    ++ listLiteral known))

/-- The complaint that a call is not there. -/
def noCall (runId callId : String) : Failure :=
  .of (.bridgeState ("No pending call found for call id: " ++ callId ++ " in run: " ++ runId))

/-- Find the table of a run and a call in it. -/
def findCall (runId callId : String) : Act κ α β ω (Nat × Pending κ) := do
  let exchange := (← hub).exchange
  match exchange.tableOf? runId with
  | none => throw (noRun runId exchange.runIds)
  | some t =>
    match (exchange.table t).call? callId with
    | none => throw (noCall runId callId)
    | some p => return (t, p)

/-- Execute a pending call. -/
def executeCall (h : Performer κ α β ω) (o : CallOrder) : Act κ α β ω CallReport := do
  let (t, p) ← findCall o.runId o.callId
  let metadata : Entries Value := [("call_id", .text o.callId), ("payload", .ofText? o.payload)]
  inSpan o.operation (some o.runId) metadata fun observation => do
    match ← attempt (guarded (h.perform p.call)) with
    | .error f =>
      let cause := f.rootCause
      let _ ← onExchange fun e => e.settle t o.callId (.error cause)
      throw (.because (.callExecution o.operation o.runId o.callId) cause)
    | .ok a =>
      let _ ← onExchange fun e => e.settle t o.callId (.ok a)
      let text := h.text a
      onTracer fun tracer => ((), tracer.recordOutput observation (.ofText? text))
      return { operation := o.operation, payload := o.payload, resultText := text }

end Act
end Rendezvous
