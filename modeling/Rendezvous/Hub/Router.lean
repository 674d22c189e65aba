import Rendezvous.Hub.Lifecycle
import Rendezvous.Hub.Execution

/-!
# Routing

A call on a wrapped object is either performed on the spot or turned into a pending call, which the
workflow of the run orders back from the call activity while the caller waits.  It is performed on the
spot if it is guarded, which makes it the very execution that the activity has asked for, if it belongs
to no run and to no request, or if its run is not there.

The engine hands every event that orders a call to the call activity at once, on a thread of its own.
`route_of_guarded` says that a guarded call is not routed.
-/

namespace Rendezvous

/-- What there is to know about a call before it is routed. -/
structure RoutedCall (κ : Type) where
  kind : EventKind
  call : κ
  operation : String
  payload : Option String
  /-- The prompts of a run that the call has to start. -/
  userMessage : Option String := none
  systemMessage : Option String := none

namespace Act

variable {κ α β ω : Type}

/-- Raise an event that orders a call; the engine has it executed. -/
def raiseCall (h : Performer κ α β ω) (id : String) (event : RunEvent) : Act κ α β ω Unit := do
  let position := (← hub).engine.record.length
  onEngine (Engine.raise id event)
  match (CallOrder.ofEvent id event).toResult with
  | .error _ => pure ()
  | .ok order =>
    let answer ← attempt (onThread {} (executeCall h order))
    changeHub fun hub => { hub with engine := hub.engine.answer position answer }

/-- Draw an id for a call. -/
def drawCall : Act κ α β ω String := do
  let n := (← hub).callsDrawn + 1
  changeHub fun h => { h with callsDrawn := n }
  return "call-" ++ toString n

/-- Have a call executed by the workflow of a run, and wait for the outcome. -/
def rendezvous (h : Performer κ α β ω) (run : String) (table : Nat) (c : RoutedCall κ) :
    Act κ α β ω α := do
  let callId ← drawCall
  let (slot, exchange) ← ofResult ((← hub).exchange.register table callId c.call)
  changeHub fun hub => { hub with exchange }
  match ← attempt (raiseCall h run (.call c.kind callId c.operation c.payload)) with
  | .ok () => await slot
  | .error f =>
    let _ ← onExchange fun e => e.settle table callId (.error f)
    throw f

/-- The run that a call belongs to: that of the thread, or else that of the request it serves. -/
def runOf (c : RoutedCall κ) : Act κ α β ω (Option String) := do
  match (← context).run with
  | some run => return some run
  | none => activate none c.userMessage c.systemMessage

/-- Route a call. -/
def route (h : Performer κ α β ω) (c : RoutedCall κ) : Act κ α β ω α := do
  if (← context).guarded then h.perform c.call
  else match ← runOf c with
    | none => h.perform c.call
    | some run =>
      match (← hub).exchange.tableOf? run with
      | none => h.perform c.call
      | some table => rendezvous h run table c

/-- The execution that the activity has asked for is not routed again. -/
theorem route_of_guarded {w : World κ α β ω} (hw : w.context.guarded = true)
    (h : Performer κ α β ω) (c : RoutedCall κ) : route h c w = h.perform c.call w := by
  simp [route, bind, context, hw]

end Act
end Rendezvous
