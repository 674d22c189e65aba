import Rendezvous.Contract.Names
import Rendezvous.Failure

/-!
# Workers

A worker process connects to the engine, lets the program set itself up, makes a worker and runs it
until it is interrupted.  However that ends, a worker that was made is shut down and the traces are
sent; an interruption is an ordinary end.

`serve_failure_of_shutdown` says what a failing shutdown does to the rest.
-/

namespace Rendezvous

/-- What a worker is made of. -/
structure WorkerPlan where
  taskQueue : String
  /-- How many activities run at a time; each of them has a thread. -/
  activities : Int := 64
  workflowTasks : Int := 10
  deriving Repr, DecidableEq

/-- What happens in the life of a worker process. -/
inductive WorkerEvent where
  | connected
  | configured
  | made (plan : WorkerPlan)
  | ran
  | shutDown
  | tracesSent
  deriving Repr, DecidableEq

/-- What goes wrong in the life of a worker process. -/
structure WorkerTrouble where
  connecting : Option Failure := none
  configuring : Option Failure := none
  making : Option Failure := none
  running : Option Failure := none
  shuttingDown : Option Failure := none
  interrupted : Bool := false

namespace Worker

/-- A failure that happens, if any. -/
def outcome : Option Failure → Result Unit
  | none => .ok ()
  | some f => .error f

/-- What running comes to: an interruption is an ordinary end. -/
def runOutcome (t : WorkerTrouble) : Result Unit :=
  if t.interrupted then .ok () else outcome t.running

/-- A pool of threads is not empty. -/
def checkPool (plan : WorkerPlan) : Result Unit :=
  if plan.activities < 1 then .error (.of (.badValue "max_workers must be greater than 0")) else .ok ()

/-- The work of the process up to its end: what happened, how it ended, and whether a worker was made. -/
def work (plan : WorkerPlan) (configures : Bool) (t : WorkerTrouble) :
    List WorkerEvent × Result Unit × Bool :=
  match outcome t.connecting with
  | .error f => ([.connected], .error f, false)
  | .ok () =>
    let configured := if configures then [WorkerEvent.configured] else []
    let prepared := do
      if configures then outcome t.configuring
      checkPool plan
    match prepared with
    | .error f => (.connected :: configured, .error f, false)
    | .ok () =>
      let made := .connected :: configured ++ [.made plan]
      match outcome t.making with
      | .error f => (made, .error f, false)
      | .ok () => (made ++ [.ran], runOutcome t, true)

/-- The whole life of a worker process. -/
def serve (plan : WorkerPlan) (configures : Bool) (t : WorkerTrouble) :
    List WorkerEvent × Result Unit :=
  let (events, result, made) := work plan configures t
  if made then
    match outcome t.shuttingDown with
    | .ok () => (events ++ [.shutDown, .tracesSent], result)
    | .error f => (events ++ [.shutDown], .error f)
  else (events ++ [.tracesSent], result)

/-- A failing shutdown takes the place of the result, and the traces are not sent. -/
theorem serve_failure_of_shutdown {plan : WorkerPlan} {configures : Bool} {t : WorkerTrouble}
    {f : Failure} (hf : t.shuttingDown = some f) (hm : (work plan configures t).2.2 = true) :
    serve plan configures t = ((work plan configures t).1 ++ [.shutDown], .error f) := by
  unfold serve
  generalize work plan configures t = w at hm ⊢
  obtain ⟨events, result, made⟩ := w
  simp_all [outcome]

end Worker
end Rendezvous
