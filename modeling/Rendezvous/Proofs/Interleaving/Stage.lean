import Rendezvous.Hub.Pacing

/-!
# An orchestration under every schedule

`Act.pace` lets the two sides of a planner go on in one fixed order.  Here they are threads that go on
in any order: the workflow of the orchestration, the activities that serve it, the planning loop, and the
agents whose turn it is.  A `Stage` is all that these threads share together with the place where each of
them stands, and `Step` is one atomic step of any of them.  What the threads do to the planner are the
operations of `Planner`; what the workflow asks for is the tree of `Drive.of`.

* `LoopStep` is the planning loop: it names and starts the orchestration, looks into the queue, lets a
  batch run, and acknowledges it or gives up.
* `FlowStep` is the workflow, together with the one activity that it may be waiting for when it asks a
  condition or releases the loop.
* `ErrandStep` is the step activity: finding the planner, starting the run, submitting the agent, waiting
  for its turn, and ending the run are steps of their own, so another thread may come between any two.

The loop takes the notices of the queue one by one until none is left.  A submission that comes meanwhile
is taken too, and nobody else takes from the queue, so this is the same as taking all of them at the
moment when the loop finds the queue empty; that is the one step `LoopStep.call` or `LoopStep.stop`.

What agents do is left open (`Behaviour`): a leaf of the agents' tree and a whole composite are
behaviours alike.  The engine may fail as far as `Ensemble.engine` permits it to.
-/

namespace Rendezvous

set_option autoImplicit false

/-- What somebody does, step by step, to something that is shared. -/
structure Behaviour (σ : Type) where
  State : Type
  start : State
  /-- One atomic step; others may step in between. -/
  Step : State → σ → State → σ → Prop
  /-- What has come of it, once something has.  Threads of its own may go on after that. -/
  result? : State → Option (Result Value)

/-- An orchestration, and those who take part in it. -/
structure Ensemble (β σ : Type) where
  /-- What the planner is made with; its id is drawn. -/
  plan : PlannerPlan
  agents : List β
  profile : β → Profile
  behaviour : β → Behaviour σ
  workers : Option Int := none
  /-- The scope that conditions are asked about. -/
  scopeOf : σ → Scope
  /-- What may come of an operation of the engine. -/
  engine : Result Unit → Prop

namespace Ensemble

variable {β σ : Type} (e : Ensemble β σ)

/-- The planner once it has been initialized. -/
def planner (id : String) : Planner β :=
  ({ plan := { e.plan with id } } : Planner β).init e.agents 0

/-- The turn of an agent, and how far it has come. -/
structure Turn where
  submission : Submission β
  state : (e.behaviour submission.agent).State

/-- The turn that a submission is for. -/
def Turn.of (s : Submission β) : e.Turn := ⟨s, (e.behaviour s.agent).start⟩

/-- What has come of a turn. -/
def Turn.result? {e : Ensemble β σ} (t : e.Turn) : Option (Result Value) :=
  (e.behaviour t.submission.agent).result? t.state

/-- Where the planning loop stands. -/
inductive Loop where
  /-- The planner has no id yet. -/
  | unnamed
  /-- The orchestration is to be started. -/
  | opening
  /-- One acknowledgement less is missing from here on; the loop wants to make `left` more. -/
  | counting (left : Nat)
  /-- The loop waits for the queue. -/
  | looking
  /-- A batch runs. -/
  | running (batch : List e.Turn)
  | acknowledging (left : Nat)
  /-- The slot of the agent that has been acknowledged is to be assigned. -/
  | assigning (slot : Option Nat) (left : Nat)
  /-- The loop gives up: the slots that are still to fail. -/
  | failing (slots : List Nat) (failure : Failure)
  /-- The planner is to be forgotten. -/
  | leaving (outcome : Result Unit)
  | ended (outcome : Result Unit)
  /-- A batch that the loop could not let run at all. -/
  | refused

/-- Where a step activity stands. -/
inductive Errand (β : Type) where
  | ordered (order : StepOrder)
  /-- The planner and the agent have been found. -/
  | found (order : StepOrder) (agent : β)
  /-- The run of the step has been started. -/
  | begun (order : StepOrder) (agent : β)
  /-- The agent has been submitted. -/
  | waiting (step : OpenStep)
  /-- The turn of the agent has ended, its run has not. -/
  | ending (step : OpenStep) (turn : Result Unit)
  | finished (order : StepOrder) (outcome : Result StepReport)

/-- What the workflow may ask about. -/
inductive Question where
  | exit (order : ExitOrder)
  | condition (order : ConditionOrder)

/-- What a planner answers. -/
def Question.answer (p : Planner β) (s : Scope) : Question → Result Bool
  | exit o => p.checkExit (fun _ => s) o.iteration
  | condition o => p.checkCondition (fun _ => s) o.agentIndex

/-- How far an activity other than a step has come. -/
inductive Visit (α : Type) where
  | ordered
  /-- The planner has been found. -/
  | found
  | finished (outcome : α)

/-- Where the workflow stands. -/
inductive Flow where
  | unscheduled
  | going (d : Drive)
  /-- So many steps have not been reported yet. -/
  | stepping (missing : Nat) (next : Drive)
  | checking (q : Question) (visit : Visit (Result Bool)) (next : Bool → Drive)
  /-- The loop is being released, however the drive has gone. -/
  | releasing (visit : Visit Unit) (failure : Option Failure)
  | finished (failure : Option Failure)

/-- What the threads share, and where each of them stands. -/
structure Stage where
  planner : Planner β
  /-- Whether activities find the planner. -/
  live : Bool := true
  slots : List (Slot Unit) := []
  flow : Flow := .unscheduled
  progress : Progress := {}
  errands : List (Errand β) := []
  loop : e.Loop := .unnamed
  /-- The turns that are over, whose threads may go on. -/
  retired : List e.Turn := []
  /-- The steps that the workflow has ordered so far. -/
  orders : List StepOrder := []
  /-- The submissions so far, by their slots. -/
  submitted : List (Submission β) := []
  /-- What has come of the turns, in the order in which the loop saw it. -/
  taken : List (Submission β × Result Value) := []
  /-- What was in the queue when the loop found the notice that the orchestration has ended. -/
  dropped : List (Notice β) := []

/-- Before anything has happened. -/
def opening : e.Stage := { planner := e.planner e.plan.id }

variable {e}

/-- Whether the batch cannot be run at all: a pool cannot have a negative size. -/
def Refuses (e : Ensemble β σ) (batch : List (Submission β)) : Prop :=
  batch.length ≠ 1 ∧ e.workers.any (· < 0)

/-- What has come of all turns of a batch. -/
def outcomes? (batch : List e.Turn) : Option (List (Result Value)) := batch.mapM Turn.result?

/-- The loop takes note of what has come of a batch. -/
def Stage.note (s : e.Stage) (batch : List e.Turn) (outcomes : List (Result Value)) : e.Stage :=
  { s with
    retired := s.retired ++ batch
    taken := s.taken ++ (batch.map Turn.submission).zip outcomes }

/-- A submission with a slot of its own. -/
def Stage.submission (s : e.Stage) (o : StepOrder) (agent : β) : Submission β where
  agent := agent
  slot := s.slots.length
  run := some o.runId

/-- An agent is submitted for an order. -/
def Stage.submit (s : e.Stage) (o : StepOrder) (agent : β) : e.Stage :=
  { s with
    slots := s.slots ++ [.pending]
    submitted := s.submitted ++ [s.submission o agent]
    planner := s.planner.submit (s.submission o agent) }

/-! ## Steps -/

/-- One step of the planning loop. -/
inductive LoopStep : e.Stage → e.Stage → Prop
  | name (s : e.Stage) (id : String) (at_ : s.loop = .unnamed) :
      LoopStep s { s with
        planner := { s.planner with plan := { s.planner.plan with id } }, loop := .opening }
  | schedule (s : e.Stage) (start : OrchestrationStart) (at_ : s.loop = .opening)
      (valid : s.planner.start = .ok start) (engine : e.engine (.ok ())) :
      LoopStep s { s with loop := .counting 0, flow := .going (.of start) }
  | invalid (s : e.Stage) (f : Failure) (at_ : s.loop = .opening)
      (invalid : s.planner.start = .error f) : LoopStep s { s with loop := .leaving (.error f) }
  | unscheduled (s : e.Stage) (f : Failure) (at_ : s.loop = .opening)
      (engine : e.engine (.error f)) : LoopStep s { s with loop := .leaving (.error f) }
  | count (s : e.Stage) (left : Nat) (at_ : s.loop = .counting left) :
      LoopStep s { s with
        planner := s.planner.countDown
        loop := if s.planner.countDown.isWaiting then .acknowledging left else .looking }
  | call (s : e.Stage) (batch : List (Submission β)) (p : Planner β) (at_ : s.loop = .looking)
      (drained : s.planner.drain = some (.call batch, p)) (runs : ¬ e.Refuses batch) :
      LoopStep s { s with planner := p, loop := .running (batch.map (Turn.of e)) }
  | refuse (s : e.Stage) (batch : List (Submission β)) (p : Planner β) (at_ : s.loop = .looking)
      (drained : s.planner.drain = some (.call batch, p)) (refuses : e.Refuses batch) :
      LoopStep s { s with planner := p, loop := .refused }
  | stop (s : e.Stage) (p : Planner β) (at_ : s.loop = .looking)
      (drained : s.planner.drain = some (.done, p)) :
      LoopStep s { s with
        planner := p, dropped := s.dropped ++ s.planner.queue, loop := .leaving (.ok ()) }
  | finish (s : e.Stage) (batch : List e.Turn) (outcomes : List (Result Value))
      (at_ : s.loop = .running batch) (all : outcomes? batch = some outcomes)
      (none : outcomes.findSome? Act.failure? = none) :
      LoopStep s { s.note batch outcomes with loop := .acknowledging batch.length }
  | giveUp (s : e.Stage) (batch : List e.Turn) (outcomes : List (Result Value)) (f : Failure)
      (at_ : s.loop = .running batch) (all : outcomes? batch = some outcomes)
      (first : outcomes.findSome? Act.failure? = some f) :
      LoopStep s { s.note batch outcomes with
        planner := s.planner.abort.2, loop := .failing s.planner.abort.1 f }
  | acknowledge (s : e.Stage) (left : Nat) (at_ : s.loop = .acknowledging (left + 1)) :
      LoopStep s { s with
        planner := s.planner.acknowledge.2, loop := .assigning s.planner.acknowledge.1 left }
  | assign (s : e.Stage) (slot : Option Nat) (left : Nat) (at_ : s.loop = .assigning slot left) :
      LoopStep s { s with
        slots := slot.toList.foldl (fun slots k => slots.modify k (Slot.assign (.ok ()))) s.slots
        loop := .counting left }
  | failNext (s : e.Stage) (slot : Nat) (rest : List Nat) (f : Failure)
      (at_ : s.loop = .failing (slot :: rest) f) :
      LoopStep s { s with
        slots := s.slots.modify slot (Slot.assign (.error f)), loop := .failing rest f }
  | failed (s : e.Stage) (f : Failure) (at_ : s.loop = .failing [] f) :
      LoopStep s { s with loop := .leaving (.error f) }
  | leave (s : e.Stage) (r : Result Unit) (at_ : s.loop = .leaving r) :
      LoopStep s { s with live := false, loop := .ended r }

/-- One step of the workflow, while the shared state is `x`. -/
inductive FlowStep (x : σ) : e.Stage → e.Stage → Prop
  | iteration (s : e.Stage) (n : Nat) (next : Unit → Drive)
      (at_ : s.flow = .going (.iteration n next)) :
      FlowStep x s { s with
        flow := .going (next ()), progress := { s.progress with iteration := n } }
  | skip (s : e.Stage) (i : Nat) (next : Drive) (at_ : s.flow = .going (.skip i next)) :
      FlowStep x s { s with
        flow := .going next, progress := { s.progress with skipped := s.progress.skipped ++ [i] } }
  | order (s : e.Stage) (o : StepOrder) (next : Drive) (at_ : s.flow = .going (.step o next)) :
      FlowStep x s { s with
        flow := .stepping 1 next, errands := s.errands ++ [.ordered o], orders := s.orders ++ [o] }
  | orderAll (s : e.Stage) (os : List StepOrder) (next : Drive)
      (at_ : s.flow = .going (.steps os next)) :
      FlowStep x s { s with
        flow := .stepping os.length next, errands := s.errands ++ os.map .ordered
        orders := s.orders ++ os }
  | report (s : e.Stage) (i missing : Nat) (o : StepOrder) (r : StepReport) (next : Drive)
      (at_ : s.flow = .stepping (missing + 1) next) (finished : s.errands[i]? = some (.finished o (.ok r))) :
      FlowStep x s { s with
        flow := .stepping missing next, progress := s.progress.report r
        errands := s.errands.eraseIdx i }
  | fail (s : e.Stage) (i missing : Nat) (o : StepOrder) (f : Failure) (next : Drive)
      (at_ : s.flow = .stepping missing next) (finished : s.errands[i]? = some (.finished o (.error f))) :
      FlowStep x s { s with
        flow := .releasing .ordered (some f), errands := s.errands.eraseIdx i }
  | resume (s : e.Stage) (next : Drive) (at_ : s.flow = .stepping 0 next) :
      FlowStep x s { s with flow := .going next }
  | askExit (s : e.Stage) (o : ExitOrder) (next : Bool → Drive)
      (at_ : s.flow = .going (.checkExit o next)) :
      FlowStep x s { s with flow := .checking (.exit o) .ordered next }
  | askCondition (s : e.Stage) (o : ConditionOrder) (next : Bool → Drive)
      (at_ : s.flow = .going (.checkCondition o next)) :
      FlowStep x s { s with flow := .checking (.condition o) .ordered next }
  | find (s : e.Stage) (q : Question) (next : Bool → Drive)
      (at_ : s.flow = .checking q .ordered next) (live : s.live = true) :
      FlowStep x s { s with flow := .checking q .found next }
  | miss (s : e.Stage) (q : Question) (next : Bool → Drive) (known : List String)
      (at_ : s.flow = .checking q .ordered next) (gone : s.live = false) :
      FlowStep x s { s with
        flow := .checking q (.finished (.error (Act.noPlanner s.planner.plan.id known))) next }
  | evaluate (s : e.Stage) (q : Question) (next : Bool → Drive)
      (at_ : s.flow = .checking q .found next) :
      FlowStep x s { s with
        flow := .checking q (.finished (q.answer s.planner (e.scopeOf x))) next }
  | branch (s : e.Stage) (q : Question) (b : Bool) (next : Bool → Drive)
      (at_ : s.flow = .checking q (.finished (.ok b)) next) :
      FlowStep x s { s with flow := .going (next b) }
  | refuse (s : e.Stage) (q : Question) (f : Failure) (next : Bool → Drive)
      (at_ : s.flow = .checking q (.finished (.error f)) next) :
      FlowStep x s { s with flow := .releasing .ordered (some f) }
  | finish (s : e.Stage) (at_ : s.flow = .going .finish) :
      FlowStep x s { s with flow := .releasing .ordered none }
  | findLoop (s : e.Stage) (v : Option Failure) (at_ : s.flow = .releasing .ordered v)
      (live : s.live = true) : FlowStep x s { s with flow := .releasing .found v }
  | missLoop (s : e.Stage) (v : Option Failure) (at_ : s.flow = .releasing .ordered v)
      (gone : s.live = false) : FlowStep x s { s with flow := .releasing (.finished ()) v }
  | release (s : e.Stage) (v : Option Failure) (at_ : s.flow = .releasing .found v) :
      FlowStep x s { s with planner := s.planner.complete, flow := .releasing (.finished ()) v }
  | close (s : e.Stage) (v : Option Failure) (at_ : s.flow = .releasing (.finished ()) v) :
      FlowStep x s { s with flow := .finished v }

/-- One step of a step activity: where it stands before and after. -/
inductive ErrandStep : e.Stage → Errand β → e.Stage → Errand β → Prop
  | find (s : e.Stage) (o : StepOrder) (agent : β) (live : s.live = true)
      (there : s.planner.agentAt o.agentIndex = .ok agent) :
      ErrandStep s (.ordered o) s (.found o agent)
  | miss (s : e.Stage) (o : StepOrder) (known : List String) (gone : s.live = false) :
      ErrandStep s (.ordered o) s (.finished o (.error (Act.noPlanner s.planner.plan.id known)))
  | noAgent (s : e.Stage) (o : StepOrder) (f : Failure) (live : s.live = true)
      (absent : s.planner.agentAt o.agentIndex = .error f) :
      ErrandStep s (.ordered o) s (.finished o (.error (.because (.bridgeState f.message) f)))
  | begin (s : e.Stage) (o : StepOrder) (agent : β) (engine : e.engine (.ok ())) :
      ErrandStep s (.found o agent) s (.begun o agent)
  | unstarted (s : e.Stage) (o : StepOrder) (agent : β) (f : Failure) (engine : e.engine (.error f)) :
      ErrandStep s (.found o agent) s (.finished o (.error f))
  | submit (s : e.Stage) (o : StepOrder) (agent : β) :
      ErrandStep s (.begun o agent) (s.submit o agent)
        (.waiting { order := o, agentName := (e.profile agent).name, slot := s.slots.length })
  | wake (s : e.Stage) (step : OpenStep) (turn : Result Unit)
      (assigned : s.slots[step.slot]? = some (.assigned turn)) :
      ErrandStep s (.waiting step) s (.ending step turn)
  | finish (s : e.Stage) (step : OpenStep) (turn : Result Unit) (engine : e.engine (.ok ())) :
      ErrandStep s (.ending step turn) s (.finished step.order (turn.map fun _ => step.report))
  | unfinished (s : e.Stage) (step : OpenStep) (turn : Result Unit) (f : Failure)
      (engine : e.engine (.error f)) :
      ErrandStep s (.ending step turn) s (.finished step.order (.error f))

/-- One step of any thread, and what it does to the shared state. -/
inductive Step : e.Stage → σ → e.Stage → σ → Prop
  | loop {s t : e.Stage} {x : σ} : LoopStep s t → Step s x t x
  | flow {s t : e.Stage} {x : σ} : FlowStep x s t → Step s x t x
  | errand {s t : e.Stage} {x : σ} {before after : Errand β} (i : Nat)
      (there : s.errands[i]? = some before) (moves : ErrandStep s before t after) :
      Step s x { t with errands := t.errands.set i after } x
  | perform {s : e.Stage} {x y : σ} {batch : List e.Turn} {t : e.Turn}
      {q : (e.behaviour t.submission.agent).State} (i : Nat) (at_ : s.loop = .running batch)
      (there : batch[i]? = some t) (moves : (e.behaviour t.submission.agent).Step t.state x q y) :
      Step s x { s with loop := .running (batch.set i ⟨t.submission, q⟩) } y
  | linger {s : e.Stage} {x y : σ} {t : e.Turn} {q : (e.behaviour t.submission.agent).State} (i : Nat)
      (there : s.retired[i]? = some t)
      (moves : (e.behaviour t.submission.agent).Step t.state x q y) :
      Step s x { s with retired := s.retired.set i ⟨t.submission, q⟩ } y

/-- The stages that any schedule can lead to.  Between two steps, others may change the shared state at
will. -/
inductive Reachable : e.Stage → Prop
  | opening : Reachable e.opening
  | step {s t : e.Stage} {x y : σ} : Reachable s → Step s x t y → Reachable t

end Ensemble
end Rendezvous
