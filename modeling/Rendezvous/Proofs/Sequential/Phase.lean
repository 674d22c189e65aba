import Rendezvous.Proofs.Sequential.Reference
import Rendezvous.Proofs.Interleaving.Verdict

/-!
# The phases of an orchestration that orders one step at a time

While one agent at a time is ordered, the threads of an orchestration can stand in few ways towards each
other.  `Active` lists them, with what is going to come of the orchestration and how many steps are left;
`Settled` lists those where the result of the loop is certain and only the workflow has to come to its end.
Each step of any thread leads from one of them to one of them, and the future stays the same
(`Active.step`, `Settled.step`); as long as there is no result, there is a step (`Active.goesOn`).
-/

namespace Rendezvous

set_option autoImplicit false

/-- What a question comes to. -/
def Play.asked (p : Play) : Ensemble.Question → Scope → Bool
  | .exit o => p.ends o.iteration
  | .condition o => p.wants o.agentIndex

/-- How many steps are left after a turn. -/
def Drive.left (p : Play) (o : Scope × Result Value) (next : Drive) : Nat :=
  match o with
  | (y, .ok _) => next.cost p y
  | (_, .error _) => 0

namespace Ensemble

variable {β : Type} {e : Ensemble β Scope} {p : Play}

/-- Those who take part in an orchestration that orders one step at a time, on an engine that does not
fail. -/
structure Cast (e : Ensemble β Scope) (p : Play) where
  single : e.plan.topology ≠ .parallel
  engine : ∀ {r}, e.engine r ↔ r = .ok ()
  scopeOf : ∀ x, e.scopeOf x = x
  workers : e.workers = none
  answers : ∀ q x, e.answer q x = .ok (p.asked q x)
  simulation : ∀ {i : Nat} {agent : β}, e.agents[i]? = some agent →
    Simulation (e.behaviour agent) (p.turn i) (p.effort i)
  meaning : Meaning Unit
  steps : Scope → Nat
  course : ∀ id, ∃ start, (e.planner id).start = .ok start ∧
    (Drive.of start).outcome p = meaning ∧ (Drive.of start).cost p = steps

/-- What is going to come of a turn. -/
def Cast.Busy (c : Cast e p) (t : e.Turn) (x : Scope) (o : Scope × Result Value) (n : Nat) : Prop :=
  ∃ i, ∃ there : e.agents[i]? = some t.submission.agent, (c.simulation there).Busy t.state x o n

/-- How many steps may go on after a turn. -/
def Cast.Rest (c : Cast e p) (t : e.Turn) (n : Nat) : Prop :=
  ∃ i, ∃ there : e.agents[i]? = some t.submission.agent, (c.simulation there).Rest t.state n

/-! ## Where a thread stands -/

/-- The loop has nothing to do but to look into the queue. -/
def Loop.Idle (loop : e.Loop) (n : Nat) : Prop :=
  loop = .counting 0 ∧ n = 1 ∨ loop = .looking ∧ n = 0

/-- The loop has ended, or is about to. -/
def Loop.Leaving (loop : e.Loop) (r : Result Unit) (n : Nat) : Prop :=
  loop = .leaving r ∧ n = 1 ∨ loop = .ended r ∧ n = 0

/-- The loop gives up. -/
def Loop.GivingUp (loop : e.Loop) (f : Failure) (n : Nat) : Prop :=
  (∃ slots, loop = .failing slots f ∧ n = slots.length + 2) ∨ loop.Leaving (.error f) n

/-- An activity that has not given its answer yet. -/
inductive Visit.Open {α : Type} : Visit α → Nat → Prop
  | ordered : Visit.Open .ordered 2
  | found : Visit.Open .found 1

/-- A workflow that has released the loop. -/
def Flow.Closing (flow : Flow) (v : Option Failure) (n : Nat) : Prop :=
  flow = .releasing (.finished ()) v ∧ n = 1 ∨ flow = .finished v ∧ n = 0

/-- A step that has not submitted its agent yet. -/
inductive Errand.Unsent : Errand β → Nat → Prop
  | ordered (o : StepOrder) : Errand.Unsent (.ordered o) 3
  | found (o : StepOrder) (agent : β) : Errand.Unsent (.found o agent) 2
  | begun (o : StepOrder) (agent : β) : Errand.Unsent (.begun o agent) 1

/-- A step whose turn has ended well. -/
inductive Errand.Done (s : e.Stage) : Errand β → Nat → Prop
  | waiting {step : OpenStep} (assigned : s.slots[step.slot]? = some (.assigned (.ok ()))) :
      Errand.Done s (.waiting step) 3
  | ending (step : OpenStep) : Errand.Done s (.ending step (.ok ())) 2
  | finished (o : StepOrder) (r : StepReport) : Errand.Done s (.finished o (.ok r)) 1

/-- A step whose turn cannot end well any more. -/
inductive Errand.Lost (s : e.Stage) : Errand β → Nat → Prop
  | waiting {step : OpenStep} (lost : s.slots[step.slot]? ≠ some (.assigned (.ok ()))) :
      Errand.Lost s (.waiting step) 7
  | ending (step : OpenStep) (f : Failure) : Errand.Lost s (.ending step (.error f)) 6
  | finished (o : StepOrder) (f : Failure) : Errand.Lost s (.finished o (.error f)) 5

/-! ## Phases -/

/-- What is going to come of an orchestration, and how many steps are left. -/
inductive Active (c : Cast e p) (s : e.Stage) (x : Scope) : Scope × Result Unit → Nat → Prop
  | unnamed {n : Nat} (loop : s.loop = .unnamed) (queue : s.planner.queue = [])
      (enough : c.steps x + 3 ≤ n) : Active c s x (c.meaning x) n
  | opening {n : Nat} (loop : s.loop = .opening) (queue : s.planner.queue = [])
      (enough : c.steps x + 2 ≤ n) : Active c s x (c.meaning x) n
  | going {d : Drive} {l n : Nat} (idle : s.loop.Idle l) (queue : s.planner.queue = [])
      (flow : s.flow = .going d) (enough : d.cost p x + l ≤ n) : Active c s x (d.outcome p x) n
  | asking {q : Question} {v : Visit (Result Bool)} {next : Bool → Drive} {l w n : Nat}
      (idle : s.loop.Idle l) (queue : s.planner.queue = []) (flow : s.flow = .checking q v next)
      (asks : v.Open w) (enough : (next (p.asked q x)).cost p x + w + 1 + l ≤ n) :
      Active c s x ((next (p.asked q x)).outcome p x) n
  | answered {q : Question} {b : Bool} {next : Bool → Drive} {l n : Nat}
      (idle : s.loop.Idle l) (queue : s.planner.queue = [])
      (flow : s.flow = .checking q (.finished (.ok b)) next) (enough : (next b).cost p x + 1 + l ≤ n) :
      Active c s x ((next b).outcome p x) n
  | sending {a : Errand β} {next : Drive} {l w n : Nat} (idle : s.loop.Idle l)
      (queue : s.planner.queue = []) (flow : s.flow = .stepping 1 next) (errands : s.errands = [a])
      (unsent : a.Unsent w) (within : a.order.agentIndex < e.agents.length)
      (enough : p.effort a.order.agentIndex x + next.left p (p.turn a.order.agentIndex x) + 20 + w + l ≤ n) :
      Active c s x (andThen (p.turn a.order.agentIndex x) fun _ => next.outcome p) n
  | queued {step : OpenStep} {sub : Submission β} {next : Drive} {l n : Nat} (idle : s.loop.Idle l)
      (queue : s.planner.queue = [.turn sub]) (flow : s.flow = .stepping 1 next)
      (errands : s.errands = [.waiting step]) (slot : sub.slot = step.slot)
      (seat : e.agents[step.order.agentIndex]? = some sub.agent)
      (enough : p.effort step.order.agentIndex x +
        next.left p (p.turn step.order.agentIndex x) + 20 + l ≤ n) :
      Active c s x (andThen (p.turn step.order.agentIndex x) fun _ => next.outcome p) n
  | running {step : OpenStep} {turn : e.Turn} {o : Scope × Result Value} {next : Drive} {k n : Nat}
      (loop : s.loop = .running [turn]) (queue : s.planner.queue = []) (flow : s.flow = .stepping 1 next)
      (errands : s.errands = [.waiting step]) (slot : turn.submission.slot = step.slot)
      (busy : c.Busy turn x o k) (enough : k + next.left p o + 19 ≤ n) :
      Active c s x (andThen o fun _ => next.outcome p) n
  | acknowledging {step : OpenStep} {next : Drive} {n : Nat} (loop : s.loop = .acknowledging 1)
      (queue : s.planner.queue = []) (flow : s.flow = .stepping 1 next)
      (errands : s.errands = [.waiting step]) (turn : s.planner.inTurn = [step.slot])
      (enough : next.cost p x + 18 ≤ n) : Active c s x (next.outcome p x) n
  | assigning {step : OpenStep} {next : Drive} {n : Nat} (loop : s.loop = .assigning (some step.slot) 0)
      (queue : s.planner.queue = []) (flow : s.flow = .stepping 1 next)
      (errands : s.errands = [.waiting step]) (enough : next.cost p x + 17 ≤ n) :
      Active c s x (next.outcome p x) n
  | done {a : Errand β} {next : Drive} {l w n : Nat} (idle : s.loop.Idle l)
      (queue : s.planner.queue = []) (flow : s.flow = .stepping 1 next) (errands : s.errands = [a])
      (done : a.Done s w) (enough : next.cost p x + 1 + w + l ≤ n) : Active c s x (next.outcome p x) n
  | reported {next : Drive} {l n : Nat} (idle : s.loop.Idle l) (queue : s.planner.queue = [])
      (flow : s.flow = .stepping 0 next) (enough : next.cost p x + 1 + l ≤ n) :
      Active c s x (next.outcome p x) n
  | releasing {v : Visit Unit} {l w n : Nat} (idle : s.loop.Idle l) (queue : s.planner.queue = [])
      (flow : s.flow = .releasing v none) (asks : v.Open w) (enough : w + 5 + l ≤ n) :
      Active c s x (x, .ok ()) n
  | released {l w n : Nat} (idle : s.loop.Idle l) (queue : s.planner.queue = [.complete])
      (flow : s.flow.Closing none w) (enough : w + 3 + l ≤ n) : Active c s x (x, .ok ()) n

/-- The result of the loop is certain, and so many steps of the orchestration are left. -/
inductive Settled (s : e.Stage) : Result Unit → Nat → Prop
  | well {l w n : Nat} (loop : s.loop.Leaving (.ok ()) l) (flow : s.flow.Closing none w)
      (enough : w + l ≤ n) : Settled s (.ok ()) n
  | failing {f : Failure} {a : Errand β} {next : Drive} {l w n : Nat} (loop : s.loop.GivingUp f l)
      (flow : s.flow = .stepping 1 next) (errands : s.errands = [a]) (lost : a.Lost s w)
      (enough : w + l ≤ n) : Settled s (.error f) n
  | releasing {f g : Failure} {v : Visit Unit} {l w n : Nat} (loop : s.loop.GivingUp f l)
      (flow : s.flow = .releasing v (some g)) (asks : v.Open w) (enough : w + 1 + l ≤ n) :
      Settled s (.error f) n
  | released {f g : Failure} {l w n : Nat} (loop : s.loop.GivingUp f l)
      (flow : s.flow.Closing (some g) w) (enough : w + l ≤ n) : Settled s (.error f) n

/-- What is going to come of an orchestration, in whichever phase it is. -/
def Future (c : Cast e p) (s : e.Stage) (x : Scope) (o : Scope × Result Unit) (n : Nat) : Prop :=
  Active c s x o n ∨ Settled s o.2 n ∧ o.1 = x

/-- A step that keeps the future and leaves fewer steps.  A turn may be over, and leave some behind. -/
def Onward (c : Cast e p) (s t : e.Stage) (y : Scope) (o : Scope × Result Unit) (n : Nat) : Prop :=
  (t.retired = s.retired ∧ ∃ m < n, Future c t y o m) ∨
    ∃ turn k m, t.retired = s.retired ++ [turn] ∧ c.Rest turn k ∧ Future c t y o m ∧ m + k < n

/-! ## Steps of one thread -/

theorem Loop.Idle.live {s : e.Stage} {l : Nat} (idle : s.loop.Idle l) (reach : Reachable s) :
    s.live = true := by
  cases live : s.live with
  | true => rfl
  | false =>
    have through := reach.notified.gone live
    rcases idle with ⟨loop, -⟩ | ⟨loop, -⟩
    · rw [loop] at through
      cases through
    · rw [loop] at through
      cases through

/-- A loop that has nothing to do looks into the queue, and takes what is there. -/
theorem LoopStep.of_idle {s t : e.Stage} {l : Nat} (step : LoopStep s t) (counted : Counted s)
    (idle : s.loop.Idle l) :
    l = 1 ∧ t = { s with planner := s.planner.countDown, loop := .looking } ∨
    l = 0 ∧ ((∃ batch p, s.planner.drain = some (.call batch, p) ∧
          t = { s with planner := p, loop := .running (batch.map (Turn.of e)) }) ∨
        (∃ batch p, s.planner.drain = some (.call batch, p) ∧ e.Refuses batch) ∨
        ∃ p, s.planner.drain = some (.done, p) ∧
          t = { s with
            planner := p, dropped := s.dropped ++ s.planner.queue, loop := .leaving (.ok ()) }) := by
  cases step with
  | count left at_ =>
    rcases idle with ⟨loop, rfl⟩ | ⟨loop, -⟩
    · obtain rfl : 0 = left := Loop.counting.inj (loop.symm.trans at_)
      have tally := counted.tally
      rw [loop] at tally
      have waits : s.planner.countDown.isWaiting = false := by
        rw [Planner.isWaiting_countDown]
        exact decide_eq_false (by have := tally.2; omega)
      rw [waits]
      exact .inl ⟨rfl, rfl⟩
    · cases loop.symm.trans at_
  | call batch p at_ drained _ =>
    rcases idle with ⟨loop, -⟩ | ⟨-, rfl⟩
    · cases loop.symm.trans at_
    · exact .inr ⟨rfl, .inl ⟨batch, p, drained, rfl⟩⟩
  | refuse batch p at_ drained refuses =>
    rcases idle with ⟨loop, -⟩ | ⟨-, rfl⟩
    · cases loop.symm.trans at_
    · exact .inr ⟨rfl, .inr (.inl ⟨batch, p, drained, refuses⟩)⟩
  | stop p at_ drained =>
    rcases idle with ⟨loop, -⟩ | ⟨-, rfl⟩
    · cases loop.symm.trans at_
    · exact .inr ⟨rfl, .inr (.inr ⟨p, drained, rfl⟩)⟩
  | name id at_ | schedule start at_ _ _ | invalid f at_ _ | unscheduled f at_ _
  | finish batch outcomes at_ _ _ | giveUp batch outcomes f at_ _ _ | acknowledge left at_
  | assign slot left at_ | failNext slot rest f at_ | failed f at_ | leave r at_ =>
    rcases idle with ⟨loop, -⟩ | ⟨loop, -⟩ <;> cases loop.symm.trans at_

/-- Where the loop finds nothing, it can only look again. -/
theorem LoopStep.of_still {s t : e.Stage} {l : Nat} (step : LoopStep s t) (counted : Counted s)
    (idle : s.loop.Idle l) (queue : s.planner.queue = []) :
    l = 1 ∧ t = { s with planner := s.planner.countDown, loop := .looking } := by
  have none : s.planner.drain = none := (Planner.drain_eq_none_iff _).mpr queue
  rcases step.of_idle counted idle with
    looks | ⟨-, ⟨batch, p, drained, -⟩ | ⟨batch, p, drained, -⟩ | ⟨p, drained, -⟩⟩
  · exact looks
  · rw [none] at drained
    cases drained
  · rw [none] at drained
    cases drained
  · rw [none] at drained
    cases drained

theorem errand_of_single {s : e.Stage} {a b : Errand β} {i : Nat} (errands : s.errands = [a])
    (there : s.errands[i]? = some b) : i = 0 ∧ b = a := by
  rw [errands] at there
  cases i with
  | zero => exact ⟨rfl, (Option.some.inj there).symm⟩
  | succ i => cases there

/-- A workflow that counts one step waits for it to be over. -/
theorem FlowStep.of_stepping {x : Scope} {s t : e.Stage} {a : Errand β} {next : Drive}
    (step : FlowStep x s t) (flow : s.flow = .stepping 1 next) (errands : s.errands = [a]) :
    (∃ o r, a = .finished o (.ok r) ∧ t = { s with
        flow := .stepping 0 next, progress := s.progress.report r, errands := [] }) ∨
      ∃ o f, a = .finished o (.error f) ∧ t = { s with
        flow := .releasing .ordered (some f), errands := [] } := by
  cases step with
  | report i missing o r next' at_ finished =>
    obtain ⟨rfl, rfl⟩ := errand_of_single errands finished
    cases flow.symm.trans at_
    exact .inl ⟨o, r, rfl, by simp [errands]⟩
  | fail i missing o f next' at_ finished =>
    obtain ⟨rfl, rfl⟩ := errand_of_single errands finished
    cases flow.symm.trans at_
    exact .inr ⟨o, f, rfl, by simp [errands]⟩
  | iteration n next at_ | skip i next at_ | order o next at_ | orderAll os next at_ | resume next at_
  | askExit o next at_ | askCondition o next at_ | find q next at_ _ | miss q next known at_ _
  | evaluate q next at_ | branch q b next at_ | refuse q f next at_ | finish at_ | findLoop v at_ _
  | missLoop v at_ _ | release v at_ | close v at_ =>
    cases flow.symm.trans at_

/-- A workflow that has released the loop can only come to its end. -/
theorem FlowStep.of_closing {x : Scope} {s t : e.Stage} {v : Option Failure} {w : Nat}
    (step : FlowStep x s t) (flow : s.flow.Closing v w) : w = 1 ∧ t = { s with flow := .finished v } := by
  rcases flow with ⟨flow, rfl⟩ | ⟨flow, -⟩
  · cases step with
    | close v' at_ =>
      cases flow.symm.trans at_
      exact ⟨rfl, rfl⟩
    | iteration n next at_ | skip i next at_ | order o next at_ | orderAll os next at_
    | report i missing o r next at_ _ | fail i missing o f next at_ _ | resume next at_ | askExit o next at_
    | askCondition o next at_ | find q next at_ _ | miss q next known at_ _ | evaluate q next at_
    | branch q b next at_ | refuse q f next at_ | finish at_ | findLoop v' at_ _ | missLoop v' at_ _
    | release v' at_ => cases flow.symm.trans at_
  · cases step <;> simp_all

/-- As long as somebody holds the slot of a step, the step has to wait. -/
theorem ErrandStep.not_of_held {s t : e.Stage} {step : OpenStep} {b : Errand β} (reach : Reachable s)
    (held : step.slot ∈ s.held) : ¬ ErrandStep s (.waiting step) t b := by
  intro moves
  cases moves with
  | wake _ turn assigned =>
    rw [(reach.ledger.pending _).mpr held] at assigned
    cases assigned

theorem mem_held_of_inTurn {s : e.Stage} {k : Nat} (mem : k ∈ s.planner.inTurn) : k ∈ s.held := by
  rw [Stage.held, Planner.openSlots_eq]
  simp [mem]

theorem mem_held_of_inHand {s : e.Stage} {k : Nat} (mem : k ∈ s.loop.inHand) : k ∈ s.held := by
  rw [Stage.held]
  simp [mem]

theorem mem_held_of_queue {s : e.Stage} {sub : Submission β} (queue : s.planner.queue = [.turn sub]) :
    sub.slot ∈ s.held := by
  rw [Stage.held, Planner.openSlots_eq, queue]
  simp [Planner.slotsOf]

end Ensemble
end Rendezvous
