import Rendezvous.Proofs.Interleaving.Record

/-!
# The course that a workflow takes

The orders of a workflow are those of a way through the tree of its topology, each branch chosen by an
answer of the condition there (`Leads`, `Followed`).  In all topologies but the parallel one a workflow has
at most one step under way, and none once it has failed (`Sole`).
-/

namespace Rendezvous

set_option autoImplicit false

/-! ## Ways through a course -/

namespace Planner

variable {α : Type}

/-- The limit of a loop and the place of its exit condition are checked, the rest is as it was given. -/
theorem start_eq (p : Planner α) : p.start = Checked.toResult
    ((.ok (OrchestrationStart.mk p.plan.id p.plan.topology p.agents.length) : Checked _)
      <*> Checked.under (.name "max_iterations") (Check.naturalFrom 1 p.plan.maxIterations)
      <*> Checked.under (.name "test_exit_at_loop_end") (Check.boolean p.plan.testExitAtLoopEnd)) := by
  simp [start, OrchestrationStart.check, Check.required, Check.defaulted, Entries.get?]

theorem of_start {p : Planner α} {start : OrchestrationStart} (started : p.start = .ok start) :
    start.plannerId = p.plan.id ∧ start.topology = p.plan.topology ∧
      start.agentCount = p.agents.length := by
  rw [start_eq] at started
  generalize Checked.under _ (Check.naturalFrom 1 p.plan.maxIterations) = limit at started
  generalize Checked.under _ (Check.boolean p.plan.testExitAtLoopEnd) = atEnd at started
  cases limit <;> cases atEnd <;> cases started
  exact ⟨rfl, rfl, rfl⟩

end Planner

namespace Drive

/-- A course that asks one planner, and for one step at a time, of agents below a width. -/
def Single (id : String) (width : Nat) : Drive → Prop
  | finish => True
  | iteration _ next => Single id width (next ())
  | step o next => o.plannerId = id ∧ o.agentIndex < width ∧ Single id width next
  | skip _ next => Single id width next
  | steps _ _ => False
  | checkExit o next => o.plannerId = id ∧ ∀ b, Single id width (next b)
  | checkCondition o next => o.plannerId = id ∧ ∀ b, Single id width (next b)

section

variable {width : Nat}

theorem single_sequence (id : String) {indices : List Nat} (within : ∀ i ∈ indices, i < width) :
    (sequence id indices).Single id width := by
  induction indices with
  | nil => trivial
  | cons i rest ih =>
    rw [List.forall_mem_cons] at within
    exact ⟨rfl, within.1, ih within.2⟩

theorem single_conditional (id : String) {indices : List Nat} (within : ∀ i ∈ indices, i < width) :
    (conditional id indices).Single id width := by
  induction indices with
  | nil => trivial
  | cons i rest ih =>
    rw [List.forall_mem_cons] at within
    refine ⟨rfl, fun b => ?_⟩
    cases b with
    | true => exact ⟨rfl, within.1, ih within.2⟩
    | false => exact ih within.2

theorem single_unlessExit (id : String) (n : Nat) (next : Unit → Drive)
    (single : (next ()).Single id width) : (unlessExit id n next).Single id width := by
  refine ⟨rfl, fun b => ?_⟩
  cases b with
  | true => trivial
  | false => exact single

theorem single_pass (id : String) (atEnd : Bool) (n : Nat) (next : Unit → Drive)
    (single : (next ()).Single id width) {indices : List Nat} (within : ∀ i ∈ indices, i < width) :
    (pass id atEnd n next indices).Single id width := by
  induction indices with
  | nil =>
    cases atEnd with
    | true => exact single_unlessExit id n next single
    | false => exact single
  | cons i rest ih =>
    rw [List.forall_mem_cons] at within
    refine ⟨rfl, within.1, ?_⟩
    cases atEnd with
    | true => exact ih within.2
    | false => exact single_unlessExit id n (fun () => pass id false n next rest) (ih within.2)

theorem single_loop (id : String) (atEnd : Bool) {indices : List Nat} (within : ∀ i ∈ indices, i < width)
    (remaining n : Nat) : (loop id atEnd indices remaining n).Single id width := by
  induction remaining generalizing n with
  | zero => trivial
  | succ remaining ih => exact single_pass id atEnd n _ (ih (n + 1)) within

end

/-- Only parallel orchestrations order several steps at once. -/
theorem single_of {start : OrchestrationStart} (topology : start.topology ≠ .parallel) :
    (Drive.of start).Single start.plannerId start.agentCount := by
  have within : ∀ i ∈ List.range start.agentCount, i < start.agentCount := fun i => List.mem_range.mp
  unfold Drive.of
  cases chosen : start.topology with
  | sequence => exact single_sequence _ within
  | parallel => exact absurd chosen topology
  | conditional => exact single_conditional _ within
  | loop => exact single_loop _ _ within _ _

end Drive

namespace Ensemble

variable {β σ : Type} {e : Ensemble β σ}

/-- What a question is answered while the shared state is `x`. -/
def answer (e : Ensemble β σ) (q : Question) (x : Scope) : Result Bool :=
  q.answer (e.planner e.plan.id) x

theorem Made.start {p : Planner β} (made : Made e p) : (e.planner p.plan.id).start = p.start := by
  have plan : (e.planner p.plan.id).plan = p.plan := made.plan.symm
  rw [Planner.start_eq, Planner.start_eq, plan, made.agents]
  rfl

theorem Made.answer {p : Planner β} (made : Made e p) (q : Question) (x : Scope) :
    q.answer p x = e.answer q x := by
  have plan := made.plan
  cases q with
  | exit o =>
    have exit : p.plan.exitCondition = e.plan.exitCondition := by rw [plan]
    simp only [Question.answer, Ensemble.answer, Planner.checkExit, Planner.ask, Planner.scopeNumber,
      made.scope, exit, Ensemble.planner, Planner.init]
  | condition o =>
    have conditions : p.plan.conditions = e.plan.conditions := by rw [plan]
    simp only [Question.answer, Ensemble.answer, Planner.checkCondition, Planner.ask, Planner.scopeNumber,
      made.scope, conditions, Ensemble.planner, Planner.init]

/-- A way through a course, and the steps that it orders; conditions are asked on the way, whatever the
shared state is by then. -/
inductive Leads (e : Ensemble β σ) (from_ : Drive) : List StepOrder → Drive → Prop
  | start : Leads e from_ [] from_
  | iteration {os : List StepOrder} {n : Nat} {next : Unit → Drive} :
      Leads e from_ os (.iteration n next) → Leads e from_ os (next ())
  | skip {os : List StepOrder} {i : Nat} {next : Drive} :
      Leads e from_ os (.skip i next) → Leads e from_ os next
  | step {os : List StepOrder} {o : StepOrder} {next : Drive} :
      Leads e from_ os (.step o next) → Leads e from_ (os ++ [o]) next
  | steps {os orders : List StepOrder} {next : Drive} :
      Leads e from_ os (.steps orders next) → Leads e from_ (os ++ orders) next
  | exit {os : List StepOrder} {o : ExitOrder} {next : Bool → Drive} {b : Bool} (x : Scope)
      (answered : e.answer (.exit o) x = .ok b) :
      Leads e from_ os (.checkExit o next) → Leads e from_ os (next b)
  | condition {os : List StepOrder} {o : ConditionOrder} {next : Bool → Drive} {b : Bool} (x : Scope)
      (answered : e.answer (.condition o) x = .ok b) :
      Leads e from_ os (.checkCondition o next) → Leads e from_ os (next b)

/-- What asks a question and goes on as the answer says. -/
def Question.drive (next : Bool → Drive) : Question → Drive
  | .exit o => .checkExit o next
  | .condition o => .checkCondition o next

theorem Leads.ask {from_ : Drive} {os : List StepOrder} {q : Question} {next : Bool → Drive} {b : Bool}
    {x : Scope} (leads : Leads e from_ os (q.drive next)) (answered : e.answer q x = .ok b) :
    Leads e from_ os (next b) := by
  cases q with
  | exit o => exact .exit x answered leads
  | condition o => exact .condition x answered leads

/-- The orders so far are those of a way through the course to the place where the workflow stands. -/
def Follows (from_ : Drive) (orders : List StepOrder) : Flow → Prop
  | .unscheduled => True
  | .going d => Leads e from_ orders d
  | .stepping _ next => Leads e from_ orders next
  | .checking q visit next =>
    Leads e from_ orders (q.drive next) ∧
      ∀ b, visit = .finished (.ok b) → ∃ x, e.answer q x = .ok b
  | .releasing _ v | .finished v => v = none → Leads e from_ orders .finish

/-- The workflow follows the course of its topology. -/
structure Followed (s : e.Stage) : Prop where
  before : s.flow = .unscheduled → s.orders = []
  since : s.flow ≠ .unscheduled →
    ∃ id start, (e.planner id).start = .ok start ∧ Follows (e := e) (.of start) s.orders s.flow

theorem FlowStep.follows {x : σ} {s t : e.Stage} (step : FlowStep x s t) (made : Made e s.planner)
    {from_ : Drive} (follows : Follows (e := e) from_ s.orders s.flow) :
    Follows (e := e) from_ t.orders t.flow := by
  cases step with
  | iteration n next at_ =>
    rw [at_] at follows
    exact .iteration follows
  | skip i next at_ =>
    rw [at_] at follows
    exact .skip follows
  | order o next at_ =>
    rw [at_] at follows
    exact .step follows
  | orderAll os next at_ =>
    rw [at_] at follows
    exact .steps follows
  | report i missing o r next at_ finished =>
    rw [at_] at follows
    exact follows
  | resume next at_ =>
    rw [at_] at follows
    exact follows
  | fail i missing o f next at_ _ | refuse q f next at_ =>
    intro no
    cases no
  | askExit o next at_ | askCondition o next at_ =>
    rw [at_] at follows
    refine ⟨follows, fun b no => ?_⟩
    cases no
  | find q next at_ live | miss q next known at_ gone =>
    rw [at_] at follows
    refine ⟨follows.1, fun b no => ?_⟩
    cases no
  | evaluate q next at_ =>
    rw [at_] at follows
    refine ⟨follows.1, fun b finished => ⟨e.scopeOf x, ?_⟩⟩
    rw [← made.answer]
    exact Visit.finished.inj finished
  | branch q b next at_ =>
    rw [at_] at follows
    obtain ⟨x, answered⟩ := follows.2 b rfl
    exact follows.1.ask answered
  | finish at_ =>
    rw [at_] at follows
    exact fun _ => follows
  | findLoop v at_ _ | missLoop v at_ _ | release v at_ | close v at_ =>
    rw [at_] at follows
    exact follows

theorem FlowStep.scheduled {x : σ} {s t : e.Stage} (step : FlowStep x s t) :
    s.flow ≠ .unscheduled ∧ t.flow ≠ .unscheduled := by
  cases step <;> simp_all

theorem LoopStep.orders_frame {s t : e.Stage} (step : LoopStep s t) : t.orders = s.orders := by
  cases step <;> rfl

theorem Step.followed {s t : e.Stage} {x y : σ} (step : Step s x t y) (made : Made e s.planner)
    (tended : Tended s) (followed : Followed s) : Followed t := by
  cases step with
  | loop step =>
    rcases step.flow_frame with ⟨flow, -⟩ | ⟨at_, -, start, valid, flow⟩
    · refine ⟨?_, ?_⟩
      · rw [flow, step.orders_frame]
        exact followed.before
      · rw [flow, step.orders_frame]
        exact followed.since
    · refine ⟨fun unscheduled => ?_, fun _ => ⟨s.planner.plan.id, start, made.start.trans valid, ?_⟩⟩
      · rw [flow] at unscheduled
        cases unscheduled
      · rw [flow, step.orders_frame, followed.before (tended.early (.inr at_))]
        exact .start
  | flow step =>
    obtain ⟨scheduled, still⟩ := step.scheduled
    refine ⟨fun unscheduled => absurd unscheduled still, fun _ => ?_⟩
    obtain ⟨id, start, valid, follows⟩ := followed.since scheduled
    exact ⟨id, start, valid, step.follows made follows⟩
  | errand i there step =>
    rcases step.frame with rfl | ⟨o, agent, -, rfl, -⟩
    · exact ⟨followed.before, followed.since⟩
    · exact ⟨followed.before, followed.since⟩
  | perform i at_ there moves => exact ⟨followed.before, followed.since⟩
  | linger i there moves => exact ⟨followed.before, followed.since⟩

theorem Reachable.followed {s : e.Stage} (reach : Reachable s) : Followed s := by
  induction reach with
  | opening => exact ⟨fun _ => rfl, fun scheduled => absurd rfl scheduled⟩
  | step reach step ih => exact step.followed reach.made reach.tended ih

/-! ## One step at a time -/

/-- Where a workflow stands that orders one step at a time. -/
def Sole (id : String) (width : Nat) (errands : List (Errand β)) : Flow → Prop
  | .unscheduled => True
  | .going d => d.Single id width
  | .stepping missing next => missing ≤ 1 ∧ next.Single id width
  | .checking _ _ next => ∀ b, (next b).Single id width
  | .releasing .. | .finished _ => errands = []

theorem FlowStep.sole {x : σ} {s t : e.Stage} {id : String} {width : Nat} (step : FlowStep x s t)
    (tended : Tended s) (sole : Sole id width s.errands s.flow) : Sole id width t.errands t.flow := by
  have roster := tended.roster
  cases step with
  | iteration n next at_ | skip i next at_ | find q next at_ _ | miss q next known at_ _
  | evaluate q next at_ =>
    rw [at_] at sole
    exact sole
  | askExit o next at_ | askCondition o next at_ =>
    rw [at_] at sole
    exact sole.2
  | order o next at_ =>
    rw [at_] at sole
    exact ⟨Nat.le_refl 1, sole.2.2⟩
  | orderAll os next at_ =>
    rw [at_] at sole
    exact sole.elim
  | report i missing o r next at_ finished =>
    rw [at_] at sole
    exact ⟨by have := sole.1; omega, sole.2⟩
  | resume next at_ =>
    rw [at_] at sole
    exact sole.2
  | branch q b next at_ =>
    rw [at_] at sole
    exact sole b
  | refuse q f next at_ | finish at_ =>
    rw [at_] at roster
    exact roster
  | fail i missing o f next at_ finished =>
    -- the step that fails is the only one under way
    rw [at_] at sole roster
    have inside := (List.getElem?_eq_some_iff.mp finished).1
    have all : s.errands.length = missing := roster
    have most := sole.1
    refine List.length_eq_zero_iff.mp ?_
    show (s.errands.eraseIdx i).length = 0
    rw [List.length_eraseIdx_of_lt inside]
    omega
  | findLoop v at_ _ | missLoop v at_ _ | release v at_ | close v at_ =>
    rw [at_] at sole
    exact sole

theorem ErrandStep.sole {s t : e.Stage} {before after : Errand β} {i : Nat} {id : String} {width : Nat}
    (there : s.errands[i]? = some before) (step : ErrandStep s before t after)
    (sole : Sole id width s.errands s.flow) : Sole id width (t.errands.set i after) t.flow := by
  obtain ⟨errands, flow, -⟩ := step.slots_frame
  rw [errands, flow]
  revert sole
  cases s.flow with
  | releasing visit v | finished v =>
    intro none
    have none : s.errands = [] := none
    rw [none] at there
    cases there
  | _ => exact fun sole => sole

theorem Step.sole {s t : e.Stage} {x y : σ} {id : String} (step : Step s x t y) (made : Made e s.planner)
    (tended : Tended s) (topology : e.plan.topology ≠ .parallel)
    (sole : Sole id e.agents.length s.errands s.flow) : ∃ id, Sole id e.agents.length t.errands t.flow := by
  cases step with
  | loop step =>
    rcases step.flow_frame with ⟨flow, -⟩ | ⟨-, -, start, valid, flow⟩
    · exact ⟨id, by rwa [flow, step.slots_frame.1]⟩
    · obtain ⟨-, shape, count⟩ := Planner.of_start valid
      refine ⟨start.plannerId, ?_⟩
      rw [flow, ← made.agents, ← count]
      refine Drive.single_of ?_
      rw [shape, made.plan]
      exact topology
  | flow step => exact ⟨id, step.sole tended sole⟩
  | errand i there step => exact ⟨id, step.sole there sole⟩
  | perform i at_ there moves => exact ⟨id, sole⟩
  | linger i there moves => exact ⟨id, sole⟩

/-- Unless an orchestration is parallel, nothing is under way when its workflow ends. -/
theorem Reachable.sole {s : e.Stage} (reach : Reachable s) (topology : e.plan.topology ≠ .parallel) :
    ∃ id, Sole id e.agents.length s.errands s.flow := by
  induction reach with
  | opening => exact ⟨"", trivial⟩
  | step reach step ih =>
    obtain ⟨id, sole⟩ := ih
    exact step.sole reach.made reach.tended topology sole

/-! ## What has become of the orders -/

/-- The order of a step activity. -/
def Errand.order : Errand β → StepOrder
  | .ordered o | .found o _ | .begun o _ | .finished o _ => o
  | .waiting step | .ending step _ => step.order

/-- Each order has been served or is under way, unless the workflow has failed. -/
def Accounted (s : e.Stage) : Prop :=
  s.flow.failed = false → ∀ o ∈ s.orders, s.Served o ∨ ∃ a ∈ s.errands, a.order = o

theorem LoopStep.failed_eq {s t : e.Stage} (step : LoopStep s t) (tended : Tended s) :
    t.flow.failed = s.flow.failed := by
  rcases step.flow_frame with ⟨flow, -⟩ | ⟨at_, -, start, -, flow⟩
  · rw [flow]
  · rw [flow, tended.early (.inr at_)]
    rfl

theorem FlowStep.accounted {x : σ} {s t : e.Stage} (step : FlowStep x s t) (recorded : Recorded s)
    (accounted : Accounted s) : Accounted t := by
  intro well o mem
  have before : s.flow.failed = false := by
    cases failed : s.flow.failed with
    | false => rfl
    | true => rw [step.failed failed] at well; cases well
  obtain ⟨-, slots, submitted, taken, -⟩ := step.frame
  have grows : Grows s t := .of_eq slots submitted taken
  rcases step.errands_frame with ⟨os, errands, orders⟩ | ⟨i, o', r, there, errands, orders, reported⟩
  · rw [orders] at mem
    rw [errands]
    rcases List.mem_append.mp mem with old | new
    · rcases accounted before o old with served | ⟨a, under, same⟩
      · exact .inl (grows.served served)
      · exact .inr ⟨a, List.mem_append_left _ under, same⟩
    · exact .inr ⟨.ordered o, List.mem_append_right _ (List.mem_map_of_mem new), rfl⟩
  · rw [orders] at mem
    rw [errands]
    have ok : ∃ report, r = .ok report := by
      rcases reported with failed | ok
      · rw [well] at failed
        cases failed
      · exact ok
    obtain ⟨report, rfl⟩ := ok
    rcases accounted before o mem with served | ⟨a, under, rfl⟩
    · exact .inl (grows.served served)
    · by_cases same : a = .finished o' (.ok report)
      · -- the step that is reported has been served
        subst same
        exact .inl (grows.served (recorded.sound under))
      · exact .inr ⟨a, mem_eraseIdx_of_ne under there same, rfl⟩

theorem ErrandStep.order_eq {s t : e.Stage} {a b : Errand β} (step : ErrandStep s a t b) :
    b.order = a.order := by
  cases step <;> rfl

theorem ErrandStep.accounted {s t : e.Stage} {before after : Errand β} {i : Nat}
    (there : s.errands[i]? = some before) (step : ErrandStep s before t after)
    (accounted : Accounted s) : Accounted { t with errands := t.errands.set i after } := by
  intro well o mem
  have frame : t.errands = s.errands ∧ t.flow = s.flow ∧ t.orders = s.orders := by
    rcases step.frame with rfl | ⟨o, agent, -, rfl, -⟩ <;> exact ⟨rfl, rfl, rfl⟩
  obtain ⟨errands, flow, orders⟩ := frame
  simp only [flow] at well
  simp only [orders] at mem
  rcases accounted well o mem with served | ⟨a, under, same⟩
  · exact .inl (step.grows.served served)
  · refine .inr ?_
    simp only [errands]
    by_cases moved : a = before
    · refine ⟨after, List.mem_set (List.getElem?_eq_some_iff.mp there).1 after, ?_⟩
      rw [step.order_eq, ← moved, same]
    · exact ⟨a, mem_set_of_ne under there moved, same⟩

theorem Step.accounted {s t : e.Stage} {x y : σ} (step : Step s x t y) (tended : Tended s)
    (recorded : Recorded s) (accounted : Accounted s) : Accounted t := by
  cases step with
  | loop step =>
    intro well o mem
    rw [step.failed_eq tended] at well
    rw [step.orders_frame] at mem
    rw [step.slots_frame.1]
    exact (accounted well o mem).imp_left step.grows.served
  | flow step => exact step.accounted recorded accounted
  | errand i there step => exact step.accounted there accounted
  | perform i at_ there moves => exact accounted
  | linger i there moves => exact accounted

theorem Reachable.accounted {s : e.Stage} (reach : Reachable s) : Accounted s := by
  induction reach with
  | opening =>
    intro _ o mem
    cases mem
  | step reach step ih => exact step.accounted reach.tended reach.recorded ih

end Ensemble
end Rendezvous
