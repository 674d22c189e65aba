import Rendezvous.Proofs.Sequential.Behaviour
import Rendezvous.Proofs.Interleaving.Course

/-!
# Composites by plain recursion

What a tree of agents means if there is neither a planner nor an engine: a sequence runs its agents in
order and stops at the first that fails; a loop repeats that, up to its limit or until its exit condition
holds; a conditional leaves out the agents whose conditions do not hold (`Tree.reference`).

The course of an orchestration means the same (`Shape.outcome_drive`).  How many steps a course takes at
most does not depend on the id of its planner (`Shape.cost_drive`).
-/

namespace Rendezvous

set_option autoImplicit false

/-- Go on with what has come of something, unless it has failed. -/
def andThen {α β : Type} (o : Scope × Result α) (next : α → Meaning β) : Scope × Result β :=
  match o with
  | (x, .ok a) => next a x
  | (x, .error f) => (x, .error f)

/-! ## Shapes -/

/-- How a composite lets its agents take turns, one after the other. -/
inductive Shape where
  | sequence
  | loop (maxIterations : Nat) (exit : Option Condition) (atEnd : Bool)
  | conditional (conditions : List (Int × Condition))

namespace Condition

/-- A condition that always has an answer. -/
def Total (c : Condition) : Prop := ∀ x n, ∃ b, c.verdict x n = .ok b

/-- Whether a condition holds, if it has an answer. -/
def met (c : Condition) (n : Int) (x : Scope) : Bool :=
  match c.verdict x n with
  | .ok b => b
  | .error _ => false

theorem verdict_of_total {c : Condition} (total : c.Total) (x : Scope) (n : Int) :
    c.verdict x n = .ok (c.met n x) := by
  obtain ⟨b, answered⟩ := total x n
  rw [met, answered]

end Condition

namespace Shape

/-- The plan of a planner for a shape. -/
def plan : Shape → PlannerPlan
  | sequence => { id := "", topology := .sequence }
  | loop maxIterations exit atEnd =>
    { id := "", topology := .loop, maxIterations := .ofNat maxIterations
      testExitAtLoopEnd := .bool atEnd, exitCondition := exit }
  | conditional conditions => { id := "", topology := .conditional, conditions }

/-- A loop has at least one iteration, and conditions have answers. -/
def Sound : Shape → Prop
  | sequence => True
  | loop maxIterations exit _ => 1 ≤ maxIterations ∧ ∀ c, exit = some c → c.Total
  | conditional conditions => ∀ c ∈ conditions, c.2.Total

/-- Whether the exit condition of a loop holds at an iteration; a missing one does not. -/
def ends (n : Nat) (x : Scope) : Shape → Bool
  | loop _ (some c) _ => c.met n x
  | _ => false

/-- Whether the agent at a position is to run; without a condition it is. -/
def wants (i : Nat) (x : Scope) : Shape → Bool
  | conditional conditions =>
    match conditions.lookup (i : Int) with
    | some c => c.met 0 x
    | none => true
  | _ => true

/-- Agents in order, up to the first that fails. -/
def inOrder : List (Meaning Value) → Meaning Unit
  | [], x => (x, .ok ())
  | m :: rest, x => andThen (m x) fun _ => inOrder rest

/-- One pass of a loop, and whether the loop is to end with it. -/
def pass (ends : Scope → Bool) (atEnd : Bool) : List (Meaning Value) → Meaning Bool
  | [], x => (x, .ok (atEnd && ends x))
  | m :: rest, x => andThen (m x) fun _ y =>
    if !atEnd && ends y then (y, .ok true) else pass ends atEnd rest y

/-- Passes up to a limit, or until one of them ends the loop. -/
def repeated (pass : Nat → Meaning Bool) : (limit n : Nat) → Meaning Unit
  | 0, _, x => (x, .ok ())
  | limit + 1, n, x => andThen (pass n x) fun done y =>
    if done then (y, .ok ()) else repeated pass limit (n + 1) y

/-- The agents that are wanted, in order, up to the first that fails. -/
def whereWanted (wants : Nat → Scope → Bool) : List (Meaning Value × Nat) → Meaning Unit
  | [], x => (x, .ok ())
  | (m, i) :: rest, x =>
    if wants i x then andThen (m x) fun _ => whereWanted wants rest else whereWanted wants rest x

/-- What a composite of a shape makes of the shared state. -/
def meaning (s : Shape) (agents : List (Meaning Value)) : Meaning Unit :=
  match s with
  | sequence => inOrder agents
  | loop limit _ atEnd => repeated (fun n => pass (s.ends n) atEnd agents) limit 1
  | conditional _ => whereWanted s.wants agents.zipIdx

end Shape

/-! ## Trees -/

/-- Agents that do work of their own, and composites of agents. -/
inductive Tree where
  | leaf (profile : Profile) (work : Work)
  | composite (profile : Profile) (shape : Shape) (agents : List Tree)

namespace Tree

/-- The profile of an agent. -/
def profile : Tree → Profile
  | leaf p _ | composite p _ _ => p

/-- The answer of a composite: the value under its output key, or else all of the shared state. -/
def answer (p : Profile) (x : Scope) : Value :=
  match Text.given? p.outputKey with
  | some key => x.read key .null
  | none => .dict x.snapshot

mutual
/-- What an agent makes of the shared state, and what it returns. -/
def reference : Tree → Meaning Value
  | leaf p work, x => p.closed (fun v _ => v) (work.meaning x)
  | composite p shape agents, x =>
    p.closed (fun _ => answer p) (andThen (shape.meaning (references agents) x) fun _ y => (y, .ok .null))

/-- What agents make of the shared state, one by one. -/
def references : List Tree → List (Meaning Value)
  | [] => []
  | t :: rest => t.reference :: references rest
end

mutual
/-- All loops have at least one iteration, and all conditions have answers. -/
def Sound : Tree → Prop
  | leaf _ _ => True
  | composite _ shape agents => shape.Sound ∧ AllSound agents

/-- All of these are sound. -/
def AllSound : List Tree → Prop
  | [] => True
  | t :: rest => t.Sound ∧ AllSound rest
end

end Tree

/-! ## Courses -/

/-- What the agents and conditions of an orchestration come to. -/
structure Play where
  turn : Nat → Meaning Value
  /-- How many steps a turn takes at most. -/
  effort : Nat → Scope → Nat
  ends : Nat → Scope → Bool
  wants : Nat → Scope → Bool

/-- Nothing to do. -/
def Work.nothing : Work := .done (.ok .null)

/-- What the agents and conditions of a shape come to. -/
def Shape.play (s : Shape) (meanings : List (Meaning Value)) (effort : Nat → Scope → Nat) : Play where
  turn i := meanings.getD i Work.nothing.meaning
  effort := effort
  ends := s.ends
  wants := s.wants

namespace Drive

variable (p : Play)

/-- What comes of a course that orders one step at a time. -/
def outcome : Drive → Meaning Unit
  | finish, x | steps _ _, x => (x, .ok ())
  | iteration _ next, x => outcome (next ()) x
  | skip _ next, x => outcome next x
  | step o next, x => andThen (p.turn o.agentIndex x) fun _ => outcome next
  | checkExit o next, x => outcome (next (p.ends o.iteration x)) x
  | checkCondition o next, x => outcome (next (p.wants o.agentIndex x)) x

/-- How many steps all threads take at most, from the place of the workflow in the course on. -/
def cost : Drive → Scope → Nat
  | finish, _ | steps _ _, _ => 8
  | iteration _ next, x => cost (next ()) x + 1
  | skip _ next, x => cost next x + 1
  | step o next, x => p.effort o.agentIndex x + 30 +
    match p.turn o.agentIndex x with
    | (y, .ok _) => cost next y
    | (_, .error _) => 0
  | checkExit o next, x => cost (next (p.ends o.iteration x)) x + 5
  | checkCondition o next, x => cost (next (p.wants o.agentIndex x)) x + 5

/-! ### What courses come to -/

theorem outcome_sequence (id : String) (indices : List Nat) (x : Scope) :
    (sequence id indices).outcome p x = Shape.inOrder (indices.map p.turn) x := by
  induction indices generalizing x with
  | nil => rfl
  | cons i rest ih =>
    have next : (sequence id rest).outcome p = Shape.inOrder (rest.map p.turn) := funext ih
    simp only [sequence, outcome, List.map_cons, Shape.inOrder, next]

theorem outcome_conditional (id : String) (indices : List Nat) (x : Scope) :
    (conditional id indices).outcome p x =
      Shape.whereWanted p.wants (indices.map fun i => (p.turn i, i)) x := by
  induction indices generalizing x with
  | nil => rfl
  | cons i rest ih =>
    have next : (conditional id rest).outcome p =
        Shape.whereWanted p.wants (rest.map fun i => (p.turn i, i)) := funext ih
    simp only [conditional, outcome, List.map_cons, Shape.whereWanted, ← next]
    cases p.wants i x <;> rfl

theorem outcome_unlessExit (id : String) (n : Nat) (next : Unit → Drive) (x : Scope) :
    (unlessExit id n next).outcome p x = if p.ends n x then (x, .ok ()) else (next ()).outcome p x := by
  simp only [unlessExit, outcome]
  cases p.ends n x <;> rfl

theorem andThen_andThen {α β γ : Type} (o : Scope × Result α) (f : α → Meaning β) (g : β → Meaning γ) :
    andThen (andThen o f) g = andThen o fun a x => andThen (f a x) g := by
  obtain ⟨x, r⟩ := o
  cases r <;> rfl

theorem outcome_pass (id : String) (atEnd : Bool) (n : Nat) (next : Unit → Drive) (indices : List Nat)
    (x : Scope) : (pass id atEnd n next indices).outcome p x =
      andThen (Shape.pass (p.ends n) atEnd (indices.map p.turn) x) fun done y =>
        if done then (y, .ok ()) else (next ()).outcome p y := by
  induction indices generalizing x with
  | nil =>
    cases atEnd with
    | true => exact outcome_unlessExit p id n next x
    | false => rfl
  | cons i rest ih =>
    rw [List.map_cons, Shape.pass, andThen_andThen, pass, outcome]
    congr 1
    funext _ y
    cases atEnd with
    | true => exact ih y
    | false =>
      rw [if_neg Bool.false_ne_true, outcome_unlessExit, Bool.not_false, Bool.true_and]
      cases p.ends n y with
      | true => rfl
      | false => exact ih y

theorem outcome_loop (id : String) (atEnd : Bool) (indices : List Nat) (limit n : Nat) (x : Scope) :
    (loop id atEnd indices limit n).outcome p x =
      Shape.repeated (fun n => Shape.pass (p.ends n) atEnd (indices.map p.turn)) limit n x := by
  induction limit generalizing n x with
  | zero => rfl
  | succ limit ih =>
    have next : (loop id atEnd indices limit (n + 1)).outcome p =
        Shape.repeated (fun n => Shape.pass (p.ends n) atEnd (indices.map p.turn)) limit (n + 1) :=
      funext (ih (n + 1))
    rw [loop, outcome, outcome_pass, Shape.repeated, next]

/-! ### Ids do not matter -/

theorem cost_sequence (id id' : String) (indices : List Nat) (x : Scope) :
    (sequence id indices).cost p x = (sequence id' indices).cost p x := by
  induction indices generalizing x with
  | nil => rfl
  | cons i rest ih =>
    have next : (sequence id rest).cost p = (sequence id' rest).cost p := funext ih
    simp only [sequence, cost, next]

theorem cost_conditional (id id' : String) (indices : List Nat) (x : Scope) :
    (conditional id indices).cost p x = (conditional id' indices).cost p x := by
  induction indices generalizing x with
  | nil => rfl
  | cons i rest ih =>
    have next : (conditional id rest).cost p = (conditional id' rest).cost p := funext ih
    simp only [conditional, cost]
    cases p.wants i x <;> simp only [cost, next, if_true, if_false, Bool.false_eq_true]

theorem cost_unlessExit (id id' : String) (n : Nat) (next next' : Unit → Drive)
    (same : (next ()).cost p = (next' ()).cost p) (x : Scope) :
    (unlessExit id n next).cost p x = (unlessExit id' n next').cost p x := by
  simp only [unlessExit, cost]
  cases p.ends n x <;> simp only [same, if_true, if_false, Bool.false_eq_true]

theorem cost_pass (id id' : String) (n : Nat) (next next' : Unit → Drive)
    (same : (next ()).cost p = (next' ()).cost p) (atEnd : Bool) (indices : List Nat) (x : Scope) :
    (pass id atEnd n next indices).cost p x = (pass id' atEnd n next' indices).cost p x := by
  induction indices generalizing x with
  | nil =>
    cases atEnd with
    | true => exact cost_unlessExit p id id' n next next' same x
    | false => exact congrFun same x
  | cons i rest ih =>
    have rest' : (pass id atEnd n next rest).cost p = (pass id' atEnd n next' rest).cost p := funext ih
    cases atEnd with
    | true => simp only [pass, cost, if_true, rest']
    | false =>
      have exit := funext (cost_unlessExit p id id' n (fun () => pass id false n next rest)
        (fun () => pass id' false n next' rest) rest')
      simp only [pass, cost, if_false, Bool.false_eq_true, exit]

theorem cost_loop (id id' : String) (atEnd : Bool) (indices : List Nat) (limit n : Nat) (x : Scope) :
    (loop id atEnd indices limit n).cost p x = (loop id' atEnd indices limit n).cost p x := by
  induction limit generalizing n x with
  | zero => rfl
  | succ limit ih =>
    have next : (loop id atEnd indices limit (n + 1)).cost p =
        (loop id' atEnd indices limit (n + 1)).cost p := funext (ih (n + 1))
    simp only [loop, cost]
    rw [cost_pass p id id' n _ (fun () => loop id' atEnd indices limit (n + 1)) next]

end Drive

namespace Shape

/-- What an orchestration of a shape is started with. -/
def start (s : Shape) (id : String) (count : Nat) : OrchestrationStart :=
  { plannerId := id, topology := s.plan.topology, agentCount := count
    maxIterations := match s with
      | loop limit _ _ => limit
      | _ => unboundedIterations
    testExitAtLoopEnd := match s with
      | loop _ _ atEnd => atEnd
      | _ => false }

/-- A sound shape can be started. -/
theorem start_planner {α : Type} {s : Shape} (sound : s.Sound) (p : Planner α)
    (plan : p.plan = { s.plan with id := p.plan.id }) :
    p.start = .ok (s.start p.plan.id p.agents.length) := by
  rw [Planner.start_eq, plan]
  cases s with
  | sequence => rfl
  | conditional conditions => rfl
  | loop limit exit atEnd =>
    simp only [Shape.plan, Shape.start, Check.naturalFrom_ofNat sound.1, Check.boolean_bool,
      Checked.under_ok, Checked.seq_ok]
    rfl

/-- The exit condition of a sound shape has an answer. -/
theorem checkExit_of_sound {α : Type} {s : Shape} (sound : s.Sound) {p : Planner α} {n : Nat}
    (plan : p.plan = { s.plan with id := p.plan.id }) (scope : p.scope = some n) (scopeAt : Nat → Scope)
    (iteration : Nat) : p.checkExit scopeAt iteration = .ok (s.ends iteration (scopeAt n)) := by
  rw [Planner.checkExit, plan]
  cases s with
  | sequence | conditional conditions => rfl
  | loop limit exit atEnd =>
    cases exit with
    | none => rfl
    | some c =>
      simp only [Shape.plan, Planner.ask, Planner.scopeNumber, scope]
      exact Condition.verdict_of_total (sound.2 c rfl) (scopeAt n) iteration

/-- The conditions of a sound shape have answers. -/
theorem checkCondition_of_sound {α : Type} {s : Shape} (sound : s.Sound) {p : Planner α} {n : Nat}
    (plan : p.plan = { s.plan with id := p.plan.id }) (scope : p.scope = some n) (scopeAt : Nat → Scope)
    (i : Nat) : p.checkCondition scopeAt i = .ok (s.wants i (scopeAt n)) := by
  rw [Planner.checkCondition, plan]
  cases s with
  | sequence | loop limit exit atEnd => rfl
  | conditional conditions =>
    simp only [Shape.plan, wants, Planner.ask, Planner.scopeNumber, scope]
    cases found : conditions.lookup (i : Int) with
    | none => rfl
    | some c =>
      obtain ⟨before, after, split, -⟩ := List.lookup_eq_some_iff.mp found
      have mem : ((i : Int), c) ∈ conditions := by simp [split]
      exact Condition.verdict_of_total (sound _ mem) (scopeAt n) 0

theorem map_range_getD {α : Type} (agents : List α) (m : α) :
    (List.range agents.length).map (fun i => agents.getD i m) = agents := by
  refine List.ext_getElem (by simp) fun i inside inside' => ?_
  simp [List.getD_eq_getElem?_getD, inside']

theorem map_range_zipIdx (agents : List (Meaning Value)) (m : Meaning Value) :
    (List.range agents.length).map (fun i => (agents.getD i m, i)) = agents.zipIdx := by
  refine List.ext_getElem (by simp) fun i inside inside' => ?_
  have within : i < agents.length := by simpa using inside'
  simp [List.getD_eq_getElem?_getD, within]

/-- The course of an orchestration comes to what its shape means. -/
theorem outcome_drive (s : Shape) (agents : List (Meaning Value)) (p : Play) (m : Meaning Value)
    (turn : p.turn = fun i => agents.getD i m) (ends : p.ends = s.ends) (wants : p.wants = s.wants)
    (id : String) (x : Scope) :
    (Drive.of (s.start id agents.length)).outcome p x = s.meaning agents x := by
  have turns : (List.range agents.length).map p.turn = agents := by rw [turn, map_range_getD]
  cases s with
  | sequence =>
    calc (Drive.sequence id (List.range agents.length)).outcome p x
      _ = inOrder ((List.range agents.length).map p.turn) x := Drive.outcome_sequence p id _ x
      _ = inOrder agents x := by rw [turns]
  | conditional conditions =>
    calc (Drive.conditional id (List.range agents.length)).outcome p x
      _ = whereWanted p.wants ((List.range agents.length).map fun i => (p.turn i, i)) x :=
        Drive.outcome_conditional p id _ x
      _ = whereWanted p.wants agents.zipIdx x := by rw [turn, map_range_zipIdx]
      _ = (conditional conditions).meaning agents x := by rw [wants]; rfl
  | loop limit exit atEnd =>
    calc (Drive.loop id atEnd (List.range agents.length) limit 1).outcome p x
      _ = repeated (fun n => pass (p.ends n) atEnd ((List.range agents.length).map p.turn)) limit 1 x :=
        Drive.outcome_loop p id atEnd _ limit 1 x
      _ = (loop limit exit atEnd).meaning agents x := by rw [turns, ends]; rfl

theorem cost_drive (s : Shape) (count : Nat) (p : Play) (id id' : String) (x : Scope) :
    (Drive.of (s.start id count)).cost p x = (Drive.of (s.start id' count)).cost p x := by
  cases s with
  | sequence => exact Drive.cost_sequence p id id' _ x
  | conditional conditions => exact Drive.cost_conditional p id id' _ x
  | loop limit exit atEnd => exact Drive.cost_loop p id id' atEnd _ limit 1 x

end Shape
end Rendezvous
