import Rendezvous.Proofs.Sequential.Paced

/-!
# Trees of agents on the hub

A tree of agents becomes an agent: a leaf works on the scope of the invocation, and a composite is the
`Composite` that lets the agents below it take turns (`Tree.agent`).  Run on the hub, whose engine takes what
it is given, it does what plain recursion over the tree does (`Tree.means`).
-/

namespace Rendezvous

set_option autoImplicit false

variable {κ α ω : Type}

/-- Work on a scope of the hub. -/
def Work.act {β : Type} (n : Nat) : Work → Act κ α β ω Value
  | .done r => .ofResult r
  | .step write next => do
    let x ← Act.scope n
    Act.changeHub (Hub.modifyScope n write)
    (next x).act n

theorem Work.means {β : Type} (n : Nat) (w : Work) : Act.Means n (w.act n : Act κ α β ω Value) w.meaning := by
  induction w with
  | done r => exact .ofResult r
  | step write next ih => exact .bind .scope fun x => .bind (.modifyScope write) fun _ => ih x

namespace Agent

/-- What an agent makes of whatever scope it runs on. -/
def Means (a : Agent κ α ω) (m : Meaning Value) : Prop := ∀ (n : Nat), Act.Means n (a.run n) m

/-- A result is stored under the output key of the profile. -/
theorem means_of_invoke {a : Agent κ α ω} {m : Meaning Value}
    (invoke : ∀ (n : Nat), Act.Means n (a.invoke n) m) :
    a.Means fun x => a.profile.closed (fun v _ => v) (m x) := by
  intro n
  have closed : (fun x => a.profile.closed (fun v _ => v) (m x)) =
      fun x => andThen (m x) fun v y => (a.profile.store v y, .ok v) := by
    funext x
    obtain ⟨y, r⟩ := m x
    cases r <;> rfl
  rw [closed]
  refine .bind (invoke n) fun v => ?_
  unfold Profile.store
  cases Text.given? a.profile.outputKey with
  | none => exact .ofResult (.ok v)
  | some key => exact .bind (.modifyScope (Scope.write key v)) fun _ => .ofResult (.ok v)

end Agent

namespace Composite

/-! ## Composites -/

variable {shape : Shape} {agents : List (Agent κ α ω)} {meanings : List (Meaning Value)}

/-- How a composite runs the agents of a planner. -/
def runner (agents : List (Agent κ α ω)) (k n : Nat) : Act.Runner κ α Seat ω where
  planner := k
  workers := none
  profile := Seat.profile
  run := runSeat agents n

theorem getElem?_seats (agents : List (Agent κ α ω)) (i : Nat) :
    (Agent.seats agents)[i]? = agents[i]?.map fun a => ⟨i, a.profile⟩ := by
  simp only [Agent.seats, List.getElem?_map, List.getElem?_zipIdx, Option.map_map]
  cases agents[i]? with
  | none => rfl
  | some a => simp

theorem length_seats (agents : List (Agent κ α ω)) : (Agent.seats agents).length = agents.length := by
  rw [Agent.seats, List.length_map, List.length_zipIdx]

/-- Agents that do what they mean take turns as a shape says. -/
theorem plays (sound : shape.Sound) (same : agents.length = meanings.length)
    (means : ∀ (i : Nat) (a : Agent κ α ω) (μ : Meaning Value),
      agents[i]? = some a → meanings[i]? = some μ → a.Means μ) (id : String) (k n : Nat) :
    Standing.Plays (runner agents k n) { shape.plan with id } (Agent.seats agents) n
      (shape.play meanings fun _ _ => 0) where
  turn i within := by
    rw [length_seats] at within
    obtain ⟨a, there⟩ : ∃ a, agents[i]? = some a := ⟨_, List.getElem?_eq_getElem within⟩
    obtain ⟨μ, there'⟩ : ∃ μ, meanings[i]? = some μ := ⟨_, List.getElem?_eq_getElem (same ▸ within)⟩
    have seat : (Agent.seats agents)[i]? = some ⟨i, a.profile⟩ := by
      rw [getElem?_seats, there]
      rfl
    refine ⟨_, seat, ?_⟩
    have turn : (shape.play meanings fun _ _ => 0).turn i = μ := by
      show meanings.getD i _ = _
      rw [List.getD_eq_getElem?_getD, there']
      rfl
    rw [turn]
    show Act.Means n (runSeat agents n ⟨i, a.profile⟩) _
    rw [runSeat, there]
    exact (means i a μ there there' n).bind fun _ => .ofResult (.ok ())
  exit p paused scopeAt iteration :=
    Shape.checkExit_of_sound sound (by rw [paused.plan]) paused.scope scopeAt iteration
  condition p paused scopeAt i :=
    Shape.checkCondition_of_sound sound (by rw [paused.plan]) paused.scope scopeAt i

/-- The planner of a composite, once it has been made and initialized. -/
def plannerOf (shape : Shape) (agents : List (Agent κ α ω)) (m n : Nat) : Planner Seat :=
  ({ plan := { shape.plan with id := drawnId m } } : Planner Seat).init (Agent.seats agents) n

theorem paused_plannerOf (shape : Shape) (agents : List (Agent κ α ω)) (m n : Nat) :
    (plannerOf shape agents m n).Paused { shape.plan with id := drawnId m } (Agent.seats agents) n :=
  ⟨rfl, rfl, rfl, rfl, rfl, rfl, Int.le_refl 0⟩

/-- A planner is made and initialized, and then it is found. -/
theorem standing_plannerOf (shape : Shape) (agents : List (Agent κ α ω)) (n : Nat) (b : Board Seat) :
    ∃ b₁ b₂ : Board Seat,
      Act.Yields b (Act.newPlanner shape.plan : Act κ α Seat ω Nat) (.ok b.planners.length) b₁ ∧
      Act.Yields b₁ (Act.initPlanner b.planners.length (Agent.seats agents) n : Act κ α Seat ω Unit)
        (.ok ()) b₂ ∧
      Standing b b.planners.length (b.plannersDrawn + 1) n (plannerOf shape agents (b.plannersDrawn + 1) n)
        (b.scope n) b₂ := by
  have unnamed : shape.plan.id = "" := by cases shape <;> rfl
  refine ⟨_, _, .newPlanner unnamed, .initPlanner _ _ _, ?_⟩
  rw [Hub.planner_of_getElem? List.getElem?_concat_length]
  exact {
    keeps := (((Hub.Keeps.refl b).addPlanner _ _ (by omega)).setPlanner (Nat.le_refl _) _).enlist (by omega) _
    number := Nat.le_refl _
    fresh := by omega
    drawn := Nat.le_refl _
    planner := List.getElem?_set_self (by simp)
    named := rfl
    live := Entries.get?_put_self _ _ _
    scope := rfl }

theorem outcome_seats (same : agents.length = meanings.length) (id : String) (x : Scope) :
    (Drive.of (shape.start id (Agent.seats agents).length)).outcome (shape.play meanings fun _ _ => 0) x =
      shape.meaning meanings x := by
  rw [length_seats, same]
  exact Shape.outcome_drive shape meanings _ _ rfl rfl rfl id x

/-- A composite of agents that do what they mean does what its shape means. -/
theorem means_invoke {p : Profile} (sound : shape.Sound) (same : agents.length = meanings.length)
    (means : ∀ (i : Nat) (a : Agent κ α ω) (μ : Meaning Value),
      agents[i]? = some a → meanings[i]? = some μ → a.Means μ) (n : Nat) :
    Act.Means n (({ profile := p, plan := shape.plan } : Composite).invoke agents n) fun x =>
      andThen (shape.meaning meanings x) fun _ y => (y, .ok (Tree.answer p y)) := by
  intro b ready
  obtain ⟨b₁, b₂, made, begun, standing⟩ := standing_plannerOf (κ := κ) (α := α) (ω := ω) shape agents n b
  have valid : (plannerOf shape agents (b.plannersDrawn + 1) n).start =
      .ok (shape.start (drawnId (b.plannersDrawn + 1)) (Agent.seats agents).length) :=
    Shape.start_planner sound _ rfl
  have topology : shape.plan.topology ≠ .parallel := by cases shape <;> exact Topology.noConfusion
  have plays := plays sound same means (drawnId (b.plannersDrawn + 1)) b.planners.length n
  obtain ⟨b₃, paced, dismissed⟩ := Standing.pace (r := runner agents b.planners.length n) standing
    (paused_plannerOf shape agents _ n) ready plays valid topology
  rw [outcome_seats same] at paced dismissed
  show ∃ b', Act.Yields b _ (andThen (shape.meaning meanings (b.scope n)) _).2 b' ∧
    b'.scope n = (andThen (shape.meaning meanings (b.scope n)) _).1 ∧ b.Keeps b'
  revert paced dismissed
  obtain ⟨y, result⟩ := shape.meaning meanings (b.scope n)
  intro paced dismissed
  refine ⟨b₃, .bind made (.bind begun ?_), ?_, dismissed.keeps⟩
  · cases result with
    | error f => exact .bind_error paced
    | ok _ =>
      refine .bind paced (.bind (.scope n) ?_)
      rw [dismissed.scope, andThen]
      unfold Tree.answer
      cases Text.given? p.outputKey with
      | none => exact .pure _
      | some key => exact .pure _
  · cases result with
    | error f => exact dismissed.scope
    | ok _ => exact dismissed.scope

end Composite

namespace Tree

mutual
/-- A tree as an agent. -/
def agent : Tree → Agent κ α ω
  | leaf p work => { kind := "Leaf", profile := p, invoke := fun n => work.act n }
  | composite p shape trees => ({ profile := p, plan := shape.plan } : Composite).toAgent (agents trees)

/-- Trees as agents, one by one. -/
def agents : List Tree → List (Agent κ α ω)
  | [] => []
  | t :: rest => t.agent :: agents rest
end

theorem length_references (agents : List Tree) : (references agents).length = agents.length := by
  induction agents with
  | nil => rw [references]; rfl
  | cons t rest ih => rw [references, List.length_cons, List.length_cons, ih]

theorem length_agents (trees : List Tree) : (agents trees : List (Agent κ α ω)).length = trees.length := by
  induction trees with
  | nil => rw [agents]; rfl
  | cons t rest ih => rw [agents, List.length_cons, List.length_cons, ih]

mutual
/-- A tree of agents does what plain recursion over it does. -/
theorem means : (t : Tree) → t.Sound → (t.agent : Agent κ α ω).Means t.reference
  | leaf p work, _ => by
    have meaning : (leaf p work).reference = fun x => p.closed (fun v _ => v) (work.meaning x) := by
      funext x
      rw [reference]
    rw [agent, meaning]
    exact Agent.means_of_invoke fun n => work.means n
  | composite p shape trees, sound => by
    rw [Sound] at sound
    obtain ⟨shapeSound, sounds⟩ := sound
    have meaning : (composite p shape trees).reference = fun x => p.closed (fun v _ => v)
        (andThen (shape.meaning (references trees) x) fun _ y => (y, .ok (answer p y))) := by
      funext x
      rw [reference]
      obtain ⟨y, result⟩ := shape.meaning (references trees) x
      cases result <;> rfl
    rw [agent, meaning]
    have same : (agents trees : List (Agent κ α ω)).length = (references trees).length := by
      rw [length_agents, length_references]
    exact Agent.means_of_invoke fun n =>
      Composite.means_invoke shapeSound same (allMean trees sounds) n

/-- Each of these trees does what plain recursion over it does. -/
theorem allMean : (trees : List Tree) → AllSound trees → ∀ (i : Nat) (a : Agent κ α ω) (μ : Meaning Value),
    (agents trees)[i]? = some a → (references trees)[i]? = some μ → a.Means μ
  | [], _, i, a, μ, there, _ => by
    rw [agents] at there
    cases there
  | t :: rest, sound, i, a, μ, there, there' => by
    rw [AllSound] at sound
    rw [agents] at there
    rw [references] at there'
    cases i with
    | zero =>
      obtain rfl := Option.some.inj there
      obtain rfl := Option.some.inj there'
      exact means t sound.1
    | succ i => exact allMean rest sound.2 i a μ there there'
end

end Tree
end Rendezvous
