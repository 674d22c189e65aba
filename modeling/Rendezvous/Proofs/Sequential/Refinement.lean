import Rendezvous.Proofs.Sequential.Agents
import Rendezvous.Proofs.Sequential.Composite

/-!
# Trees of agents under every schedule

The behaviour of a tree of agents is that of its parts: a leaf works in atomic steps, and a composite is an
orchestration of the behaviours of its agents, each with a planner, a queue, a loop and a workflow of its own
(`Tree.behaviour`).  Whatever the schedule on every level, it comes to an end, and to that of the plain
recursion over the tree: the same shared state, and the same value or the same failure (`Tree.refines`).  The
agent that runs the tree on a hub comes to the same end.
-/

namespace Rendezvous

set_option autoImplicit false

namespace Shape

/-- Agents that take turns as a shape says, on an engine that does not fail. -/
def ensemble (s : Shape) (seats : List Seat) (behaviours : List (Behaviour Scope)) :
    Ensemble Seat Scope where
  plan := s.plan
  agents := seats
  profile := Seat.profile
  behaviour seat := behaviours.getD seat.position Work.nothing.behaviour
  scopeOf := id
  engine r := r = .ok ()

/-- Conditions that have answers are answered by the planner. -/
theorem answer_of_sound {s : Shape} (sound : s.Sound) (seats : List Seat)
    (behaviours : List (Behaviour Scope)) (meanings : List (Meaning Value)) (effort : Nat → Scope → Nat)
    (q : Ensemble.Question) (x : Scope) :
    (s.ensemble seats behaviours).answer q x = .ok ((s.play meanings effort).asked q x) := by
  cases q with
  | exit o => exact checkExit_of_sound sound rfl rfl (fun _ => x) o.iteration
  | condition o => exact checkCondition_of_sound sound rfl rfl (fun _ => x) o.agentIndex

theorem course_of_sound {s : Shape} (sound : s.Sound) (seats : List Seat)
    (behaviours : List (Behaviour Scope)) (meanings : List (Meaning Value)) (effort : Nat → Scope → Nat)
    (length : seats.length = meanings.length) (id : String) :
    ∃ start, ((s.ensemble seats behaviours).planner id).start = .ok start ∧
      (Drive.of start).outcome (s.play meanings effort) = s.meaning meanings ∧
      (Drive.of start).cost (s.play meanings effort) =
        (Drive.of (s.start "" meanings.length)).cost (s.play meanings effort) := by
  refine ⟨s.start id meanings.length, ?_, funext fun x => ?_, funext fun x => ?_⟩
  · rw [← length]
    exact start_planner sound ((s.ensemble seats behaviours).planner id) rfl
  · exact outcome_drive s meanings (s.play meanings effort) _ rfl rfl rfl id x
  · exact cost_drive s meanings.length (s.play meanings effort) id "" x

/-- Those who take part in an orchestration of a sound shape, if each of them does what it means. -/
noncomputable def cast {s : Shape} (sound : s.Sound) {seats : List Seat} {behaviours : List (Behaviour Scope)}
    {meanings : List (Meaning Value)} {effort : Nat → Scope → Nat} (length : seats.length = meanings.length)
    (positions : ∀ {i : Nat} {seat : Seat}, seats[i]? = some seat → seat.position = i)
    (agents : ∀ i, Simulation (behaviours.getD i Work.nothing.behaviour)
      (meanings.getD i Work.nothing.meaning) (effort i)) :
    Ensemble.Cast (s.ensemble seats behaviours) (s.play meanings effort) where
  single := by cases s <;> exact Topology.noConfusion
  engine := Iff.rfl
  scopeOf _ := rfl
  workers := rfl
  answers := answer_of_sound sound seats behaviours meanings effort
  simulation {i seat} there := by
    have place : seat.position = i := positions there
    show Simulation (behaviours.getD seat.position _) _ _
    rw [place]
    exact agents i
  meaning := s.meaning meanings
  steps := (Drive.of (s.start "" meanings.length)).cost (s.play meanings effort)
  course := course_of_sound sound seats behaviours meanings effort length

end Shape

namespace Tree

/-- The agents with their seats. -/
def seats (agents : List Tree) : List Seat :=
  agents.zipIdx.map fun (t, position) => { position, profile := t.profile }

theorem position_of_seats {agents : List Tree} {i : Nat} {seat : Seat}
    (there : (seats agents)[i]? = some seat) : seat.position = i := by
  simp only [seats, List.getElem?_map, List.getElem?_zipIdx, Option.map_map, Option.map_eq_some_iff] at there
  obtain ⟨t, -, rfl⟩ := there
  simp

mutual
/-- What an agent does, step by step: a composite lets the agents below it take turns. -/
def behaviour : Tree → Behaviour Scope
  | leaf p work => work.behaviour.closing p fun v _ => v
  | composite p shape agents =>
    (shape.ensemble (seats agents) (behaviours agents)).orchestration.closing p fun _ => answer p

/-- What agents do, one by one. -/
def behaviours : List Tree → List (Behaviour Scope)
  | [] => []
  | t :: rest => t.behaviour :: behaviours rest
end

mutual
/-- An agent does what it means. -/
theorem simulated : (t : Tree) → t.Sound → ∃ effort, Nonempty (Simulation t.behaviour t.reference effort)
  | leaf p work, _ => by
    rw [behaviour]
    have meaning : (leaf p work).reference = fun x => p.closed (fun v _ => v) (work.meaning x) := by
      funext x
      rw [reference]
    rw [meaning]
    exact ⟨_, ⟨work.simulation.closing p fun v _ => v⟩⟩
  | composite p shape agents, sound => by
    rw [Sound] at sound
    obtain ⟨shapeSound, agentsSound⟩ := sound
    obtain ⟨effort, simulation⟩ := Classical.axiomOfChoice (allSimulated agents agentsSound)
    have length : (seats agents).length = (references agents).length := by
      rw [length_references, seats, List.length_map, List.length_zipIdx]
    let cast := shape.cast shapeSound length position_of_seats fun i => Classical.choice (simulation i)
    rw [behaviour]
    have meaning : (composite p shape agents).reference = fun x => p.closed (fun _ => answer p)
        (Ensemble.valued (shape.meaning (references agents) x)) := by
      funext x
      rw [reference, Ensemble.valued]
    rw [meaning]
    exact ⟨_, ⟨cast.orchestration.closing p fun _ => answer p⟩⟩

/-- Each of these agents does what it means; where there is none, there is nothing to do. -/
theorem allSimulated : (agents : List Tree) → AllSound agents → ∀ i, ∃ effort, Nonempty
    (Simulation ((behaviours agents).getD i Work.nothing.behaviour)
      ((references agents).getD i Work.nothing.meaning) effort)
  | [], _, i => by
    rw [behaviours, references]
    exact ⟨_, ⟨Work.nothing.simulation⟩⟩
  | t :: rest, sound, i => by
    rw [AllSound] at sound
    rw [behaviours, references]
    cases i with
    | zero => exact simulated t sound.1
    | succ i => exact allSimulated rest sound.2 i
end

/-- Whatever the schedule, a tree of agents comes to the end that plain recursion over it gives; and so does
the agent that runs it on a hub. -/
theorem refines (t : Tree) (sound : t.Sound) (x : Scope) :
    t.behaviour.Ends x (t.reference x) ∧
    ∀ (κ α ω : Type) (n : Nat) (w : World κ α Seat ω), w.hub.Ready n → w.hub.scope n = x →
      ((t.agent.run n w).2.hub.scope n, (t.agent.run n w).1) = t.reference x := by
  obtain ⟨effort, ⟨simulation⟩⟩ := simulated t sound
  refine ⟨simulation.ends x, fun κ α ω n w ready at_ => ?_⟩
  obtain ⟨b, yields, scope, -⟩ := t.means sound n w.hub.board ⟨ready.scope, ready.starts, ready.events⟩
  obtain ⟨result, board⟩ := yields w rfl
  have there : w.hub.board.scope n = x := at_
  rw [there] at result scope
  have left : (t.agent.run n w).2.hub.scope n = (t.reference x).1 := by
    rw [← scope, ← board]
    rfl
  exact Prod.ext left result

/-- A loop over an agent that takes notes, and one that fails as soon as there are two of them. -/
def noting : Tree :=
  .composite { name := "noting" } (.loop 3 (some (.constant (.bool false))) false)
    [.leaf { name := "writer", outputKey := some "note" }
      (.step (fun x => x.write "before" (x.read "note" .null)) fun _ => .done (.ok (.bool true))),
    .composite { name := "unless" } (.conditional [(0, .holds "before")])
      [.leaf { name := "reader" } (.done (.error (.of (.tool "two notes"))))]]

theorem refines_noting :
    let o : Scope × Result Value :=
      ({ state := [("before", .bool true), ("note", .bool true)] }, .error (.of (.tool "two notes")))
    let w : World Unit Unit Seat Unit := { hub := { scopes := [{}] }, host := () }
    noting.Sound ∧ noting.behaviour.Ends {} o ∧ w.hub.Ready 0 ∧ w.hub.scope 0 = {} ∧
      ((noting.agent.run 0 w).2.hub.scope 0, (noting.agent.run 0 w).1) = o := by
  have sound : noting.Sound := by
    simp only [noting, Sound, AllSound, Shape.Sound, and_true, true_and]
    refine ⟨⟨by decide, ?_⟩, ?_⟩
    · intro c given
      obtain rfl := Option.some.inj given
      intro x n
      exact ⟨false, rfl⟩
    · intro c mem
      obtain rfl := List.mem_singleton.mp mem
      intro x n
      exact ⟨(x.read "before" .null).truthy, rfl⟩
  obtain ⟨ends, runs⟩ := refines noting sound {}
  have ready : Hub.Ready 0 ({ scopes := [{}] } : Hub Unit Unit Seat) := ⟨by decide, rfl, rfl⟩
  exact ⟨sound, ends, ready, rfl, runs Unit Unit Unit 0 _ ready rfl⟩

end Tree
end Rendezvous
