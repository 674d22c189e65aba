import Rendezvous.Agent.Composite
import Rendezvous.Proofs.Binding.Pacing
import Rendezvous.Proofs.Routing.Transparency

/-!
# What a composite leaves bound

A composite that has returned or raised leaves its caller without a run, whatever run it was called in, and
however deep it is nested (`Composite.invoke_binding`).  The caller keeps its run only where there was none, or
where the composite could not let its first batch run for want of a pool.  The calls that the caller makes
afterwards are then executed where they are made and recorded nowhere.

Composites of agents that spare the planners of others spare them as well (`Composite.toAgent_spares`), so
this goes for composites of composites.
-/

namespace Rendezvous

set_option autoImplicit false

variable {κ α ω : Type}

/-- The planners of others are found and stay as they are, whenever the agent runs. -/
def Agent.Spares (a : Agent κ α ω) : Prop :=
  ∀ (n : Nat) (w : World κ α Seat ω), w.sight.Spares (a.run n w).2.sight

namespace Act

variable {β γ : Type}

theorem newPlanner_apply {plan : PlannerPlan} (drawn : plan.id = "") (w : World κ α β ω) :
    (newPlanner plan w).1 = .ok w.sight.planners.length ∧ (newPlanner plan w).2.sight = { w.sight with
      planners := w.sight.planners ++ [{ plan := { plan with id := drawnId (w.sight.drawn + 1) } }]
      drawn := w.sight.drawn + 1 } := by
  obtain ⟨id, topology, maxIterations, testExitAtLoopEnd, exitCondition, conditions⟩ := plan
  subst drawn
  exact ⟨rfl, rfl⟩

theorem initPlanner_apply (k : Nat) (agents : List β) (scope : Nat) (w : World κ α β ω) :
    (initPlanner k agents scope w).1 = .ok () ∧ (initPlanner k agents scope w).2.sight = { w.sight with
      planners := w.sight.planners.set k ((w.sight.planner k).init agents scope)
      live := Entries.put (w.sight.planner k).plan.id k w.sight.live } :=
  ⟨rfl, rfl⟩

/-- The planner of a composite is seated among those that are there. -/
theorem seats {plan : PlannerPlan} (drawn : plan.id = "") (agents : List β) (scope : Nat) (start : Sight β)
    {f : Nat → Act κ α β ω γ} {Q : Result γ → Sight β → Prop}
    (rest : Ensures (fun v => start.Seated start.planners.length (start.drawn + 1)
      (some start.planners.length) (· = []) v ∧ v.run = start.run) (f start.planners.length) Q) :
    Ensures (· = start) (do
      let k ← newPlanner plan
      initPlanner k agents scope
      f k) Q := by
  rintro w rfl
  obtain ⟨number, new⟩ := newPlanner_apply drawn w
  rcases makes : newPlanner plan w with ⟨r, w'⟩
  rw [makes] at number new
  obtain rfl : r = .ok w.sight.planners.length := number
  have new : w'.sight = { w.sight with
      planners := w.sight.planners ++ [{ plan := { plan with id := drawnId (w.sight.drawn + 1) } }]
      drawn := w.sight.drawn + 1 } := new
  obtain ⟨done, sight⟩ := initPlanner_apply w.sight.planners.length agents scope w'
  rcases inits : initPlanner w.sight.planners.length agents scope w' with ⟨r, w''⟩
  rw [inits] at done sight
  obtain rfl : r = .ok () := done
  have here : w'.sight.planner w.sight.planners.length =
      { plan := { plan with id := drawnId (w.sight.drawn + 1) } } := by
    simp [new, Sight.planner, List.getD_eq_getElem?_getD]
  rw [bind_apply_of_ok makes, bind_apply_of_ok inits]
  refine rest w'' ?_
  rw [show w''.sight = _ from sight, here, new]
  exact ⟨.made w.sight _ rfl rfl, rfl⟩

end Act

namespace Composite

/-- The composite failed because there was no pool for its agents. -/
def Denied (c : Composite) (r : Result Value) : Prop :=
  r = .error Act.noPool ∧ c.workers.any (· < 0) = true

/-- What is left of the caller's run: nothing, unless the composite was denied a pool before it had bound or
cleared anything. -/
def Unbinds (c : Composite) (before : Option String) (r : Result Value) (after : Option String) : Prop :=
  after = none ∨ c.Denied r ∧ after = before

variable {agents : List (Agent κ α ω)} {c : Composite}

theorem runSeat_spares (spares : ∀ a ∈ agents, a.Spares) (scope : Nat) (s : Seat) (w : World κ α Seat ω) :
    w.sight.Spares (runSeat agents scope s w).2.sight := by
  unfold runSeat
  cases found : agents[s.position]? with
  | none => exact .refl _
  | some a =>
    have ran : Act.Ensures (· = w.sight) (a.run scope) fun _ v => w.sight.Spares v :=
      fun w' same => same ▸ spares a (List.mem_of_getElem? found) scope w'
    have runs : Act.Ensures (· = w.sight) (do let _ ← a.run scope : Act κ α Seat ω Unit)
        fun _ v => w.sight.Spares v := ran.bind (fun _ => .pure fun _ => id) fun _ _ => id
    exact runs w rfl

/-- Whatever comes of a composite, the planners of others are spared and its caller has no run, unless it was
denied a pool. -/
theorem invoke_leaves (drawn : c.plan.id = "") (spares : ∀ a ∈ agents, a.Spares) (n : Nat) (start : Sight Seat) :
    Act.Ensures (· = start) (c.invoke agents n)
      fun r v => start.Spares v ∧ c.Unbinds start.run r v.run := by
  refine Act.seats drawn (Agent.seats agents) n start ?_
  refine Act.Ensures.bind (Act.pace_leaves (fun seat w => runSeat_spares spares n seat w) rfl) (fun _ => ?_) ?_
  · refine (Act.Ensures.aloof (.bind (fun _ => rfl) fun s => ?_)).imp (fun _ => id) fun _ _ left =>
      ⟨left.seated.spares, .inl left.unbound⟩
    cases Text.given? c.profile.outputKey with
    | none => exact .pure _
    | some key => exact .pure _
  · rintro e v (left | refused)
    · exact ⟨left.seated.spares, .inl left.unbound⟩
    · exact ⟨refused.spares, .inr ⟨⟨congrArg _ refused.failure, refused.workers⟩, refused.same⟩⟩

/-- Where a pool is not denied, a caller that had a run has lost it. -/
theorem invoke_unbinds (drawn : c.plan.id = "") (spares : ∀ a ∈ agents, a.Spares)
    (pool : c.workers.any (· < 0) = false) (n : Nat) (w : World κ α Seat ω) :
    (c.invoke agents n w).2.context.run = none := by
  have leaves := (invoke_leaves drawn spares n w.sight w rfl).2
  refine leaves.resolve_right fun denied => ?_
  rw [denied.1.2] at pool
  cases pool

/-- A composite of agents that spare the planners of others spares them too, also when it stores its
result. -/
theorem toAgent_spares (drawn : c.plan.id = "") (spares : ∀ a ∈ agents, a.Spares) : (c.toAgent agents).Spares := by
  intro n w
  have invoked : Act.Ensures (· = w.sight) (c.invoke agents n) fun _ v => w.sight.Spares v :=
    (invoke_leaves drawn spares n w.sight).imp (fun _ => id) fun _ _ => And.left
  refine (invoked.bind (fun v => .aloof ?_) fun _ _ => id) w rfl
  cases Text.given? (c.toAgent agents).profile.outputKey with
  | none => exact .bind (.pure ()) fun _ => .pure v
  | some key => exact .bind (.changeHub (fun _ => rfl) (fun _ => rfl) fun _ => rfl) fun _ => .pure v

/-- After a composite its caller has no run, unless the composite was denied a pool and has left everything as it
was.  So the caller keeps its run exactly if it had none; what it calls next is executed where it is called, and
for no run, unless it serves a request. -/
theorem invoke_binding (drawn : c.plan.id = "") (spares : ∀ a ∈ agents, a.Spares) {n : Nat}
    {w after : World κ α Seat ω} {r : Result Value} (invoked : c.invoke agents n w = (r, after)) :
    c.Unbinds w.context.run r after.context.run ∧
    (¬ c.Denied r → (after.context.run = w.context.run ↔ w.context.run = none)) ∧
    (after.context.run ≠ w.context.run → after.context.request = none →
      ∀ (h : Performer κ α Seat ω) (call : RoutedCall κ), Act.route h call after = h.perform call.call after) := by
  have unbinds : c.Unbinds w.context.run r after.context.run := by
    have leaves := (invoke_leaves drawn spares n w.sight w rfl).2
    rw [invoked] at leaves
    exact leaves
  refine ⟨unbinds, fun pool => ?_, fun other request h call => ?_⟩
  · have none : after.context.run = none := unbinds.resolve_right fun denied => pool denied.1
    rw [none]
    exact eq_comm
  · have none : after.context.run = none := unbinds.resolve_right fun denied => other denied.2
    exact Act.route_of_direct (.inr ⟨none, request⟩) h call

/-! ## A nested composite -/

/-- An agent that does nothing. -/
def idle (name : String) : Agent Unit Unit Unit where
  kind := "ScriptAgent"
  profile := { name }
  invoke _ := pure .null

theorem idle_spares (name : String) : (idle name).Spares := fun _ _ => .refl _

/-- A sequence of agents. -/
def inSequence (name : String) : Composite where
  profile := { name }
  plan := { id := "", topology := .sequence }

/-- A sequence of an agent and of a sequence of one agent. -/
def nested : List (Agent Unit Unit Unit) := [idle "A", (inSequence "inner").toAgent [idle "B"]]

theorem nested_spares : ∀ a ∈ nested, a.Spares := by
  have inner : ((inSequence "inner").toAgent [idle "B"]).Spares :=
    toAgent_spares rfl (List.forall_mem_singleton.mpr (idle_spares "B"))
  exact List.forall_mem_cons.mpr ⟨idle_spares "A", List.forall_mem_singleton.mpr inner⟩

/-- The thread of a run. -/
def tracked : World Unit Unit Seat Unit where
  context := { run := some "run-1" }
  host := ()

/-- The caller of a nested composite had a run and has none afterwards. -/
theorem nested_unbinds : ∃ (r : Result Value) (after : World Unit Unit Seat Unit),
    (inSequence "outer").invoke nested 0 tracked = (r, after) ∧
    tracked.context.run = some "run-1" ∧ after.context.run ≠ tracked.context.run := by
  rcases invoked : (inSequence "outer").invoke nested 0 tracked with ⟨r, after⟩
  obtain ⟨-, kept, -⟩ := invoke_binding rfl nested_spares invoked
  refine ⟨r, after, rfl, rfl, fun same => ?_⟩
  have pool : ¬ (inSequence "outer").Denied r := fun denied => nomatch denied.2
  have unbound : tracked.context.run = none := (kept pool).mp same
  cases unbound

/-- A composite does not restore the run of its caller. -/
theorem not_forall_restored : ¬ ∀ (c : Composite) (agents : List (Agent Unit Unit Unit)) (n : Nat)
    (w : World Unit Unit Seat Unit), c.plan.id = "" → (∀ a ∈ agents, a.Spares) →
    (c.invoke agents n w).2.context.run = w.context.run := by
  intro restored
  have same := restored (inSequence "outer") nested 0 tracked rfl nested_spares
  rw [invoke_unbinds rfl nested_spares rfl] at same
  cases same

end Composite
end Rendezvous
