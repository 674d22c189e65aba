import Rendezvous.Proofs.Interleaving.Verdict

/-!
# What the caller learns about the workflow

The caller of an orchestration learns what its loop ends with.  A workflow that completes is always
reported as such, and everything that its topology called for has been done.  A workflow that fails is
reported exactly when a turn has failed: a question that fails, or a step that cannot be started or ended,
reaches the loop only through the notice that the orchestration has ended, which looks like success
(`Reachable.agreement_iff`, `not_forall_agree`).
-/

namespace Rendezvous

set_option autoImplicit false

namespace Ensemble

variable {β σ : Type} {e : Ensemble β σ}

/-- When the workflow completes, no step is under way and every slot holds a success. -/
theorem Reachable.assigned_of_completed {s : e.Stage} (reach : Reachable s)
    (completed : s.flow = .finished none) {k : Nat} {x : Slot Unit} (there : s.slots[k]? = some x) :
    x = .assigned (.ok ()) := by
  have roster := reach.tended.roster
  rw [completed] at roster
  have none : s.errands = [] := roster
  cases x with
  | pending =>
    obtain ⟨step, waits, -⟩ := reach.tended.waited there
    rw [none] at waits
    cases waits
  | assigned turn =>
    cases turn with
    | ok u => rfl
    | error f =>
      rcases reach.tended.blamed there with failed | ⟨a, among, -⟩
      · rw [completed] at failed
        cases failed
      · rw [none] at among
        cases among

/-- A loop that has given up has a workflow that fails. -/
theorem Reachable.not_completed {s : e.Stage} (reach : Reachable s) {f : Failure}
    (ended : s.loop = .ended (.error f)) : s.flow ≠ .finished none := by
  intro completed
  have failure : s.loop.failure? = some f := by rw [ended]; rfl
  rcases reach.judged.ill failure with unscheduled | ⟨-, k, hand | assigned⟩
  · rw [completed] at unscheduled
    cases unscheduled
  · rw [ended] at hand
    cases hand
  · cases reach.assigned_of_completed completed assigned

/-- A batch that cannot be run at all stays where it is. -/
theorem Reachable.not_completed_of_refused {s : e.Stage} (reach : Reachable s)
    (refused : s.loop = .refused) : s.flow ≠ .finished none := by
  intro completed
  have tally := reach.counted.tally
  rw [refused] at tally
  obtain ⟨k, mem⟩ := List.exists_mem_of_ne_nil _ tally
  have pending : s.slots[k]? = some .pending := by
    rw [reach.ledger.pending, Stage.held, Planner.openSlots_eq]
    simp [mem]
  cases reach.assigned_of_completed completed pending

/-- What the caller learns once the workflow is over.  It agrees with the workflow if and only if the
workflow has completed or a turn has failed.  If the workflow has completed, the loop ends well, and all
orders of a whole way through the course have been served.  If the loop ends with a failure, it is that of a
turn, and the workflow has failed as well.  And the loop does not wait for ever. -/
theorem Reachable.agreement_iff {s : e.Stage} (reach : Reachable s) {v : Option Failure}
    (finished : s.flow = .finished v) :
    (∀ r, s.loop = .ended r →
      ((r = .ok () ↔ v = none) ↔ (v ≠ none → ∃ sub f, (sub, .error f) ∈ s.taken)) ∧
      (v = none → r = .ok () ∧ (∀ o ∈ s.orders, s.Served o) ∧
        ∃ id start, (e.planner id).start = .ok start ∧ Leads e (.of start) s.orders .finish) ∧
      (∀ f, r = .error f → v ≠ none ∧ ∃ sub, (sub, .error f) ∈ s.taken)) ∧
    (s.loop = .refused → v ≠ none) ∧
    (s.loop = .looking → ∃ t, LoopStep s t ∧ t.loop = .leaving (.ok ())) := by
  refine ⟨fun r ended => ?_, fun refused none => ?_, fun looking => ?_⟩
  · have gaveUp (f : Failure) (error : r = .error f) : v ≠ none ∧ ∃ sub, (sub, .error f) ∈ s.taken := by
      subst error
      refine ⟨fun none => reach.not_completed ended (by rw [finished, none]), ?_⟩
      have failure : s.loop.failure? = some f := by rw [ended]; rfl
      rcases reach.judged.ill failure with unscheduled | blames
      · rw [finished] at unscheduled
        cases unscheduled
      · exact blames.taken
    have well (none : v = none) : r = .ok () := by
      cases r with
      | ok u => rfl
      | error f => exact absurd none (gaveUp f rfl).1
    refine ⟨⟨fun agree some => ?_, fun blamed => ⟨fun ok => ?_, well⟩⟩,
      fun none => ⟨well none, ?_, ?_⟩, gaveUp⟩
    · cases r with
      | ok u => exact absurd (agree.mp rfl) some
      | error f =>
        obtain ⟨sub, taken⟩ := (gaveUp f rfl).2
        exact ⟨sub, f, taken⟩
    · refine Classical.byContradiction fun some => ?_
      obtain ⟨sub, f, taken⟩ := blamed some
      have fine : s.loop.failure? = none := by rw [ended, ok]; rfl
      obtain ⟨w, same⟩ := reach.judged.well fine _ taken
      cases same
    · intro o mem
      have roster := reach.tended.roster
      rw [finished, none] at roster
      have empty : s.errands = [] := roster
      rcases reach.accounted (by rw [finished, none]; rfl) o mem with served | ⟨a, among, -⟩
      · exact served
      · rw [empty] at among
        cases among
    · obtain ⟨id, start, valid, follows⟩ :=
        reach.followed.since (by rw [finished]; exact fun no => by cases no)
      rw [finished] at follows
      exact ⟨id, start, valid, follows none⟩
  · exact reach.not_completed_of_refused refused (by rw [finished, none])
  · rcases reach.notified.left (by rw [finished]; rfl) with there | through
    · obtain ⟨p, drained⟩ := Planner.drain_of_complete there
      exact ⟨_, .stop s p looking drained, rfl⟩
    · rw [looking] at through
      cases through

/-! ## A question that fails -/

/-- What the condition of the second agent fails with. -/
def doubt : Failure := .of (.badValue "no answer")

/-- Two agents that do nothing, the second one with a condition that fails. -/
def doubtful : Ensemble Nat Unit where
  plan := { id := "", topology := .conditional, conditions := [(1, .failing doubt)] }
  agents := [0, 1]
  profile _ := { name := "" }
  behaviour _ := {
    State := Unit
    start := ()
    Step := fun _ _ _ _ => False
    result? := fun _ => some (.ok .null) }
  scopeOf _ := {}
  engine r := r = .ok ()

/-- The first agent has its turn, and then the workflow fails. -/
theorem doubtful_run : ∃ s : doubtful.Stage, Reachable s ∧ s.loop = .ended (.ok ()) ∧
    s.flow = .finished (some doubt) ∧
    s.taken.map (fun turn => (turn.1.agent, turn.2.isOk)) = [(0, true)] := by
  have s := Reachable.opening (e := doubtful)
  have s := s.step (x := ()) (.loop (.name _ "planner" rfl))
  have s := s.step (x := ()) (.loop (.schedule _ ⟨"planner", .conditional, 2, unboundedIterations, false⟩ rfl
    (by rw [Planner.start_eq]; rfl) rfl))
  have s := s.step (x := ()) (.loop (.count _ 0 rfl))
  -- the first agent has no condition
  have s := s.step (x := ()) (.flow (.askCondition _ _ _ rfl))
  have s := s.step (x := ()) (.flow (.find _ _ _ rfl rfl))
  have s := s.step (x := ()) (.flow (.evaluate _ _ _ rfl))
  have s := s.step (x := ()) (.flow (.branch _ _ true _ rfl))
  have s := s.step (x := ()) (.flow (.order _ _ _ rfl))
  have s := s.step (x := ()) (.errand 0 rfl (.find _ _ 0 rfl rfl))
  have s := s.step (x := ()) (.errand 0 rfl (.begin _ _ _ rfl))
  have s := s.step (x := ()) (.errand 0 rfl (.submit _ _ _))
  -- its turn
  have s := s.step (x := ()) (.loop (.call _ [_] _ rfl rfl (by simp [Refuses])))
  have s := s.step (x := ()) (.loop (.finish _ _ [.ok .null] rfl rfl rfl))
  have s := s.step (x := ()) (.loop (.acknowledge _ 0 rfl))
  have s := s.step (x := ()) (.loop (.assign _ _ _ rfl))
  have s := s.step (x := ()) (.loop (.count _ 0 rfl))
  have s := s.step (x := ()) (.errand 0 rfl (.wake _ _ _ rfl))
  have s := s.step (x := ()) (.errand 0 rfl (.finish _ _ _ rfl))
  have s := s.step (x := ()) (.flow (.report _ 0 0 _ _ _ rfl rfl))
  have s := s.step (x := ()) (.flow (.resume _ _ rfl))
  -- the condition of the second one
  have s := s.step (x := ()) (.flow (.askCondition _ _ _ rfl))
  have s := s.step (x := ()) (.flow (.find _ _ _ rfl rfl))
  have s := s.step (x := ()) (.flow (.evaluate _ _ _ rfl))
  have s := s.step (x := ()) (.flow (.refuse _ _ doubt _ rfl))
  have s := s.step (x := ()) (.flow (.findLoop _ _ rfl rfl))
  have s := s.step (x := ()) (.flow (.release _ _ rfl))
  have s := s.step (x := ()) (.flow (.close _ _ rfl))
  have s := s.step (x := ()) (.loop (.stop _ _ rfl rfl))
  have s := s.step (x := ()) (.loop (.leave _ _ rfl))
  exact ⟨_, s, rfl, rfl, rfl⟩

/-- The caller learns nothing of the failure, since no turn has failed. -/
theorem no_turn_to_blame : ∃ s : doubtful.Stage, s.loop = .ended (.ok ()) ∧ s.flow = .finished (some doubt) ∧
    ¬ ∃ sub f, (sub, .error f) ∈ s.taken := by
  obtain ⟨s, reach, ended, finished, -⟩ := doubtful_run
  obtain ⟨agreement, -⟩ := reach.agreement_iff finished
  obtain ⟨agrees, -⟩ := agreement _ ended
  refine ⟨s, ended, finished, fun blamed => ?_⟩
  cases (agrees.mpr fun _ => blamed).mp rfl

/-- A caller whose orchestration has failed may be told that all is well, and half of the agents have had
their turns. -/
theorem not_forall_agree : ¬ ∀ s : doubtful.Stage, Reachable s → ∀ r v, s.loop = .ended r →
    s.flow = .finished v → (r = .ok () ↔ v = none) := by
  intro all
  obtain ⟨s, reach, ended, finished, -⟩ := doubtful_run
  cases (all s reach _ _ ended finished).mp rfl

end Ensemble
end Rendezvous
