import Rendezvous.Proofs.Release.Planned
import Rendezvous.Proofs.Release.Replayed

/-!
# Every orchestration releases its loop once

In whatever order the replies come, an orchestration asks for the release of its loop once, last of all, and its status and
its result say what has been replied (`Walk.releases_once`).  After a failure among steps that run side by side, the others
may still report, and the status goes on to say so.
-/

namespace Rendezvous

set_option autoImplicit false

namespace Walk

/-- What an orchestration has asked for, what it shows and what it comes to. -/
structure Released (s : OrchestrationStart) (w : Walk) : Prop where
  /-- The release of the loop is asked for once, when the drive is over, and nothing is asked for after it. -/
  before : w.place.hasReleased = false → Unreleased w.asks
  after : w.place.hasReleased = true → ∃ before, w.asks = before ++ [.complete s.plannerId] ∧ Unreleased before
  /-- When the drive is over, the orchestration raises the failure that has come first, and does not raise otherwise. -/
  raises : ∀ v, w.place.outcome? = some v → Act.failure? v = w.replies.findSome? Reply.failure?
  shows : (w.status s).completedSteps = w.completed.map Prod.snd
  running : w.place.outcome? = none → (w.status s).state = .running ∧ (w.status s).error = none
  failed : ∀ f, w.place.outcome? = some (.error f) →
    (w.status s).state = .failed ∧ (w.status s).error = some f.message
  completed : ∀ r, w.place.outcome? = some (.ok r) →
    (w.status s).state = .completed ∧ (w.status s).error = none ∧ r.steps = w.completed.map Prod.snd
  /-- No step succeeds twice, and in the end all that have been asked for have succeeded. -/
  once : (w.completed.map Prod.fst).Nodup
  all : ∀ r, w.place.outcome? = some (.ok r) → (w.completed.map Prod.fst).Perm w.orders
  parallel : s.topology = .parallel → ∀ r, w.place.outcome? = some (.ok r) →
    (w.completed.map (·.1.agentIndex)).Perm (List.range s.agentCount)
  /-- Some reply leads on until the loop has been released, and only so many replies can come before that. -/
  goesOn : w.place.isEnded = false → ∃ w', Step s w w'
  ends : Acc (fun after before => Step s before after) w

variable {s : OrchestrationStart} {w : Walk}

/-- When the drive has come to a result, the steps that have been asked for have succeeded. -/
theorem Reachable.completed_perm_orders (reach : Reachable s w) {r : OrchestrationResult}
    (well : w.place.outcome? = some (.ok r)) : (w.completed.map Prod.fst).Perm w.orders := by
  have fine : w.replies.findSome? Reply.failure? = none :=
    reach.recorded.failure.trans (Place.of_outcome? well).1
  have account := reach.balanced.account
  rw [reach.balanced.idle (Place.of_outcome? well).2, List.append_nil] at account
  rwa [completed, completedOf_of_fine fine]

/-- No step succeeds twice. -/
theorem Reachable.completed_nodup (reach : Reachable s w) : (w.completed.map Prod.fst).Nodup := by
  have distinct := reach.balanced.account.nodup_iff.mpr reach.numbered.orders
  exact (List.nodup_append.mp distinct).1.sublist (completedOf_sublist w.replies)

theorem status_completedSteps (s : OrchestrationStart) (w : Walk) :
    (w.status s).completedSteps = w.progress.steps := by
  unfold status
  split <;> rfl

/-- A parallel orchestration that does not fail has had a step of each agent. -/
theorem Reachable.completed_perm_range (reach : Reachable s w) (parallel : s.topology = .parallel)
    {r : OrchestrationResult} (well : w.place.outcome? = some (.ok r)) :
    (w.completed.map (·.1.agentIndex)).Perm (List.range s.agentCount) := by
  have orders := reach.orders_of_parallel parallel (Option.isSome_iff_exists.mpr ⟨_, well⟩)
  have all := (reach.completed_perm_orders well).map StepOrder.agentIndex
  rw [orders, Ensemble.stepOrders, List.map_map, List.map_map] at all
  exact all.trans (.of_eq (List.map_id _))

theorem Reachable.released (reach : Reachable s w) : Released s w where
  before := reach.guarded.before
  after := reach.guarded.after
  raises v decided := (Place.of_outcome? decided).1.symm.trans reach.recorded.failure.symm
  shows := (w.status_completedSteps s).trans reach.recorded.steps
  running going := by
    rw [status, going]
    exact ⟨rfl, rfl⟩
  failed f decided := by
    rw [status, decided]
    exact ⟨rfl, rfl⟩
  completed r decided := by
    refine ⟨?_, ?_, ?_⟩
    · rw [status, decided]
      rfl
    · rw [status, decided]
      rfl
    · rw [reach.balanced.result r decided]
      exact reach.recorded.steps
  once := reach.completed_nodup
  all r := reach.completed_perm_orders
  parallel topology r := reach.completed_perm_range topology
  goesOn := Walk.goesOn
  ends := w.acc

/-- Every step succeeds, and those that run side by side do so in the reverse order. -/
def backwards : Oracle where
  step _ o := .ok (Script.report o)
  gather _ os := os.reverse.map fun o => (o, .ok (Script.report o))
  checkExit _ _ := .ok true
  checkCondition _ _ := .ok true
  complete _ _ := .ok ()

theorem backwards_serves : backwards.Serves where
  gathers _ os := by
    refine ⟨[], ?_, fun _ => rfl⟩
    rw [List.append_nil, backwards, List.map_map]
    exact (List.Perm.of_eq (List.map_id _)).trans os.reverse_perm
  releases _ _ := rfl

/-- Every orchestration releases its loop once, whatever it is replied and in whatever order.  Over an oracle it goes such
a way to its end, and what ends can be played over an oracle. -/
theorem releases_once (s : OrchestrationStart) :
    (∀ w, Reachable s w → Released s w) ∧
      (∀ oracle : Oracle, oracle.Serves → ∃ w, Reachable s w ∧ oracle.Plays s w ∧
        w.replies = ((orchestrate oracle.activities s).run []).2) ∧
      ∀ w, Reachable s w → w.place.isEnded = true → ∃ oracle : Oracle, oracle.Serves ∧ oracle.Plays s w := by
  exact ⟨fun _ reach => reach.released, fun _ serves => serves.played s, fun _ reach end_ => reach.replayed end_⟩

/-- Of two steps side by side the second fails; while the loop is being released, the first succeeds, and is shown.  When
both succeed, the second before the first, that is a result. -/
theorem releases_once_pair :
    let s : OrchestrationStart := ⟨"p", .parallel, 2, unboundedIterations, false⟩
    (∃ w, Released s w ∧ w.place = .ended (.error (.of (.badValue "second"))) ∧
      w.asks = [.step ⟨"p", 0, 0⟩, .step ⟨"p", 1, 0⟩, .complete "p"] ∧
      (w.status s).completedSteps = [Script.report ⟨"p", 0, 0⟩] ∧ ∃ oracle : Oracle, oracle.Plays s w) ∧
    ∃ w, Released s w ∧ backwards.Plays s w ∧ w.replies = [1, 0].map (fun i =>
      .step ⟨"p", i, 0⟩ (.ok (Script.report ⟨"p", i, 0⟩))) ++ [.complete "p" (.ok ())] := by
  let s : OrchestrationStart := ⟨"p", .parallel, 2, unboundedIterations, false⟩
  constructor
  · have asked := (((Reachable.opening (s := s)).step (.orderAll _ _ _ rfl)).step (.ask _ _ _ _ _ rfl)).step
      (.ask _ _ _ _ _ rfl)
    have failed := (asked.step (.fail _ 1 _ (.of (.badValue "second")) _ _ _ rfl rfl)).step (.giveUp _ _ _ rfl)
    have late := ((failed.step (.release _ _ rfl)).step (.succeed _ 0 _ (Script.report ⟨"p", 0, 0⟩) rfl rfl)).step
      (.released _ _ rfl)
    obtain ⟨oracle, -, plays⟩ := (releases_once s).2.2 _ late rfl
    exact ⟨_, (releases_once s).1 _ late, rfl, rfl, rfl, oracle, plays⟩
  · obtain ⟨w, reach, plays, replies⟩ := (releases_once s).2.1 backwards backwards_serves
    exact ⟨w, (releases_once s).1 w reach, plays, replies⟩

end Walk
end Rendezvous
