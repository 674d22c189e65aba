import Rendezvous.Proofs.Interleaving.Verdict

/-!
# Steps that are left behind

The last look of the loop takes everything from the queue, and runs nothing of it when the workflow has
ended; whatever is submitted after that is not looked at.  Those submissions, and no others, keep the
steps that made them waiting for good (`Reachable.orphaned_iff`).  It takes a parallel orchestration in
which a turn or the workflow has failed, and then it does happen (`not_forall_assigned`).
-/

namespace Rendezvous

set_option autoImplicit false

namespace Ensemble

variable {β σ : Type} {e : Ensemble β σ}

/-- The stages that a schedule may still lead to. -/
inductive Later (s : e.Stage) : e.Stage → Prop
  | now : Later s s
  | step {t u : e.Stage} {x y : σ} : Later s t → Step t x u y → Later s u

/-- A step that has found its planner and has not submitted its agent yet. -/
def Errand.between : Errand β → Bool
  | .found .. | .begun .. => true
  | _ => false

theorem Reachable.later {s t : e.Stage} (reach : Reachable s) (later : Later s t) : Reachable t := by
  induction later with
  | now => exact reach
  | step _ step ih => exact .step ih step

/-! ## Nobody comes back for what has been left behind -/

theorem LoopStep.leftBehind {s t : e.Stage} (step : LoopStep s t) {r : Result Unit}
    (ended : s.loop.outcome? = some r) : t.loop.outcome? = some r ∧ t.leftBehind = s.leftBehind := by
  cases step with
  | leave r' at_ =>
    rw [at_] at ended
    exact ⟨ended, rfl⟩
  | name id at_ | schedule start at_ _ _ | invalid f at_ _ | unscheduled f at_ _ | count left at_
  | call batch p at_ _ _ | refuse batch p at_ _ _ | stop p at_ _ | finish batch outcomes at_ _ _
  | giveUp batch outcomes f at_ _ _ | acknowledge left at_ | assign slot left at_ | failNext slot rest f at_
  | failed f at_ =>
    rw [at_] at ended
    cases ended

theorem Step.leftBehind {s t : e.Stage} {x y : σ} (step : Step s x t y) {r : Result Unit}
    (ended : s.loop.outcome? = some r) :
    t.loop.outcome? = some r ∧ ∀ {k}, k ∈ s.leftBehind → k ∈ t.leftBehind := by
  have grown {queue : List (Notice β)} (n : Notice β) {k : Nat} (mem : k ∈ Planner.slotsOf queue) :
      k ∈ Planner.slotsOf (queue ++ [n]) := by
    rw [Planner.slotsOf_append]
    exact List.mem_append_left _ mem
  cases step with
  | loop step =>
    obtain ⟨still, same⟩ := step.leftBehind ended
    exact ⟨still, fun mem => by rwa [same]⟩
  | flow step =>
    obtain ⟨loop, -, -, -, dropped, -, -, planner⟩ := step.frame
    refine ⟨by rwa [loop], fun {k} mem => ?_⟩
    rcases planner with same | complete
    · rwa [Stage.leftBehind, dropped, same]
    · rw [Stage.leftBehind, dropped, complete]
      simpa only [Planner.complete, Planner.put, List.append_assoc] using grown .complete mem
  | errand i there step =>
    rcases step.frame with rfl | ⟨o, agent, -, rfl, -⟩
    · exact ⟨ended, id⟩
    · refine ⟨ended, fun {k} mem => ?_⟩
      simpa only [Stage.leftBehind, Stage.submit, Planner.submit, Planner.put, List.append_assoc]
        using grown (.turn (s.submission o agent)) mem
  | perform i at_ there moves =>
    rw [at_] at ended
    cases ended
  | linger i there moves => exact ⟨ended, id⟩

theorem Later.leftBehind {s t : e.Stage} (later : Later s t) {r : Result Unit}
    (ended : s.loop.outcome? = some r) {k : Nat} (mem : k ∈ s.leftBehind) :
    t.loop.outcome? = some r ∧ k ∈ t.leftBehind := by
  induction later with
  | now => exact ⟨ended, mem⟩
  | step _ step ih =>
    obtain ⟨still, kept⟩ := step.leftBehind ih.1
    exact ⟨still, kept ih.2⟩

/-! ## When something is left behind -/

/-- Outside of parallel orchestrations at most one step is under way. -/
theorem Sole.length_le {id : String} {width : Nat} {errands : List (Errand β)} {flow : Flow}
    (sole : Sole id width errands flow) (roster : Roster errands flow) : errands.length ≤ 1 := by
  cases flow with
  | stepping missing next =>
    have all : errands.length = missing := roster
    have most := sole.1
    omega
  | releasing visit v | finished v =>
    have none : errands = [] := sole
    simp [none]
  | _ =>
    have none : errands = [] := roster
    simp [none]

/-- Nothing is left behind unless several steps are under way and something has failed. -/
theorem Reachable.leftBehind_of {s : e.Stage} (reach : Reachable s) {r : Result Unit}
    (ended : s.loop.outcome? = some r) {k : Nat} (mem : k ∈ s.leftBehind) :
    e.plan.topology = .parallel ∧ (s.flow.failed = true ∨ ∃ sub f, (sub, .error f) ∈ s.taken) := by
  have roster := reach.tended.roster
  have pending := (reach.pending_iff ended k).mpr mem
  obtain ⟨step, waits, rfl⟩ := reach.tended.waited pending
  have some : s.errands ≠ [] := List.ne_nil_of_mem waits
  cases r with
  | ok u =>
    -- the loop has found the notice, so the workflow has ended; it waits for all steps if it goes well
    have released := reach.notified.noticed (.inr (reach.notified.told ended))
    have fails : s.flow.failed = true := by
      cases flow : s.flow with
      | releasing visit v | finished v =>
        cases v with
        | some f => rfl
        | none =>
          rw [flow] at roster
          exact absurd roster some
      | _ =>
        rw [flow] at released
        cases released
    refine ⟨Classical.byContradiction fun topology => ?_, .inl fails⟩
    obtain ⟨id, sole⟩ := reach.sole topology
    cases flow : s.flow with
    | releasing visit v | finished v =>
      rw [flow] at sole
      exact some sole
    | _ =>
      rw [flow] at released
      cases released
  | error f =>
    have failure : s.loop.failure? = .some f := by
      cases loop : s.loop with
      | leaving r | ended r =>
        rw [loop] at ended
        obtain rfl : r = .error f := Option.some.inj ended
        rfl
      | _ =>
        rw [loop] at ended
        cases ended
    rcases reach.judged.ill failure with unscheduled | ⟨⟨sub, taken⟩, j, blamed⟩
    · rw [unscheduled] at roster
      exact absurd roster some
    · refine ⟨Classical.byContradiction fun topology => ?_, .inr ⟨sub, f, taken⟩⟩
      -- the only step under way would have to wait for a slot that has been assigned
      obtain ⟨id, sole⟩ := reach.sole topology
      have assigned : s.slots[j]? = .some (.assigned (.error f)) := by
        rcases blamed with hand | assigned
        · rw [Loop.inHand_of_outcome? ended] at hand
          cases hand
        · exact assigned
      rcases reach.tended.blamed assigned with failed | ⟨a, among, concerned⟩
      · cases flow : s.flow with
        | releasing visit v | finished v =>
          rw [flow] at sole
          exact some sole
        | _ =>
          rw [flow] at failed
          cases failed
      · have only : a = .waiting step := by
          obtain ⟨b, alone⟩ := List.length_eq_one_iff.mp
            (Nat.le_antisymm (sole.length_le roster) (List.length_pos_iff.mpr some))
          rw [alone, List.mem_singleton] at among waits
          rw [among, waits]
        subst only
        have same : step.slot = j := concerned
        rw [same, assigned] at pending
        cases pending

/-- Who waits for good, once the loop assigns no slots any more: the steps behind the submissions that
were left behind, and nobody else.  Those submissions came too late for the last look of the loop, or
together with the notice that the orchestration has ended. -/
theorem Reachable.orphaned_iff {s : e.Stage} (reach : Reachable s) {r : Result Unit}
    (ended : s.loop.outcome? = some r) :
    ((∀ slot ∈ s.slots, slot.isDone = true) ↔ s.leftBehind = []) ∧
      (∀ step, .waiting step ∈ s.errands →
        ((∃ turn, s.slots[step.slot]? = some (.assigned turn)) ↔ step.slot ∉ s.leftBehind)) ∧
      (∀ k ∈ s.leftBehind, ∀ t, Later s t →
        t.slots[k]? = some .pending ∧ ∃ step, .waiting step ∈ t.errands ∧ step.slot = k) ∧
      (s.leftBehind ≠ [] →
        e.plan.topology = .parallel ∧ (s.flow.failed = true ∨ ∃ sub f, (sub, .error f) ∈ s.taken)) := by
  refine ⟨⟨fun all => ?_, fun none slot mem => ?_⟩, fun step waits => ⟨?_, fun kept => ?_⟩, ?_, ?_⟩
  · refine List.eq_nil_iff_forall_not_mem.mpr fun k mem => ?_
    have pending := (reach.pending_iff ended k).mpr mem
    cases all _ (List.mem_of_getElem? pending)
  · obtain ⟨k, there⟩ := List.mem_iff_getElem?.mp mem
    cases slot with
    | assigned turn => rfl
    | pending =>
      have left := (reach.pending_iff ended k).mp there
      rw [none] at left
      cases left
  · rintro ⟨turn, assigned⟩ left
    rw [(reach.pending_iff ended _).mpr left] at assigned
    cases assigned
  · obtain ⟨sub, there, -⟩ := reach.recorded.sound waits
    have inside : step.slot < s.slots.length := by
      rw [← reach.recorded.slots]
      exact (List.getElem?_eq_some_iff.mp there).1
    have found := List.getElem?_eq_getElem inside
    cases slot : s.slots[step.slot] with
    | assigned turn => exact ⟨turn, by rw [found, slot]⟩
    | pending =>
      rw [slot] at found
      exact absurd ((reach.pending_iff ended _).mp found) kept
  · intro k mem t later
    obtain ⟨still, kept⟩ := later.leftBehind ended mem
    have pending := ((reach.later later).pending_iff still k).mpr kept
    exact ⟨pending, (reach.later later).tended.waited pending⟩
  · intro some
    obtain ⟨k, mem⟩ := List.exists_mem_of_ne_nil _ some
    exact reach.leftBehind_of ended mem

/-! ## A step that could not start leaves its sibling behind -/

/-- Two agents side by side that do nothing, on an engine that may fail. -/
def sideBySide : Ensemble Nat Unit where
  plan := { id := "", topology := .parallel }
  agents := [0, 1]
  profile _ := { name := "" }
  behaviour _ := {
    State := Unit
    start := ()
    Step := fun _ _ _ _ => False
    result? := fun _ => some (.ok .null) }
  scopeOf _ := {}
  engine _ := True

/-- The first step has been submitted and the second could not start: the loop finds the submission
together with the notice that the orchestration has failed. -/
theorem sideBySide_run : ∃ s : sideBySide.Stage, Reachable s ∧ s.loop = .ended (.ok ()) ∧
    (∀ a ∈ s.errands, a.between = false) ∧ s.slots = [.pending] ∧ s.leftBehind = [0] := by
  have s₀ := Reachable.opening (e := sideBySide)
  have s₁ := s₀.step (x := ()) (.loop (.name _ "planner" rfl))
  have s₂ := s₁.step (x := ()) (.loop (.schedule _ ⟨"planner", .parallel, 2, unboundedIterations, false⟩ rfl
    (by rw [Planner.start_eq]; rfl) trivial))
  have s₃ := s₂.step (x := ()) (.loop (.count _ 0 rfl))
  have s₄ := s₃.step (x := ()) (.flow (.orderAll _ _ .finish rfl))
  -- the first step submits its agent
  have s₅ := s₄.step (x := ()) (.errand 0 rfl (.find _ _ 0 rfl rfl))
  have s₆ := s₅.step (x := ()) (.errand 0 rfl (.begin _ _ _ trivial))
  have s₇ := s₆.step (x := ()) (.errand 0 rfl (.submit _ _ _))
  -- the run of the second one cannot be started
  have s₈ := s₇.step (x := ()) (.errand 1 rfl (.find _ _ 1 rfl rfl))
  have s₉ := s₈.step (x := ()) (.errand 1 rfl (.unstarted _ _ _ (.of (.badValue "")) trivial))
  have t₀ := s₉.step (x := ()) (.flow (.fail _ 1 2 _ _ _ rfl rfl))
  have t₁ := t₀.step (x := ()) (.flow (.findLoop _ _ rfl rfl))
  have t₂ := t₁.step (x := ()) (.flow (.release _ _ rfl))
  have t₃ := t₂.step (x := ()) (.loop (.stop _ _ rfl rfl))
  have t₄ := t₃.step (x := ()) (.loop (.leave _ _ rfl))
  refine ⟨_, t₄, rfl, fun a mem => ?_, rfl, rfl⟩
  obtain rfl : a = .waiting { order := ⟨"planner", 0, 0⟩, agentName := "", slot := 0 } :=
    List.mem_singleton.mp mem
  rfl

/-- All activities that found the planner have made their submissions, and one of them waits for good. -/
theorem sibling_of_unstarted_waits : ∃ s : sideBySide.Stage, Reachable s ∧ s.loop = .ended (.ok ()) ∧
    (∀ a ∈ s.errands, a.between = false) ∧ ∀ t, Later s t → t.slots[0]? = some .pending := by
  obtain ⟨s, reach, ended, settled, -, left⟩ := sideBySide_run
  have outcome : s.loop.outcome? = some (.ok ()) := by rw [ended]; rfl
  obtain ⟨-, -, forever, -⟩ := reach.orphaned_iff outcome
  have mem : 0 ∈ s.leftBehind := by rw [left]; exact List.mem_cons_self
  exact ⟨s, reach, ended, settled, fun t later => (forever 0 mem t later).1⟩

/-- A loop that has come to its end does not always leave all slots assigned. -/
theorem not_forall_assigned : ¬ ∀ s : sideBySide.Stage, Reachable s → s.loop = .ended (.ok ()) →
    (∀ a ∈ s.errands, a.between = false) → ∀ slot ∈ s.slots, slot.isDone = true := by
  intro all
  obtain ⟨s, reach, ended, settled, slots, -⟩ := sideBySide_run
  cases all s reach ended settled .pending (by rw [slots]; exact List.mem_cons_self)

end Ensemble
end Rendezvous
