import Rendezvous.Proofs.FanOut.Threads

/-!
# Anybody may submit

The workflow of an orchestration and the activities that serve it are not the only ones who know a planner: anybody may
submit an agent to it or tell it that the orchestration has ended, at any time (`Site.Open`).  What has been found out
about the loop holds here too: it keeps count of the turns (`Counted`), a slot is pending as long as somebody holds it
(`Ledger`), and its thread is bound to the run of the agent that it runs (`Site.Bound`).  As long as the loop has not given
up, the turns that are over have been acknowledged, or are about to be (`Acknowledged`).
-/

namespace Rendezvous

set_option autoImplicit false

namespace Ensemble

variable {β σ : Type} {e : Ensemble β σ}

/-- Somebody submits an agent. -/
def Stage.enrol (s : e.Stage) (agent : β) (run : Option String) : e.Stage :=
  { s with
    slots := s.slots ++ [.pending]
    submitted := s.submitted ++ [{ agent, slot := s.slots.length, run }]
    planner := s.planner.submit { agent, slot := s.slots.length, run } }

theorem held_enrol (s : e.Stage) (agent : β) (run : Option String) :
    (s.enrol agent run).held.Perm (s.slots.length :: s.held) := by
  simp only [Stage.held, Stage.enrol, Planner.openSlots_submit, List.append_assoc, List.singleton_append]
  exact List.perm_middle

/-! ## Turns that are over -/

/-- Whether the loop may still let agents run. -/
def Loop.goesOn : e.Loop → Bool
  | .failing _ _ | .leaving _ | .ended _ | .refused => false
  | _ => true

/-- The turns that are over have been acknowledged, or the loop is about to do so. -/
def Acknowledged (s : e.Stage) : Prop :=
  s.loop.goesOn = true → ∀ u ∈ s.retired,
    s.slots[u.submission.slot]? = some (.assigned (.ok ())) ∨ u.submission.slot ∈ s.loop.due s.planner

/-- While a batch runs, and while the loop looks for one, all turns that are over have been acknowledged. -/
theorem Acknowledged.assigned {s : e.Stage} (acknowledged : Acknowledged s) (goesOn : s.loop.goesOn = true)
    (none : s.loop.due s.planner = []) : ∀ u ∈ s.retired, s.slots[u.submission.slot]? = some (.assigned (.ok ())) := by
  intro u mem
  refine (acknowledged goesOn u mem).resolve_right ?_
  rw [none]
  exact List.not_mem_nil

/-- Nobody but the loop has done anything to a slot that there was. -/
theorem Acknowledged.of_frame {s t : e.Stage} (acknowledged : Acknowledged s) (grows : Grows s t)
    (loop : t.loop = s.loop) (retired : ∀ u ∈ t.retired, ∃ v ∈ s.retired, v.submission = u.submission)
    (due : t.loop.due t.planner = s.loop.due s.planner) : Acknowledged t := by
  intro goesOn u mem
  obtain ⟨v, before, same⟩ := retired u mem
  rw [loop] at goesOn
  rw [due, ← same]
  exact (acknowledged goesOn v before).imp_left grows.assigned

theorem LoopStep.acknowledged {s t : e.Stage} (step : LoopStep s t) (counted : Counted s) (ledger : Ledger s)
    (before : Acknowledged s) : Acknowledged t := by
  have tally := counted.tally
  cases step with
  | name id at_ =>
    intro _ u mem
    refine .inl (before.assigned ?_ ?_ u mem) <;> rw [at_] <;> rfl
  | schedule start at_ _ _ =>
    intro _ u mem
    refine .inl (before.assigned ?_ ?_ u mem) <;> rw [at_] <;> rfl
  | invalid f at_ _ | unscheduled f at_ _ | refuse batch p at_ drained _ | stop p at_ drained
  | giveUp batch outcomes f at_ _ _ | failNext slot rest f at_ | failed f at_ | leave r at_ => exact nofun
  | count left at_ =>
    rw [at_] at tally
    intro goesOn u mem
    have known : s.slots[u.submission.slot]? = some (.assigned (.ok ())) ∨ u.submission.slot ∈ s.planner.inTurn := by
      have open_ : s.loop.goesOn = true := by rw [at_]; rfl
      have turn := before open_ u mem
      rwa [at_] at turn
    cases waits : s.planner.countDown.isWaiting with
    | true => exact known
    | false =>
      -- nothing is left to acknowledge
      rw [Planner.isWaiting_countDown, decide_eq_false_iff_not] at waits
      obtain ⟨length, outstanding⟩ := tally
      have none : s.planner.inTurn = [] := List.length_eq_zero_iff.mp (by omega)
      rw [none] at known
      exact .inl (known.resolve_right List.not_mem_nil)
  | call batch p at_ drained runs =>
    intro _ u mem
    refine .inl (before.assigned ?_ ?_ u mem) <;> rw [at_] <;> rfl
  | finish batch outcomes at_ all none =>
    rw [at_] at tally
    intro _ u mem
    rcases List.mem_append.mp mem with old | new
    · refine .inl (before.assigned ?_ ?_ u old) <;> rw [at_] <;> rfl
    · right
      show u.submission.slot ∈ s.planner.inTurn
      rw [tally.2.1]
      exact List.mem_map_of_mem new
  | acknowledge left at_ =>
    intro _ u mem
    have open_ : s.loop.goesOn = true := by rw [at_]; rfl
    have turn := before open_ u mem
    rw [at_] at turn
    show _ ∨ _ ∈ s.planner.acknowledge.1.toList ++ s.planner.acknowledge.2.inTurn
    rw [Planner.inTurn_acknowledge]
    exact turn
  | assign slot left at_ =>
    intro _ u mem
    have open_ : s.loop.goesOn = true := by rw [at_]; rfl
    have turn := before open_ u mem
    rw [at_] at turn
    cases slot with
    | none => exact turn
    | some slot =>
      rcases turn with assigned | due
      · exact .inl (modify_of_assigned assigned)
      · rcases List.mem_cons.mp due with here | later
        · have held : slot ∈ s.held := by
            rw [Stage.held, at_]
            exact List.mem_append_left _ (List.mem_append_right _ List.mem_cons_self)
          left
          show (s.slots.modify slot _)[u.submission.slot]? = _
          rw [here, List.getElem?_modify_eq, (ledger.pending slot).mpr held]
          rfl
        · exact .inr later

theorem Step.acknowledged {s t : e.Stage} {x y : σ} (step : Step s x t y) (counted : Counted s) (ledger : Ledger s)
    (before : Acknowledged s) : Acknowledged t := by
  have grows := step.grows
  cases step with
  | loop step => exact step.acknowledged counted ledger before
  | flow step =>
    obtain ⟨loop, -, -, -, -, retired, -, planner⟩ := step.frame
    refine before.of_frame grows loop (fun u mem => ⟨u, retired ▸ mem, rfl⟩) ?_
    rw [loop]
    rcases planner with same | complete
    · rw [same]
    · rw [complete]
      rfl
  | errand i there step =>
    rcases step.frame with rfl | ⟨o, agent, -, rfl, -⟩
    · exact before.of_frame grows rfl (fun u mem => ⟨u, mem, rfl⟩) rfl
    · exact before.of_frame grows rfl (fun u mem => ⟨u, mem, rfl⟩) rfl
  | perform i at_ there moves =>
    intro _ u mem
    refine .inl (before.assigned ?_ ?_ u mem) <;> rw [at_] <;> rfl
  | linger i there moves =>
    refine before.of_frame grows rfl (fun u mem => ?_) rfl
    rcases List.mem_or_eq_of_mem_set mem with old | rfl
    · exact ⟨u, old, rfl⟩
    · exact ⟨_, List.mem_of_getElem? there, rfl⟩

/-! ## Steps of anybody -/

namespace Site

/-- One step of a thread, or something that somebody else does. -/
inductive Open : e.Site → σ → e.Site → σ → Prop
  | thread {s t : e.Site} {x y : σ} (step : Step s x t y) : Open s x t y
  | enrol (s : e.Site) (x : σ) (agent : β) (run : Option String) :
      Open s x { s with stage := s.stage.enrol agent run } x
  | notify (s : e.Site) (x : σ) :
      Open s x { s with stage := { s.stage with planner := s.stage.planner.complete } } x
  | disturb (s : e.Site) (x y : σ) : Open s x s y

/-- What any schedule can lead to if others take part. -/
inductive Opened (e : Ensemble β σ) (run : Option String) (x₀ : σ) : e.Site → σ → Prop
  | opening : Opened e run x₀ { stage := e.opening, run } x₀
  | step {s t : e.Site} {x y : σ} (opened : Opened e run x₀ s x) (step : Open s x t y) : Opened e run x₀ t y

/-- What is known about the loop. -/
structure Steady (s : e.Site) : Prop where
  counted : Counted s.stage
  ledger : Ledger s.stage
  acknowledged : Acknowledged s.stage
  bound : Bound s

variable {s t : e.Site} {x y x₀ : σ} {run : Option String}

theorem Open.steady (step : Open s x t y) (steady : Steady s) : Steady t := by
  obtain ⟨counted, ledger, acknowledged, bound⟩ := steady
  cases step with
  | thread step =>
    rcases step.on_stage with taken | ⟨same, -, -⟩
    · exact ⟨taken.counted counted, taken.ledger counted ledger, taken.acknowledged counted ledger acknowledged,
        step.bound bound⟩
    · exact ⟨by rwa [same], by rwa [same], by rwa [same], step.bound bound⟩
  | enrol agent run =>
    refine ⟨counted.of_put rfl (.inr ⟨_, rfl⟩), ledger.of_submitted rfl (held_enrol _ _ _), ?_, bound.of_stage rfl⟩
    refine acknowledged.of_frame ⟨fun before => ?_, fun before => ?_, id⟩ rfl (fun u mem => ⟨u, mem, rfl⟩) rfl
    · rwa [Stage.enrol, List.getElem?_append_left (List.getElem?_eq_some_iff.mp before).1]
    · rwa [Stage.enrol, List.getElem?_append_left (List.getElem?_eq_some_iff.mp before).1]
  | notify =>
    refine ⟨counted.of_put rfl (.inr ⟨_, rfl⟩), ledger.of_perm rfl (.of_eq ?_), ?_, bound.of_stage rfl⟩
    · simp [Stage.held, Planner.complete, Planner.put, Planner.openSlots, Planner.slotsOf]
    · exact acknowledged.of_frame (.of_eq rfl rfl rfl) rfl (fun u mem => ⟨u, mem, rfl⟩) rfl
  | disturb => exact ⟨counted, ledger, acknowledged, bound⟩

theorem Opened.steady (opened : Opened e run x₀ s x) : Steady s := by
  induction opened with
  | opening =>
    have closed : Reaches e run x₀ _ x₀ := .opening
    exact ⟨closed.on_stage.counted, closed.on_stage.ledger, fun _ => nofun, closed.bound⟩
  | step _ step ih => exact step.steady ih

end Site
end Ensemble
end Rendezvous
