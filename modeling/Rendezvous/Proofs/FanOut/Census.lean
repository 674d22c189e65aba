import Rendezvous.Proofs.FanOut.Spread

/-!
# Every agent once

The steps that have been reported and those under way are the orders, one by one; so are the agents that have been
submitted and those whose steps have still to submit them; and each submission has had its turn, has it now, or is
in the queue (`Census`).  When the loop has ended, nothing is left in the queue or under way, and so each agent has
had one turn, which has ended well (`Reachable.each_once`); and the workflow has one report for each agent
(`Reachable.each_reported`).
-/

namespace Rendezvous

set_option autoImplicit false

namespace Planner

variable {α : Type}

/-- The submissions in a queue. -/
def turnsOf (notices : List (Notice α)) : List (Submission α) :=
  notices.filterMap fun
    | .turn s => some s
    | .complete => none

theorem turnsOf_append (ns ms : List (Notice α)) : turnsOf (ns ++ ms) = turnsOf ns ++ turnsOf ms :=
  List.filterMap_append

theorem turnsOf_turn (s : Submission α) : turnsOf [.turn s] = [s] := rfl

theorem turnsOf_complete : turnsOf [(.complete : Notice α)] = [] := rfl

theorem slotsOf_eq_map (ns : List (Notice α)) : slotsOf ns = (turnsOf ns).map (·.slot) := by
  induction ns with
  | nil => rfl
  | cons n rest ih =>
    cases n with
    | turn s => exact congrArg (s.slot :: ·) ih
    | complete => exact ih

theorem turnsOf_of_turns? {ns : List (Notice α)} {batch : List (Submission α)} (turns : turns? ns = some batch) :
    turnsOf ns = batch := by
  induction ns generalizing batch with
  | nil => exact Option.some.inj turns
  | cons n rest ih =>
    cases n with
    | complete => cases turns
    | turn s =>
      obtain ⟨others, found, rfl⟩ := Option.map_eq_some_iff.mp turns
      exact congrArg (s :: ·) (ih found)

end Planner

namespace Ensemble

variable {σ : Type} {e : Ensemble Nat σ} {s t : e.Stage}

/-- A step whose agent has not been submitted yet. -/
def Errand.unsent : Errand Nat → Bool
  | .ordered _ | .found _ _ | .begun _ _ => true
  | _ => false

/-- The agents that are still to be submitted. -/
def unsentAgents (errands : List (Errand Nat)) : List Nat :=
  (errands.filter Errand.unsent).map (·.order.agentIndex)

/-- Every order is accounted for, and so is every submission. -/
structure Census (s : e.Stage) : Prop where
  reported : (s.progress.steps ++ s.errands.map fun a => e.reportFor a.order).Perm (s.orders.map e.reportFor)
  submitted : (s.submitted.map (·.agent) ++ unsentAgents s.errands).Perm (s.orders.map (·.agentIndex))
  turns : (s.taken.map (·.1) ++ s.loop.batch ++ Planner.turnsOf (s.dropped ++ s.planner.queue)).Perm s.submitted
  retired : s.retired.map (·.submission) = s.taken.map (·.1)
  runs : ∀ sub ∈ s.submitted, sub.run = some (stepRunId s.planner.plan.id sub.agent 0)

theorem LoopStep.progress_frame (step : LoopStep s t) :
    t.progress = s.progress ∧ t.submitted = s.submitted := by
  cases step <;> exact ⟨rfl, rfl⟩

theorem length_of_outcomes {batch : List e.Turn} {outcomes : List (Result Value)}
    (all : outcomes? batch = some outcomes) : outcomes.length = batch.length := by
  have lengths := congrArg List.length (outcomes?_eq_some_iff.mp all)
  rw [List.length_map, List.length_map] at lengths
  exact lengths.symm

/-- What the loop notes of a batch is about its submissions. -/
theorem map_fst_note {batch : List e.Turn} {outcomes : List (Result Value)} (all : outcomes? batch = some outcomes) :
    ((batch.map Turn.submission).zip outcomes).map Prod.fst = batch.map Turn.submission := by
  apply List.map_fst_zip
  rw [List.length_map, length_of_outcomes all]

/-! ## Step by step -/

/-- What the loop does with turns: it begins those of a batch, or takes note of what has come of them. -/
theorem LoopStep.turns_cases (step : LoopStep s t) :
    (t.loop.turns = [] ∧ s.loop.turns = [] ∧ t.retired = s.retired) ∨
    (∃ batch, s.loop.turns = [] ∧ t.loop = .running (batch.map (Turn.of e)) ∧ t.retired = s.retired ∧
      Planner.turnsOf s.planner.queue = batch) ∨
    ∃ batch outcomes, s.loop = .running batch ∧ t.loop.turns = [] ∧ t.retired = s.retired ++ batch ∧
      outcomes? batch = some outcomes := by
  cases step with
  | call batch p at_ drained _ =>
    obtain ⟨-, turns, rfl⟩ := Planner.drain_call drained
    refine .inr (.inl ⟨batch, ?_, rfl, rfl, Planner.turnsOf_of_turns? turns⟩)
    rw [at_]
    rfl
  | finish batch outcomes at_ all _ | giveUp batch outcomes f at_ all _ =>
    exact .inr (.inr ⟨batch, outcomes, at_, rfl, rfl, all⟩)
  | count left at_ =>
    refine .inl ⟨?_, by rw [at_]; rfl, rfl⟩
    simp only
    split <;> rfl
  | name id at_ | schedule start at_ _ _ | invalid f at_ _ | unscheduled f at_ _ | refuse batch p at_ _ _
  | stop p at_ _ | acknowledge left at_ | assign slot left at_ | failNext slot rest f at_ | failed f at_
  | leave r at_ => exact .inl ⟨rfl, by rw [at_]; rfl, rfl⟩

theorem LoopStep.turns_perm (step : LoopStep s t) (before : Smooth s) (after : Smooth t) :
    (t.taken.map (·.1) ++ t.loop.batch ++ Planner.turnsOf (t.dropped ++ t.planner.queue)).Perm
        (s.taken.map (·.1) ++ s.loop.batch ++ Planner.turnsOf (s.dropped ++ s.planner.queue)) ∧
      (s.retired.map (·.submission) = s.taken.map (·.1) → t.retired.map (·.submission) = t.taken.map (·.1)) := by
  have looked := before.looked
  have well := after.well
  cases step with
  | invalid f at_ _ | unscheduled f at_ _ | giveUp batch outcomes f at_ _ _ | failNext slot rest f at_ => cases well
  | failed f at_ => cases well
  | refuse batch p at_ _ _ => exact absurd rfl after.runs
  | call batch p at_ drained _ =>
    rw [at_] at looked
    obtain ⟨-, turns, rfl⟩ := Planner.drain_call drained
    refine ⟨.of_eq ?_, id⟩
    have back : (batch.map (Turn.of e)).map (·.submission) = batch := by
      rw [List.map_map]
      exact List.map_id'' (fun _ => rfl) _
    simp only [at_, Loop.batch, looked rfl, back, List.nil_append, List.append_nil, Planner.turnsOf_of_turns? turns]
    exact List.append_nil _
  | stop p at_ drained =>
    obtain ⟨-, rfl⟩ := Planner.drain_done drained
    refine ⟨.of_eq ?_, id⟩
    simp only [at_, Loop.batch, List.append_nil]
  | finish batch outcomes at_ all _ =>
    refine ⟨.of_eq ?_, fun same => ?_⟩
    · simp only [at_, Loop.batch, Stage.note, List.map_append, map_fst_note all, List.append_nil]
    · simp only [Stage.note, List.map_append, map_fst_note all, same]
  | count left at_ =>
    refine ⟨.of_eq ?_, id⟩
    simp only [at_]
    split <;> rfl
  | name id at_ | schedule start at_ _ _ | acknowledge left at_ | assign slot left at_ | leave r at_ =>
    refine ⟨.of_eq ?_, fun same => same⟩
    rw [at_]
    rfl

theorem LoopStep.census (step : LoopStep s t) (before : Smooth s) (after : Smooth t) (tended : Tended s)
    (census : Census s) : Census t := by
  obtain ⟨progress, submitted⟩ := step.progress_frame
  obtain ⟨turns, retired⟩ := step.turns_perm before after
  refine ⟨?_, ?_, ?_, retired census.retired, ?_⟩
  · rw [progress, step.slots_frame.1, step.orders_frame]
    exact census.reported
  · rw [submitted, step.slots_frame.1, step.orders_frame]
    exact census.submitted
  · rw [submitted]
    exact turns.trans census.turns
  · rw [submitted]
    rcases step.plan_frame with plan | unnamed
    · rw [plan]
      exact census.runs
    · -- nobody has been submitted as long as the planner has no id
      have course := before.course
      rw [tended.early (.inl unnamed)] at course
      have agents := census.submitted
      rw [show s.orders = [] from course, List.map_nil, List.perm_nil, List.append_eq_nil_iff,
        List.map_eq_nil_iff] at agents
      rw [agents.1]
      exact nofun

theorem unsentAgents_append (errands others : List (Errand Nat)) :
    unsentAgents (errands ++ others) = unsentAgents errands ++ unsentAgents others := by
  rw [unsentAgents, List.filter_append, List.map_append, ← unsentAgents, ← unsentAgents]

theorem unsentAgents_ordered (os : List StepOrder) :
    unsentAgents (os.map Errand.ordered) = os.map (·.agentIndex) := by
  induction os with
  | nil => rfl
  | cons o rest ih => exact congrArg (o.agentIndex :: ·) ih

theorem unsentAgents_eraseIdx {errands : List (Errand Nat)} {i : Nat} {o : StepOrder} {r : Result StepReport}
    (there : errands[i]? = some (.finished o r)) :
    (unsentAgents (errands.eraseIdx i)).Perm (unsentAgents errands) := by
  obtain ⟨perm, -⟩ := perm_of_getElem? there (.finished o r)
  exact ((perm.filter Errand.unsent).map _).symm

theorem FlowStep.census {x : σ} (step : FlowStep x s t) (before : Smooth s) (census : Census s) : Census t := by
  obtain ⟨loop, -, submitted, taken, dropped, retired, -, planner⟩ := step.frame
  have queue : Planner.turnsOf t.planner.queue = Planner.turnsOf s.planner.queue ∧
      t.planner.plan = s.planner.plan := by
    rcases planner with same | complete
    · rw [same]
      exact ⟨rfl, rfl⟩
    · rw [complete]
      constructor
      · simp only [Planner.complete, Planner.put, Planner.turnsOf_append, Planner.turnsOf_complete, List.append_nil]
      · rfl
  have turns : (t.taken.map (·.1) ++ t.loop.batch ++ Planner.turnsOf (t.dropped ++ t.planner.queue)).Perm
      t.submitted := by
    rw [taken, loop, dropped, submitted, Planner.turnsOf_append, queue.1, ← Planner.turnsOf_append]
    exact census.turns
  have runs : ∀ sub ∈ t.submitted, sub.run = some (stepRunId t.planner.plan.id sub.agent 0) := by
    rw [submitted, queue.2]
    exact census.runs
  have same : t.retired.map (·.submission) = t.taken.map (·.1) := by
    rw [retired, taken]
    exact census.retired
  obtain ⟨reported, agents, -, -, -⟩ := census
  cases step with
  | order o next at_ =>
    refine ⟨?_, ?_, turns, same, runs⟩
    · simp only [List.map_append, List.map_cons, List.map_nil, ← List.append_assoc]
      exact reported.append_right _
    · simp only [unsentAgents_append, List.map_append, ← List.append_assoc]
      exact agents.append_right _
  | orderAll os next at_ =>
    refine ⟨?_, ?_, turns, same, runs⟩
    · simp only [List.map_append, List.map_map, ← List.append_assoc]
      exact reported.append_right _
    · simp only [unsentAgents_append, unsentAgents_ordered, List.map_append, ← List.append_assoc]
      exact agents.append_right _
  | report i missing o r next at_ finished =>
    have proper : Except.ok r = Except.ok (e.reportFor o) := before.proper _ (List.mem_of_getElem? finished)
    obtain rfl : r = e.reportFor o := Except.ok.inj proper
    refine ⟨?_, ?_, turns, same, runs⟩
    · obtain ⟨perm, -⟩ := perm_of_getElem? finished (.finished o (.ok (e.reportFor o)))
      have reports := perm.symm.map fun a => e.reportFor a.order
      simp only [Progress.report, List.append_assoc, List.singleton_append]
      exact (reports.append_left _).trans reported
    · exact ((unsentAgents_eraseIdx finished).append_left _).trans agents
  | fail i missing o f next at_ finished =>
    have proper := before.proper _ (List.mem_of_getElem? finished)
    cases proper
  | _ => exact ⟨reported, agents, turns, same, runs⟩

/-- What a step of a step activity submits. -/
theorem ErrandStep.submissions {before after : Errand Nat} {i : Nat} (there : s.errands[i]? = some before)
    (step : ErrandStep s before t after) (proper : before.Proper e) (goes : after.Proper e)
    (agents : (s.submitted.map (·.agent) ++ unsentAgents s.errands).Perm (s.orders.map (·.agentIndex))) :
    (t.submitted.map (·.agent) ++ unsentAgents (t.errands.set i after)).Perm (t.orders.map (·.agentIndex)) := by
  obtain ⟨old, new⟩ := perm_of_getElem? there after
  have whole : (unsentAgents s.errands).Perm (unsentAgents (before :: s.errands.eraseIdx i)) :=
    (old.filter Errand.unsent).map _
  have part : (unsentAgents (s.errands.set i after)).Perm (unsentAgents (after :: s.errands.eraseIdx i)) :=
    (new.filter Errand.unsent).map _
  have agents := (whole.symm.append_left _).trans agents
  have order := step.order_eq
  -- all but the submission leave the agent where it was
  have stays (same : t = s) (unsent : after.unsent = before.unsent) :
      (t.submitted.map (·.agent) ++ unsentAgents (t.errands.set i after)).Perm (t.orders.map (·.agentIndex)) := by
    subst same
    have equal : unsentAgents (after :: t.errands.eraseIdx i) = unsentAgents (before :: t.errands.eraseIdx i) := by
      simp only [unsentAgents, List.filter_cons, unsent]
      split
      · rw [List.map_cons, List.map_cons, order]
      · rfl
    rw [← equal] at agents
    exact (part.append_left _).trans agents
  cases step with
  | submit o agent =>
    have named : agent = o.agentIndex := proper
    refine (part.append_left _).trans ?_
    simp only [Stage.submit, List.map_append, List.map_cons, List.map_nil, List.append_assoc]
    exact named ▸ agents
  | miss o known gone | noAgent o f live absent | unstarted o agent f engine | unfinished step' turn f engine =>
    cases goes
  | find | begin | wake | finish => exact stays rfl rfl

theorem ErrandStep.census {before after : Errand Nat} {i : Nat} (there : s.errands[i]? = some before)
    (step : ErrandStep s before t after) (smooth : Smooth s) (goes : after.Proper e) (census : Census s) :
    Census { t with errands := t.errands.set i after } := by
  have mem := List.mem_of_getElem? there
  have proper := smooth.proper before mem
  obtain ⟨old, new⟩ := perm_of_getElem? there after
  obtain ⟨reported, agents, turns, retired, runs⟩ := census
  have submitted := step.submissions there proper goes agents
  have reports : (s.errands.set i after).map (fun a => e.reportFor a.order) |>.Perm
      (s.errands.map fun a => e.reportFor a.order) := by
    have after' := new.map fun a => e.reportFor a.order
    have before' := old.map fun a => e.reportFor a.order
    rw [List.map_cons, step.order_eq] at after'
    exact after'.trans before'.symm
  rcases step.frame with rfl | ⟨o, agent, rfl, rfl, -⟩
  · exact ⟨(reports.append_left _).trans reported, submitted, turns, retired, runs⟩
  · refine ⟨(reports.append_left _).trans reported, submitted, ?_, retired, ?_⟩
    · simp only [Stage.submit, Planner.submit, Planner.put, Planner.turnsOf_append, Planner.turnsOf_turn]
      rw [Planner.turnsOf_append] at turns
      rw [← List.append_assoc, ← List.append_assoc]
      rw [← List.append_assoc] at turns
      exact turns.append_right _
    · intro sub among
      rcases List.mem_append.mp among with before' | new'
      · exact runs sub before'
      · cases List.mem_singleton.mp new'
        obtain ⟨position, -, same⟩ := smooth.of_order (smooth.ordered _ mem)
        obtain rfl : o = { plannerId := s.planner.plan.id, agentIndex := position } := same
        have named : agent = position := proper
        rw [named]
        rfl

theorem Step.census {x y : σ} (fan : FanOut e) (step : Step s x t y) (reach : Reachable s) (census : Census s) :
    Census t := by
  have before := reach.smooth fan
  have after := (reach.step step).smooth fan
  cases step with
  | loop step => exact step.census before after reach.tended census
  | flow step => exact step.census before census
  | errand i there step =>
    have inside := (List.getElem?_eq_some_iff.mp there).1
    apply step.census there before _ census
    apply after.proper
    simp only [step.slots_frame.1]
    exact List.mem_set inside _
  | perform i at_ there moves =>
    obtain ⟨reported, agents, turns, retired, runs⟩ := census
    refine ⟨reported, agents, ?_, retired, runs⟩
    rw [at_] at turns
    simp only [Loop.batch, map_submission_set there]
    exact turns
  | linger i there moves =>
    obtain ⟨reported, agents, turns, retired, runs⟩ := census
    refine ⟨reported, agents, turns, ?_, runs⟩
    rw [map_submission_set there]
    exact retired

theorem Reachable.census (fan : FanOut e) (reach : Reachable s) : Census s := by
  induction reach with
  | opening =>
    refine ⟨.refl _, .refl _, .refl _, rfl, ?_⟩
    intro sub mem
    cases mem
  | step reach step ih => exact step.census fan reach ih

/-! ## What has become of the agents -/

theorem map_agentIndex_stepOrders (id : String) (count : Nat) :
    (stepOrders id count).map (·.agentIndex) = List.range count := by
  rw [stepOrders, List.map_map]
  exact List.map_id'' (fun _ => rfl) _

theorem Smooth.nodup_orders (smooth : Smooth s) : (s.orders.map (·.agentIndex)).Nodup := by
  rcases smooth.none_or_all with none | all
  · rw [none]
    exact List.nodup_nil
  · rw [all, map_agentIndex_stepOrders]
    exact List.nodup_range

/-- Nobody is submitted twice. -/
theorem Reachable.nodup_submitted (fan : FanOut e) (reach : Reachable s) :
    (s.submitted.map (·.agent)).Nodup := by
  have all := (reach.census fan).submitted.nodup_iff.mpr (reach.smooth fan).nodup_orders
  exact (List.nodup_append.mp all).1

/-- Whoever is submitted is an agent, and has the run of its step. -/
theorem Reachable.of_submitted (fan : FanOut e) (reach : Reachable s) {sub : Submission Nat}
    (mem : sub ∈ s.submitted) :
    sub.agent < e.agents.length ∧ sub.run = some (stepRunId s.planner.plan.id sub.agent 0) := by
  have census := reach.census fan
  have among : sub.agent ∈ s.orders.map (·.agentIndex) := by
    apply census.submitted.mem_iff.mp
    exact List.mem_append_left _ (List.mem_map_of_mem mem)
  obtain ⟨o, ordered, same⟩ := List.mem_map.mp among
  obtain ⟨i, within, rfl⟩ := (reach.smooth fan).of_order ordered
  exact ⟨same ▸ within, census.runs sub mem⟩

theorem map_submission_turns (s : e.Stage) :
    s.turns.map (·.submission) = s.loop.batch ++ s.retired.map (·.submission) := by
  rw [Stage.turns, List.map_append]
  congr 1
  cases s.loop <;> rfl

/-- Each submission has its turn, or had it, or is in the queue. -/
theorem Reachable.perm_submitted (fan : FanOut e) (reach : Reachable s) :
    (s.turns.map (·.submission) ++ Planner.turnsOf (s.dropped ++ s.planner.queue)).Perm s.submitted := by
  have census := reach.census fan
  rw [map_submission_turns, census.retired]
  exact (List.perm_append_comm.append_right _).trans census.turns

/-- Nobody has two turns. -/
theorem Reachable.nodup_turns (fan : FanOut e) (reach : Reachable s) :
    (s.turns.map fun t => t.submission.agent).Nodup := by
  have agents := (reach.perm_submitted fan).map (·.agent)
  have all := agents.nodup_iff.mpr (reach.nodup_submitted fan)
  rw [List.map_append, List.map_map] at all
  exact (List.nodup_append.mp all).1

theorem Reachable.submitted_of_turn (fan : FanOut e) (reach : Reachable s) {u : e.Turn} (mem : u ∈ s.turns) :
    u.submission ∈ s.submitted := by
  apply (reach.perm_submitted fan).mem_iff.mp
  exact List.mem_append_left _ (List.mem_map_of_mem mem)

theorem result_of_outcomes {β : Type} {e : Ensemble β σ} {batch : List e.Turn} {outcomes : List (Result Value)}
    (all : outcomes? batch = some outcomes) {u : e.Turn} (mem : u ∈ batch) : ∃ r, u.result? = some r := by
  have among : u.result? ∈ outcomes.map some := by
    rw [← outcomes?_eq_some_iff.mp all]
    exact List.mem_map_of_mem mem
  obtain ⟨r, -, result⟩ := List.mem_map.mp among
  exact ⟨r, result.symm⟩

/-- A turn that the loop has noted is over, and stays so. -/
theorem Reachable.over_of_retired (fan : FanOut e) (reach : Reachable s) :
    ∀ u ∈ s.retired, ∃ r, u.result? = some r := by
  induction reach with
  | opening =>
    intro u mem
    cases mem
  | step _ step ih =>
    intro u mem
    cases step with
    | loop step =>
      cases step with
      | finish batch outcomes at_ all _ | giveUp batch outcomes f at_ all _ =>
        rcases List.mem_append.mp mem with old | new
        · exact ih u old
        · exact result_of_outcomes all new
      | _ => exact ih u mem
    | flow step =>
      rw [step.frame.2.2.2.2.2.1] at mem
      exact ih u mem
    | errand i there step => rcases step.frame with rfl | ⟨o, agent, -, rfl, -⟩ <;> exact ih u mem
    | perform i at_ there moves => exact ih u mem
    | linger i there moves =>
      rcases List.mem_or_eq_of_mem_set mem with old | rfl
      · exact ih u old
      · obtain ⟨r, result⟩ := ih _ (List.mem_of_getElem? there)
        exact ⟨r, (fan.able _).stays result moves⟩

/-- When the loop has found the notice of the workflow, nothing is under way or in the queue. -/
theorem Reachable.nothing_left (fan : FanOut e) (reach : Reachable s) {r : Result Unit}
    (outcome : s.loop.outcome? = some r) : r = .ok () ∧ .complete ∈ s.dropped ∧ s.errands = [] ∧
      s.orders = stepOrders s.planner.plan.id e.agents.length ∧
      Planner.turnsOf (s.dropped ++ s.planner.queue) = [] := by
  have smooth := reach.smooth fan
  have ok : r = .ok () := by
    have well := smooth.well
    cases loop : s.loop with
    | leaving r' | ended r' =>
      rw [loop] at outcome well
      obtain rfl : r' = r := Option.some.inj outcome
      cases r' with
      | ok u => rfl
      | error f => cases well
    | _ =>
      rw [loop] at outcome
      cases outcome
  subst ok
  have told := reach.notified.told outcome
  have released := reach.notified.noticed (.inr told)
  have settled : s.errands = [] ∧ s.orders = stepOrders s.planner.plan.id e.agents.length := by
    have roster := reach.tended.roster
    have course := smooth.course
    cases flow : s.flow with
    | releasing visit v | finished v =>
      rw [flow] at course roster
      rw [course.1] at roster
      exact ⟨roster, course.2⟩
    | _ =>
      rw [flow] at released
      cases released
  refine ⟨rfl, told, settled.1, settled.2, ?_⟩
  -- whoever is left in the queue waits for a slot, and nobody waits
  have none : s.leftBehind = [] := by
    rw [List.eq_nil_iff_forall_not_mem]
    intro k left
    obtain ⟨step, waits, -⟩ := reach.tended.waited ((reach.pending_iff outcome k).mpr left)
    rw [settled.1] at waits
    cases waits
  rwa [Stage.leftBehind, Planner.slotsOf_eq_map, List.map_eq_nil_iff] at none

/-- When the loop has ended, it has ended well, it has found the notice of the workflow, and each agent has had
one turn, which has ended well. -/
theorem Reachable.each_once (fan : FanOut e) (reach : Reachable s) {r : Result Unit} (ended : s.loop = .ended r) :
    r = .ok () ∧ .complete ∈ s.dropped ∧ (s.taken.map (·.1.agent)).Perm (List.range e.agents.length) ∧
      ∀ p ∈ s.taken, ∃ v, p.2 = .ok v := by
  have census := reach.census fan
  have outcome : s.loop.outcome? = some r := by
    rw [ended]
    rfl
  obtain ⟨ok, told, errands, orders, none⟩ := reach.nothing_left fan outcome
  refine ⟨ok, told, ?_, reach.judged.well (reach.smooth fan).well⟩
  have turns := census.turns
  have agents := census.submitted
  rw [none, ended, List.append_nil] at turns
  rw [errands, orders, map_agentIndex_stepOrders] at agents
  have taken := (turns.map (·.agent)).trans (by simpa [unsentAgents] using agents)
  simpa [Loop.batch, Function.comp_def] using taken

/-- When the workflow has finished, it has not failed, and has one report for each agent. -/
theorem Reachable.each_reported (fan : FanOut e) (reach : Reachable s) {v : Option Failure}
    (finished : s.flow = .finished v) : v = none ∧ s.progress.steps.Perm
      ((List.range e.agents.length).map fun i : Nat =>
        { agentIndex := i, agentName := (e.profile i).name, runId := stepRunId s.planner.plan.id i 0 }) := by
  have census := reach.census fan
  have roster := reach.tended.roster
  have course := (reach.smooth fan).course
  rw [finished] at course roster
  obtain ⟨rfl, orders⟩ := course
  have errands : s.errands = [] := roster
  have reported := census.reported
  rw [errands, orders, stepOrders, List.map_nil, List.append_nil, List.map_map] at reported
  exact ⟨rfl, reported⟩

end Ensemble
end Rendezvous
