import Rendezvous.Proofs.Interleaving.Ledger

/-!
# Whoever waits for a slot

Nothing that has been assigned or written down is lost (`Grows`), and what a planner was made with stays
(`Made`).  A pending slot has a step that waits for it, and a slot that holds a failure has a step that is
going to report it, unless the workflow has failed already (`Tended`).  The workflow lets go of its steps
only when it fails: as long as it has not, the steps that are under way are those that it counts
(`Roster`).
-/

namespace Rendezvous

set_option autoImplicit false

namespace Ensemble

variable {β σ : Type} {e : Ensemble β σ}

/-! ## What never changes -/

/-- A planner that was made for an orchestration, under whatever id. -/
structure Made (e : Ensemble β σ) (p : Planner β) : Prop where
  agents : p.agents = e.agents
  scope : p.scope = some 0
  plan : p.plan = { e.plan with id := p.plan.id }

/-- Who sits at a position. -/
def Seats (e : Ensemble β σ) (index : Int) (agent : β) : Prop :=
  (e.planner e.plan.id).agentAt index = .ok agent

theorem agentAt_eq_ok_iff {p : Planner β} {index : Int} {agent : β} :
    p.agentAt index = .ok agent ↔
      (let position := if index < 0 then index + p.agents.length else index
      if position < 0 then none else p.agents[position.toNat]?) = some agent := by
  unfold Planner.agentAt
  dsimp only
  split <;> simp_all

/-- Positions from zero on are those of the agents. -/
theorem agentAt_natCast_iff {p : Planner β} {i : Nat} {agent : β} :
    p.agentAt i = .ok agent ↔ p.agents[i]? = some agent := by
  have natural : ¬ (i : Int) < 0 := by omega
  rw [agentAt_eq_ok_iff]
  simp only [natural, if_false, Int.toNat_natCast]

theorem Made.seats {p : Planner β} (made : Made e p) {index : Int} {agent : β} :
    p.agentAt index = .ok agent ↔ e.Seats index agent := by
  rw [Seats, agentAt_eq_ok_iff, agentAt_eq_ok_iff, made.agents]
  rfl

theorem LoopStep.made {s t : e.Stage} (step : LoopStep s t) (made : Made e s.planner) :
    Made e t.planner := by
  obtain ⟨agents, scope, plan⟩ := made
  cases step with
  | name id at_ => exact ⟨agents, scope, by simp only; rw [plan]⟩
  | call batch p at_ drained _ | refuse batch p at_ drained _ =>
    obtain ⟨-, -, rfl⟩ := Planner.drain_call drained
    exact ⟨agents, scope, plan⟩
  | stop p at_ drained =>
    obtain ⟨-, rfl⟩ := Planner.drain_done drained
    exact ⟨agents, scope, plan⟩
  | _ => exact ⟨agents, scope, plan⟩

theorem Step.made {s t : e.Stage} {x y : σ} (step : Step s x t y) (made : Made e s.planner) :
    Made e t.planner := by
  cases step with
  | loop step => exact step.made made
  | flow step =>
    obtain ⟨-, -, -, -, -, -, -, same | complete⟩ := step.frame
    · rwa [same]
    · rw [complete]
      exact ⟨made.agents, made.scope, made.plan⟩
  | errand i there step =>
    rcases step.frame with rfl | ⟨o, agent, -, rfl, -⟩
    · exact made
    · exact ⟨made.agents, made.scope, made.plan⟩
  | perform i at_ there moves => exact made
  | linger i there moves => exact made

theorem Reachable.made {s : e.Stage} (reach : Reachable s) : Made e s.planner := by
  induction reach with
  | opening => exact ⟨rfl, rfl, rfl⟩
  | step _ step ih => exact step.made ih

/-! ## What is not lost -/

/-- What has been assigned stays so, and what has been written down is not lost. -/
structure Grows (s t : e.Stage) : Prop where
  assigned : ∀ {k : Nat} {r : Result Unit},
    s.slots[k]? = some (.assigned r) → t.slots[k]? = some (.assigned r)
  submitted : ∀ {k : Nat} {sub : Submission β}, s.submitted[k]? = some sub → t.submitted[k]? = some sub
  taken : ∀ {p : Submission β × Result Value}, p ∈ s.taken → p ∈ t.taken

theorem Grows.of_eq {s t : e.Stage} (slots : t.slots = s.slots) (submitted : t.submitted = s.submitted)
    (taken : t.taken = s.taken) : Grows s t :=
  ⟨fun h => by rwa [slots], fun h => by rwa [submitted], fun h => by rwa [taken]⟩

theorem assigned_of_modify {slots : List (Slot Unit)} {j k : Nat} {r : Result Unit} {x : Slot Unit}
    (after : (slots.modify j (Slot.assign r))[k]? = some x) :
    slots[k]? = some x ∨ j = k ∧ slots[k]? = some .pending ∧ x = .assigned r := by
  by_cases same : j = k
  · rw [same, List.getElem?_modify_eq] at after
    obtain ⟨before, found, rfl⟩ := Option.map_eq_some_iff.mp after
    cases before with
    | pending => exact .inr ⟨same, found, rfl⟩
    | assigned first => exact .inl found
  · rw [List.getElem?_modify_ne _ _ same] at after
    exact .inl after

theorem modify_of_assigned {slots : List (Slot Unit)} {j k : Nat} {r r' : Result Unit}
    (before : slots[k]? = some (.assigned r')) :
    (slots.modify j (Slot.assign r))[k]? = some (.assigned r') := by
  rw [List.getElem?_modify, before]
  by_cases same : j = k <;> simp [same, Slot.assign]

theorem LoopStep.grows {s t : e.Stage} (step : LoopStep s t) : Grows s t := by
  cases step with
  | finish batch outcomes at_ _ _ | giveUp batch outcomes f at_ _ _ =>
    exact ⟨id, id, List.mem_append_left _⟩
  | assign slot left at_ =>
    refine ⟨fun before => ?_, id, id⟩
    cases slot with
    | none => exact before
    | some slot => exact modify_of_assigned before
  | failNext slot rest f at_ => exact ⟨modify_of_assigned, id, id⟩
  | _ => exact .of_eq rfl rfl rfl

theorem ErrandStep.grows {s t : e.Stage} {a b : Errand β} (step : ErrandStep s a t b) : Grows s t := by
  rcases step.frame with rfl | ⟨o, agent, -, rfl, -⟩
  · exact .of_eq rfl rfl rfl
  · refine ⟨fun before => ?_, fun before => ?_, id⟩
    · rwa [Stage.submit, List.getElem?_append_left (List.getElem?_eq_some_iff.mp before).1]
    · rwa [Stage.submit, List.getElem?_append_left (List.getElem?_eq_some_iff.mp before).1]

theorem Step.grows {s t : e.Stage} {x y : σ} (step : Step s x t y) : Grows s t := by
  cases step with
  | loop step => exact step.grows
  | flow step =>
    obtain ⟨-, slots, submitted, taken, -⟩ := step.frame
    exact .of_eq slots submitted taken
  | errand i there step => exact ⟨step.grows.assigned, step.grows.submitted, step.grows.taken⟩
  | perform i at_ there moves => exact .of_eq rfl rfl rfl
  | linger i there moves => exact .of_eq rfl rfl rfl

/-! ## The steps under way -/

theorem mem_set_of_ne {α : Type} {l : List α} {i : Nat} {a b c : α} (mem : a ∈ l) (there : l[i]? = some b)
    (other : a ≠ b) : a ∈ l.set i c := by
  obtain ⟨j, found⟩ := List.mem_iff_getElem?.mp mem
  refine List.mem_iff_getElem?.mpr ⟨j, ?_⟩
  rw [List.getElem?_set_ne, found]
  rintro rfl
  exact other (Option.some.inj (found.symm.trans there))

theorem mem_eraseIdx_of_ne {α : Type} {l : List α} {i : Nat} {a b : α} (mem : a ∈ l)
    (there : l[i]? = some b) (other : a ≠ b) : a ∈ l.eraseIdx i := by
  obtain ⟨j, found⟩ := List.mem_iff_getElem?.mp mem
  refine List.mem_eraseIdx_iff_getElem?.mpr ⟨j, ?_, found⟩
  rintro rfl
  exact other (Option.some.inj (found.symm.trans there))

/-- Whether the workflow has failed. -/
def Flow.failed : Flow → Bool
  | .releasing _ v | .finished v => v.isSome
  | _ => false

/-- As long as the workflow has not failed, it counts the steps that are under way. -/
def Roster (errands : List (Errand β)) : Flow → Prop
  | .stepping missing _ => errands.length = missing
  | .releasing _ (some _) | .finished (some _) => True
  | _ => errands = []

/-- An activity that is going to report the failure in a slot, or reports a failure anyway. -/
def Errand.Concerns (slot : Nat) : Errand β → Prop
  | .waiting step | .ending step _ => step.slot = slot
  | .finished _ (.error _) => True
  | _ => False

/-- Somebody looks after every slot. -/
structure Tended (s : e.Stage) : Prop where
  early : s.loop = .unnamed ∨ s.loop = .opening → s.flow = .unscheduled
  roster : Roster s.errands s.flow
  waited : ∀ {k : Nat}, s.slots[k]? = some .pending → ∃ step, .waiting step ∈ s.errands ∧ step.slot = k
  awake : ∀ {step : OpenStep} {turn : Result Unit},
    .ending step turn ∈ s.errands → s.slots[step.slot]? = some (.assigned turn)
  blamed : ∀ {k : Nat} {f : Failure}, s.slots[k]? = some (.assigned (.error f)) →
    s.flow.failed = true ∨ ∃ a ∈ s.errands, a.Concerns k

/-- The loop may leave outcomes in slots. -/
theorem LoopStep.slots_frame {s t : e.Stage} (step : LoopStep s t) :
    t.errands = s.errands ∧
      (∀ {k : Nat} {x : Slot Unit}, t.slots[k]? = some x → s.slots[k]? = some x ∨
        s.slots[k]? = some .pending ∧ ∃ r, x = .assigned r) := by
  cases step with
  | assign slot left at_ =>
    refine ⟨rfl, fun after => ?_⟩
    cases slot with
    | none => exact .inl after
    | some slot =>
      rcases assigned_of_modify after with same | ⟨-, pending, rfl⟩
      · exact .inl same
      · exact .inr ⟨pending, _, rfl⟩
  | failNext slot rest f at_ =>
    refine ⟨rfl, fun after => ?_⟩
    rcases assigned_of_modify after with same | ⟨-, pending, rfl⟩
    · exact .inl same
    · exact .inr ⟨pending, _, rfl⟩
  | _ => exact ⟨rfl, .inl⟩

theorem LoopStep.flow_frame {s t : e.Stage} (step : LoopStep s t) :
    (t.flow = s.flow ∧ (t.loop = .unnamed ∨ t.loop = .opening → s.loop = .unnamed ∨ s.loop = .opening)) ∨
      s.loop = .opening ∧ t.loop = .counting 0 ∧
        ∃ start, s.planner.start = .ok start ∧ t.flow = .going (.of start) := by
  cases step with
  | name id at_ => exact .inl ⟨rfl, fun _ => .inl at_⟩
  | schedule start at_ valid engine => exact .inr ⟨at_, rfl, start, valid, rfl⟩
  | count left at_ =>
    refine .inl ⟨rfl, ?_⟩
    simp only
    split <;> simp
  | _ => exact .inl ⟨rfl, by simp⟩

theorem LoopStep.tended {s t : e.Stage} (step : LoopStep s t) (tended : Tended s) : Tended t := by
  obtain ⟨early, roster, waited, awake, blamed⟩ := tended
  obtain ⟨errands, slots⟩ := step.slots_frame
  refine ⟨?_, ?_, ?_, ?_, ?_⟩
  · rcases step.flow_frame with ⟨flow, loop⟩ | ⟨-, at_, -⟩
    · exact fun now => flow.trans (early (loop now))
    · simp [at_]
  · rcases step.flow_frame with ⟨flow, -⟩ | ⟨at_, -, start, -, flow⟩
    · rwa [flow, errands]
    · rw [early (.inr at_)] at roster
      rwa [flow, errands]
  · intro k pending
    rw [errands]
    rcases slots pending with before | ⟨-, r, assigned⟩
    · exact waited before
    · cases assigned
  · intro step' turn mem
    rw [errands] at mem
    exact step.grows.assigned (awake mem)
  · intro k f after
    rw [errands]
    rcases slots after with before | ⟨before, -⟩
    · rcases blamed before with failed | concerned
      · refine .inl ?_
        rcases step.flow_frame with ⟨flow, -⟩ | ⟨at_, -⟩
        · rwa [flow]
        · rw [early (.inr at_)] at failed
          cases failed
      · exact .inr concerned
    · obtain ⟨step', mem, same⟩ := waited before
      exact .inr ⟨_, mem, same⟩

/-- What the workflow does with the steps under way: it orders some, or lets one go that is over. -/
theorem FlowStep.errands_frame {x : σ} {s t : e.Stage} (step : FlowStep x s t) :
    (∃ os, t.errands = s.errands ++ os.map .ordered ∧ t.orders = s.orders ++ os) ∨
      ∃ i o r, s.errands[i]? = some (.finished o r) ∧ t.errands = s.errands.eraseIdx i ∧
        t.orders = s.orders ∧ (t.flow.failed = true ∨ ∃ report, r = .ok report) := by
  cases step with
  | order o next at_ => exact .inl ⟨[o], rfl, rfl⟩
  | orderAll os next at_ => exact .inl ⟨os, rfl, rfl⟩
  | report i missing o r next at_ finished => exact .inr ⟨i, o, _, finished, rfl, rfl, .inr ⟨r, rfl⟩⟩
  | fail i missing o f next at_ finished => exact .inr ⟨i, o, _, finished, rfl, rfl, .inl rfl⟩
  | _ => exact .inl ⟨[], (List.append_nil _).symm, (List.append_nil _).symm⟩

theorem FlowStep.roster {x : σ} {s t : e.Stage} (step : FlowStep x s t)
    (roster : Roster s.errands s.flow) : Roster t.errands t.flow := by
  cases step with
  | order o next at_ =>
    rw [at_] at roster
    have none : s.errands = [] := roster
    simp [Roster, none]
  | orderAll os next at_ =>
    rw [at_] at roster
    have none : s.errands = [] := roster
    simp [Roster, none]
  | report i missing o r next at_ finished =>
    rw [at_] at roster
    have inside := (List.getElem?_eq_some_iff.mp finished).1
    show (s.errands.eraseIdx i).length = missing
    rw [List.length_eraseIdx_of_lt inside]
    have all : s.errands.length = missing + 1 := roster
    omega
  | resume next at_ =>
    rw [at_] at roster
    exact List.length_eq_zero_iff.mp roster
  | fail i missing o f next at_ finished => trivial
  | refuse q f next at_ => trivial
  | findLoop v at_ _ | missLoop v at_ _ | release v at_ | close v at_ =>
    rw [at_] at roster
    cases v <;> exact roster
  | iteration n next at_ | skip i next at_ | askExit o next at_ | askCondition o next at_
  | find q next at_ _ | miss q next known at_ _ | evaluate q next at_ | branch q b next at_ | finish at_ =>
    rw [at_] at roster
    exact roster

theorem FlowStep.failed {x : σ} {s t : e.Stage} (step : FlowStep x s t) (failed : s.flow.failed = true) :
    t.flow.failed = true := by
  cases step <;> simp_all [Flow.failed]

theorem FlowStep.tended {x : σ} {s t : e.Stage} (step : FlowStep x s t) (tended : Tended s) :
    Tended t := by
  obtain ⟨early, roster, waited, awake, blamed⟩ := tended
  obtain ⟨loop, slots, -⟩ := step.frame
  have kept {a : Errand β} (mem : a ∈ s.errands) (under : ∀ o r, a ≠ .finished o r) : a ∈ t.errands := by
    rcases step.errands_frame with ⟨os, same, -⟩ | ⟨i, o, r, there, same, -⟩
    · rw [same]
      exact List.mem_append_left _ mem
    · rw [same]
      exact mem_eraseIdx_of_ne mem there (under o r)
  have known {a : Errand β} (mem : a ∈ t.errands) (under : ∀ o, a ≠ .ordered o) : a ∈ s.errands := by
    rcases step.errands_frame with ⟨os, same, -⟩ | ⟨i, o, r, there, same, -⟩
    · rw [same, List.mem_append] at mem
      rcases mem with mem | new
      · exact mem
      · obtain ⟨o, -, rfl⟩ := List.mem_map.mp new
        exact absurd rfl (under o)
    · rw [same] at mem
      exact List.mem_of_mem_eraseIdx mem
  refine ⟨?_, step.roster roster, ?_, ?_, ?_⟩
  · rw [loop]
    intro now
    have unscheduled := early now
    cases step <;> simp_all
  · intro k pending
    rw [slots] at pending
    obtain ⟨step', mem, same⟩ := waited pending
    exact ⟨step', kept mem (fun o r no => by cases no), same⟩
  · intro step' turn mem
    rw [slots]
    exact awake (known mem fun o no => by cases no)
  · intro k f assigned
    rw [slots] at assigned
    rcases blamed assigned with failed | ⟨a, mem, concerned⟩
    · exact .inl (step.failed failed)
    · rcases step.errands_frame with ⟨os, same, -⟩ | ⟨i, o, r, there, same, -, gone⟩
      · rw [same]
        exact .inr ⟨a, List.mem_append_left _ mem, concerned⟩
      · rcases gone with failed | ⟨report, rfl⟩
        · exact .inl failed
        · refine .inr ⟨a, ?_, concerned⟩
          rw [same]
          refine mem_eraseIdx_of_ne mem there ?_
          rintro rfl
          exact concerned

/-- An activity that goes on still concerns the slot that it concerned. -/
theorem ErrandStep.concerns {s t : e.Stage} {a b : Errand β} {k : Nat} {f : Failure}
    (step : ErrandStep s a t b) (concerned : a.Concerns k)
    (awake : ∀ step' turn, a = .ending step' turn → s.slots[step'.slot]? = some (.assigned turn))
    (assigned : s.slots[k]? = some (.assigned (.error f))) : b.Concerns k := by
  cases step with
  | wake step' turn there => exact concerned
  | unfinished step' turn f engine => trivial
  | finish step' turn engine =>
    obtain rfl : step'.slot = k := concerned
    have same := (awake step' turn rfl).symm.trans assigned
    obtain rfl : turn = .error f := by simpa using same
    trivial
  | _ => exact concerned.elim

/-- A step of a step activity changes only the errand that takes it, and may add a slot. -/
theorem ErrandStep.slots_frame {s t : e.Stage} {a b : Errand β} (step : ErrandStep s a t b) :
    t.errands = s.errands ∧ t.flow = s.flow ∧ t.loop = s.loop ∧
      ∀ {k : Nat} {x : Slot Unit}, t.slots[k]? = some x → s.slots[k]? = some x ∨
        x = .pending ∧ ∃ step', b = .waiting step' ∧ step'.slot = k := by
  rcases step.frame with rfl | ⟨o, agent, -, rfl, rfl⟩
  · exact ⟨rfl, rfl, rfl, .inl⟩
  · refine ⟨rfl, rfl, rfl, fun {k x} after => ?_⟩
    rw [Stage.submit, List.getElem?_append] at after
    by_cases inside : k < s.slots.length
    · rw [if_pos inside] at after
      exact .inl after
    · rw [if_neg inside, List.getElem?_singleton] at after
      split at after
      · rename_i last
        have same : s.slots.length = k := by omega
        exact .inr ⟨(Option.some.inj after).symm, _, rfl, same⟩
      · cases after

theorem ErrandStep.tended {s t : e.Stage} {before after : Errand β} {i : Nat}
    (there : s.errands[i]? = some before) (step : ErrandStep s before t after) (tended : Tended s) :
    Tended { t with errands := t.errands.set i after } := by
  obtain ⟨early, roster, waited, awake, blamed⟩ := tended
  obtain ⟨errands, flow, loop, slots⟩ := step.slots_frame
  have inside := (List.getElem?_eq_some_iff.mp there).1
  have here : after ∈ s.errands.set i after := List.mem_set inside after
  have moved {a : Errand β} (mem : a ∈ s.errands) : a ∈ s.errands.set i after ∨ a = before := by
    by_cases same : a = before
    · exact .inr same
    · exact .inl (mem_set_of_ne mem there same)
  refine ⟨?_, ?_, ?_, ?_, ?_⟩
  · simpa only [loop, flow] using early
  · rw [errands, flow]
    have some : s.errands ≠ [] := List.ne_nil_of_length_pos (Nat.zero_lt_of_lt inside)
    revert roster
    cases s.flow with
    | stepping missing next => exact fun length => List.length_set.trans length
    | releasing visit v | finished v =>
      cases v with
      | none => exact fun none => absurd none some
      | some f => exact id
    | _ => exact fun none => absurd none some
  · intro k pending
    simp only [errands]
    rcases slots pending with old | ⟨-, step', rfl, same⟩
    · obtain ⟨step', mem, same⟩ := waited old
      rcases moved mem with mem | rfl
      · exact ⟨step', mem, same⟩
      · cases step with
        | wake _ turn assigned =>
          rw [same, old] at assigned
          cases assigned
    · exact ⟨step', here, same⟩
  · intro step' turn mem
    simp only [errands] at mem
    apply step.grows.assigned
    rcases List.mem_or_eq_of_mem_set mem with mem | rfl
    · exact awake mem
    · cases step with
      | wake _ _ assigned => exact assigned
  · intro k f assigned
    simp only [errands, flow]
    rcases slots assigned with old | ⟨pending, -⟩
    · refine (blamed old).imp_right fun ⟨a, mem, concerned⟩ => ?_
      rcases moved mem with mem | rfl
      · exact ⟨a, mem, concerned⟩
      · refine ⟨after, here, step.concerns concerned ?_ old⟩
        rintro step' turn rfl
        exact awake (List.mem_of_getElem? there)
    · cases pending

theorem Step.tended {s t : e.Stage} {x y : σ} (step : Step s x t y) (tended : Tended s) : Tended t := by
  cases step with
  | loop step => exact step.tended tended
  | flow step => exact step.tended tended
  | errand i there step => exact step.tended there tended
  | perform i at_ there moves =>
    obtain ⟨-, roster, waited, awake, blamed⟩ := tended
    refine ⟨?_, roster, waited, awake, blamed⟩
    intro no
    rcases no with no | no <;> cases no
  | linger i there moves =>
    obtain ⟨early, roster, waited, awake, blamed⟩ := tended
    exact ⟨early, roster, waited, awake, blamed⟩

theorem Reachable.tended {s : e.Stage} (reach : Reachable s) : Tended s := by
  induction reach with
  | opening =>
    refine ⟨fun _ => rfl, rfl, ?_, ?_, ?_⟩
    · intro k pending
      cases pending
    · intro step turn mem
      cases mem
    · intro k f assigned
      cases assigned
  | step _ step ih => exact step.tended ih

end Ensemble
end Rendezvous
