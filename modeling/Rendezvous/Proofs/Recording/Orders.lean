import Rendezvous.Proofs.FanOut.Census
import Rendezvous.Proofs.Naming

/-!
# No step is ordered twice

Whatever conditions answer, the course of an orchestration orders no step twice (`Drive.fresh_of`), so no two orders of
a workflow are alike (`Ensemble.Reachable.numbered`), and no two steps have the same run.

An agent is submitted once for each order, so no two turns have the same run either (`Ensemble.Reachable.placed`).
-/

namespace Rendezvous

set_option autoImplicit false

/-- A step that an orchestration may order; only loops number their iterations. -/
def StepOrder.Of (id : String) (topology : Topology) (o : StepOrder) : Prop :=
  o.plannerId = id ∧ (topology ≠ .loop → o.iteration = 0)

/-! ## Courses -/

namespace Drive

/-- Whatever is answered, the steps of a course are among some, and none is ordered that has been before. -/
def Fresh (own : StepOrder → Prop) : Drive → (before : List StepOrder) → Prop
  | finish, _ => True
  | iteration _ next, before => (next ()).Fresh own before
  | step o next, before => own o ∧ o ∉ before ∧ next.Fresh own (before ++ [o])
  | steps os next, before =>
    (∀ o ∈ os, own o) ∧ os.Nodup ∧ (∀ o ∈ os, o ∉ before) ∧ next.Fresh own (before ++ os)
  | skip _ next, before => next.Fresh own before
  | checkExit _ next, before | checkCondition _ next, before => ∀ holds, (next holds).Fresh own before

variable {id : String} {own : StepOrder → Prop} {before : List StepOrder}

/-- None of some agents has been ordered in an iteration. -/
def Unasked (id : String) (indices : List Nat) (n : Nat) (before : List StepOrder) : Prop :=
  ∀ i ∈ indices, { plannerId := id, agentIndex := i, iteration := n } ∉ before

theorem Unasked.tail {i n : Nat} {rest : List Nat} (unasked : Unasked id (i :: rest) n before)
    (distinct : (i :: rest).Nodup) :
    Unasked id rest n (before ++ [{ plannerId := id, agentIndex := i, iteration := n }]) := by
  intro j mem asked
  rcases List.mem_append.mp asked with asked | now
  · exact unasked j (List.mem_cons_of_mem _ mem) asked
  · cases List.mem_singleton.mp now
    exact (List.nodup_cons.mp distinct).1 mem

theorem fresh_sequence (named : ∀ i : Nat, own { plannerId := id, agentIndex := i }) (indices : List Nat)
    (distinct : indices.Nodup) (unasked : Unasked id indices 0 before) :
    (sequence id indices).Fresh own before := by
  induction indices generalizing before with
  | nil => trivial
  | cons i rest ih =>
    exact ⟨named i, unasked i List.mem_cons_self, ih (List.nodup_cons.mp distinct).2 (unasked.tail distinct)⟩

theorem fresh_conditional (named : ∀ i : Nat, own { plannerId := id, agentIndex := i }) (indices : List Nat)
    (distinct : indices.Nodup) (unasked : Unasked id indices 0 before) :
    (conditional id indices).Fresh own before := by
  induction indices generalizing before with
  | nil => trivial
  | cons i rest ih =>
    have others := (List.nodup_cons.mp distinct).2
    intro holds
    cases holds with
    | true => exact ⟨named i, unasked i List.mem_cons_self, ih others (unasked.tail distinct)⟩
    | false => exact ih others fun j mem => unasked j (List.mem_cons_of_mem _ mem)

theorem fresh_parallel (named : ∀ i : Nat, own { plannerId := id, agentIndex := i }) (indices : List Nat)
    (distinct : indices.Nodup) (unasked : Unasked id indices 0 before) :
    (parallel id indices).Fresh own before := by
  refine ⟨?_, ?_, ?_, trivial⟩
  · intro o mem
    obtain ⟨i, -, rfl⟩ := List.mem_map.mp mem
    exact named i
  · refine List.pairwise_map.mpr (distinct.imp fun other same => other ?_)
    injection same
  · intro o mem
    obtain ⟨i, among, rfl⟩ := List.mem_map.mp mem
    exact unasked i among

/-- The steps so far are of iterations before one. -/
def Earlier (n : Nat) (before : List StepOrder) : Prop := ∀ o ∈ before, o.iteration < n

theorem fresh_unlessExit (n : Nat) (next : Unit → Drive) (fresh : (next ()).Fresh own before) :
    (unlessExit id n next).Fresh own before := by
  intro holds
  cases holds with
  | true => trivial
  | false => exact fresh

theorem fresh_pass {atEnd : Bool} {n : Nat} {next : Unit → Drive}
    (named : ∀ i : Nat, own { plannerId := id, agentIndex := i, iteration := n })
    (follows : ∀ {before}, Earlier (n + 1) before → (next ()).Fresh own before) (indices : List Nat)
    (distinct : indices.Nodup) (unasked : Unasked id indices n before) (earlier : Earlier (n + 1) before) :
    (pass id atEnd n next indices).Fresh own before := by
  induction indices generalizing before with
  | nil =>
    cases atEnd with
    | true => exact fresh_unlessExit n next (follows earlier)
    | false => exact follows earlier
  | cons i rest ih =>
    have after : Earlier (n + 1) (before ++ [{ plannerId := id, agentIndex := i, iteration := n }]) := by
      intro o mem
      rcases List.mem_append.mp mem with mem | now
      · exact earlier o mem
      · cases List.mem_singleton.mp now
        exact Nat.lt_succ_self n
    have goesOn := ih (List.nodup_cons.mp distinct).2 (unasked.tail distinct) after
    refine ⟨named i, unasked i List.mem_cons_self, ?_⟩
    cases atEnd with
    | true => exact goesOn
    | false => exact fresh_unlessExit n (fun () => pass id false n next rest) goesOn

theorem fresh_loop (named : ∀ i n : Nat, own { plannerId := id, agentIndex := i, iteration := n }) {atEnd : Bool}
    {indices : List Nat} (distinct : indices.Nodup) (remaining n : Nat) (earlier : Earlier n before) :
    (loop id atEnd indices remaining n).Fresh own before := by
  induction remaining generalizing n before with
  | zero => trivial
  | succ remaining ih =>
    refine fresh_pass (named · n) (fun earlier => ih (n + 1) earlier) indices distinct ?_ fun o mem =>
      Nat.lt_succ_of_lt (earlier o mem)
    exact fun i _ asked => Nat.lt_irrefl n (earlier _ asked)

/-- No topology orders a step twice. -/
theorem fresh_of (s : OrchestrationStart) : (Drive.of s).Fresh (StepOrder.Of s.plannerId s.topology) [] := by
  have distinct : (List.range s.agentCount).Nodup := List.nodup_range
  have unasked : Unasked s.plannerId (List.range s.agentCount) 0 [] := fun _ _ => List.not_mem_nil
  have named (topology : Topology) (i : Nat) :
      StepOrder.Of s.plannerId topology { plannerId := s.plannerId, agentIndex := i } := ⟨rfl, fun _ => rfl⟩
  unfold Drive.of
  cases s.topology with
  | sequence => exact fresh_sequence (named _) _ distinct unasked
  | parallel => exact fresh_parallel (named _) _ distinct unasked
  | conditional => exact fresh_conditional (named _) _ distinct unasked
  | loop =>
    have named (i n : Nat) :
        StepOrder.Of s.plannerId .loop { plannerId := s.plannerId, agentIndex := i, iteration := n } :=
      ⟨rfl, fun no => absurd rfl no⟩
    exact fresh_loop named distinct _ _ fun _ mem => absurd mem List.not_mem_nil

end Drive

/-! ## Workflows -/

namespace Ensemble

variable {β σ : Type} {e : Ensemble β σ} {s t : e.Stage} {x y : σ}

/-- What the workflow may still ask for. -/
def Flow.Ahead (P : Drive → Prop) : Flow → Prop
  | .going d | .stepping _ d => P d
  | .checking _ _ next => ∀ holds, P (next holds)
  | .unscheduled | .releasing .. | .finished _ => True

/-- The steps that have been ordered are of the planner, and each has been ordered once. -/
structure Numbered (s : e.Stage) : Prop where
  own : ∀ o ∈ s.orders, o.Of s.planner.plan.id e.plan.topology
  once : s.orders.Nodup
  ahead : s.flow.Ahead (Drive.Fresh (StepOrder.Of s.planner.plan.id e.plan.topology) · s.orders)
  before : s.flow = .unscheduled → s.orders = []

theorem LoopStep.numbered (step : LoopStep s t) (made : Made e s.planner) (tended : Tended s)
    (numbered : Numbered s) : Numbered t := by
  have orders := step.orders_frame
  rcases step.flow_frame with ⟨flow, -⟩ | ⟨at_, -, start, valid, flow⟩
  · rcases step.plan_frame with plan | unnamed
    · refine ⟨?_, ?_, ?_, ?_⟩
      · rw [orders, plan]
        exact numbered.own
      · rw [orders]
        exact numbered.once
      · rw [flow, orders, plan]
        exact numbered.ahead
      · rw [flow, orders]
        exact numbered.before
    · have unscheduled := tended.early (.inl unnamed)
      have none := numbered.before unscheduled
      refine ⟨?_, ?_, ?_, ?_⟩
      · rw [orders, none]
        exact fun o mem => absurd mem List.not_mem_nil
      · rw [orders]
        exact numbered.once
      · rw [flow, unscheduled]
        trivial
      · rw [orders]
        exact fun _ => none
  · have none := numbered.before (tended.early (.inr at_))
    have plan : t.planner.plan = s.planner.plan := by
      rcases step.plan_frame with plan | unnamed
      · exact plan
      · cases at_.symm.trans unnamed
    refine ⟨?_, ?_, ?_, ?_⟩
    · rw [orders, none]
      exact fun o mem => absurd mem List.not_mem_nil
    · rw [orders]
      exact numbered.once
    · have topology : start.topology = e.plan.topology := by rw [(Planner.of_start valid).2.1, made.plan]
      rw [flow, orders, none, plan, ← (Planner.of_start valid).1, ← topology]
      exact Drive.fresh_of start
    · rw [flow]
      nofun

theorem FlowStep.numbered (step : FlowStep x s t) (numbered : Numbered s) : Numbered t := by
  obtain ⟨all, once, ahead, before⟩ := numbered
  cases step with
  | order o next at_ =>
    rw [at_] at ahead
    obtain ⟨own, new, fresh⟩ := ahead
    refine ⟨?_, ?_, fresh, nofun⟩
    · intro o' mem
      rcases List.mem_append.mp mem with old | now
      · exact all o' old
      · exact List.mem_singleton.mp now ▸ own
    · refine List.nodup_append.mpr ⟨once, List.pairwise_singleton .., ?_⟩
      rintro o' old _ now rfl
      exact new (List.mem_singleton.mp now ▸ old)
  | orderAll os next at_ =>
    rw [at_] at ahead
    obtain ⟨own, distinct, new, fresh⟩ := ahead
    refine ⟨?_, ?_, fresh, nofun⟩
    · intro o mem
      rcases List.mem_append.mp mem with old | now
      · exact all o old
      · exact own o now
    · refine List.nodup_append.mpr ⟨once, distinct, ?_⟩
      rintro o old _ now rfl
      exact new o now old
  | branch q holds next at_ =>
    rw [at_] at ahead
    exact ⟨all, once, ahead holds, nofun⟩
  | iteration n next at_ | skip i next at_ | report i missing o r next at_ finished | resume next at_
  | askExit o next at_ | askCondition o next at_ | find q next at_ live | miss q next known at_ gone
  | evaluate q next at_ =>
    rw [at_] at ahead
    exact ⟨all, once, ahead, nofun⟩
  | fail | refuse | finish | findLoop | missLoop | release | close => exact ⟨all, once, trivial, nofun⟩

theorem ErrandStep.numbered {a b : Errand β} (step : ErrandStep s a t b) (numbered : Numbered s) : Numbered t := by
  rcases step.frame with rfl | ⟨o, agent, -, rfl, -⟩
  · exact numbered
  · exact ⟨numbered.own, numbered.once, numbered.ahead, numbered.before⟩

theorem Step.numbered (step : Step s x t y) (made : Made e s.planner) (tended : Tended s) (numbered : Numbered s) :
    Numbered t := by
  cases step with
  | loop step => exact step.numbered made tended numbered
  | flow step => exact step.numbered numbered
  | errand i there step =>
    obtain ⟨own, once, ahead, before⟩ := step.numbered numbered
    exact ⟨own, once, ahead, before⟩
  | perform i at_ there moves | linger i there moves =>
    exact ⟨numbered.own, numbered.once, numbered.ahead, numbered.before⟩

theorem Reachable.numbered (reach : Reachable s) : Numbered s := by
  induction reach with
  | opening => exact ⟨fun o mem => absurd mem List.not_mem_nil, List.nodup_nil, trivial, fun _ => rfl⟩
  | step reach step ih => exact step.numbered reach.made reach.tended ih

/-- No two steps of an orchestration have the same run. -/
theorem Numbered.runs (numbered : Numbered s) : (s.orders.map (·.runId)).Nodup := by
  refine List.pairwise_map.mpr (numbered.once.imp_of_mem ?_)
  intro o o' mem mem' other same
  exact other (StepOrder.runId_injective ((numbered.own o mem).1.trans (numbered.own o' mem').1.symm) same)

/-! ## Turns -/

section Turns

variable {σ : Type} {e : Ensemble Nat σ} {s t : e.Stage} {x y : σ}

/-- The submissions whose turns have begun or are still to begin. -/
def Stage.cast (s : e.Stage) : List (Submission Nat) := s.turns.map (·.submission) ++ Planner.turnsOf s.planner.queue

/-- The orders whose agents are still to be submitted. -/
def unsentOrders (errands : List (Errand Nat)) : List StepOrder := (errands.filter Errand.unsent).map (·.order)

/-- The runs of all of these. -/
def Stage.runs (s : e.Stage) : List (Option String) :=
  s.cast.map (·.run) ++ (unsentOrders s.errands).map (some ·.runId)

/-- Each order has one step activity and one turn at most, which is the turn of its agent. -/
structure Placed (s : e.Stage) : Prop where
  once : s.runs.Nodup
  cast : ∀ sub ∈ s.cast, ∃ o ∈ s.orders, sub.run = some o.runId ∧ e.Seats o.agentIndex sub.agent
  errands : ∀ a ∈ s.errands, a.order ∈ s.orders
  distinct : (s.errands.map (·.order)).Nodup

/-- The loop begins the turns of submissions that it finds in the queue, and may drop submissions. -/
theorem LoopStep.cast_frame (step : LoopStep s t) : ∃ l, t.cast.Perm l ∧ l.Sublist s.cast := by
  have kept (turns : t.turns = s.turns) (queue : t.planner.queue = s.planner.queue) :
      ∃ l, t.cast.Perm l ∧ l.Sublist s.cast := by
    refine ⟨s.cast, .of_eq ?_, .refl _⟩
    rw [Stage.cast, turns, queue, Stage.cast]
  have dropped (turns : t.turns.Perm s.turns) (queue : t.planner.queue = []) :
      ∃ l, t.cast.Perm l ∧ l.Sublist s.cast := by
    refine ⟨s.turns.map (·.submission), ?_, List.sublist_append_left ..⟩
    rw [Stage.cast, queue]
    exact (List.append_nil _).symm ▸ turns.map _
  cases step with
  | call batch p at_ drained _ =>
    obtain ⟨-, turns, rfl⟩ := Planner.drain_call drained
    have back : (batch.map (Turn.of e)).map (·.submission) = batch := by
      rw [List.map_map]
      exact List.map_id'' (fun _ => rfl) _
    refine ⟨s.cast, ?_, .refl _⟩
    simp only [Stage.cast, Stage.turns, at_, Loop.turns, List.map_append, back, Planner.turnsOf_of_turns? turns,
      List.nil_append]
    exact (List.append_nil _).symm ▸ List.perm_append_comm
  | refuse batch p at_ drained _ =>
    obtain ⟨-, -, rfl⟩ := Planner.drain_call drained
    refine dropped (.of_eq ?_) rfl
    rw [Stage.turns, Stage.turns, at_]
    rfl
  | stop p at_ drained =>
    obtain ⟨-, rfl⟩ := Planner.drain_done drained
    refine dropped (.of_eq ?_) rfl
    rw [Stage.turns, Stage.turns, at_]
    rfl
  | finish batch outcomes at_ all none =>
    have before : s.turns = batch ++ s.retired := by rw [Stage.turns, at_, Loop.turns]
    refine ⟨s.cast, .append_right _ (.map _ ?_), .refl _⟩
    show (s.retired ++ batch).Perm s.turns
    exact before ▸ List.perm_append_comm
  | giveUp batch outcomes f at_ all first =>
    have before : s.turns = batch ++ s.retired := by rw [Stage.turns, at_, Loop.turns]
    refine dropped ?_ rfl
    show (s.retired ++ batch).Perm s.turns
    exact before ▸ List.perm_append_comm
  | count left at_ =>
    refine kept ?_ rfl
    simp only [Stage.turns, at_]
    split <;> rfl
  | name id at_ | schedule start at_ _ _ | invalid f at_ _ | unscheduled f at_ _ | acknowledge left at_
  | assign slot left at_ | failNext slot rest f at_ | failed f at_ | leave r at_ =>
    refine kept ?_ rfl
    rw [Stage.turns, Stage.turns, at_]
    rfl

theorem LoopStep.placed (step : LoopStep s t) (placed : Placed s) : Placed t := by
  obtain ⟨l, perm, sub⟩ := step.cast_frame
  have errands := step.slots_frame.1
  have orders := step.orders_frame
  refine ⟨?_, ?_, ?_, ?_⟩
  · have runs : (l.map (·.run) ++ (unsentOrders s.errands).map (some ·.runId)).Nodup :=
      ((sub.map _).append_right _).nodup placed.once
    rw [Stage.runs, errands]
    exact ((perm.map _).append_right _).nodup_iff.mpr runs
  · intro sub' mem
    rw [orders]
    exact placed.cast sub' (sub.subset (perm.mem_iff.mp mem))
  · rw [errands, orders]
    exact placed.errands
  · rw [errands]
    exact placed.distinct

theorem unsentOrders_append (as bs : List (Errand Nat)) :
    unsentOrders (as ++ bs) = unsentOrders as ++ unsentOrders bs := by
  rw [unsentOrders, List.filter_append, List.map_append]
  rfl

theorem unsentOrders_ordered (os : List StepOrder) : unsentOrders (os.map .ordered) = os := by
  induction os with
  | nil => rfl
  | cons o rest ih => exact congrArg (o :: ·) ih

/-- A step that has been reported is nobody's any more. -/
theorem unsentOrders_eraseIdx (errands : List (Errand Nat)) (i : Nat) :
    (unsentOrders (errands.eraseIdx i)).Sublist (unsentOrders errands) :=
  ((List.eraseIdx_sublist ..).filter _).map _

theorem FlowStep.cast_eq (step : FlowStep x s t) : t.cast = s.cast := by
  obtain ⟨loop, -, -, -, -, retired, -, planner⟩ := step.frame
  have queue : Planner.turnsOf t.planner.queue = Planner.turnsOf s.planner.queue := by
    rcases planner with same | complete
    · rw [same]
    · rw [complete, Planner.complete, Planner.put, Planner.turnsOf_append, Planner.turnsOf_complete, List.append_nil]
  rw [Stage.cast, Stage.turns, loop, retired, queue, Stage.cast, Stage.turns]

theorem FlowStep.placed (step : FlowStep x s t) (after : Numbered t) (placed : Placed s) : Placed t := by
  have cast := step.cast_eq
  rcases step.errands_frame with ⟨os, errands, orders⟩ | ⟨i, o, r, there, errands, orders, -⟩
  · have apart : ∀ o ∈ s.orders, ∀ o' ∈ os, o ≠ o' := by
      have once := after.once
      rw [orders] at once
      exact (List.nodup_append.mp once).2.2
    have runs : ∀ o ∈ s.orders, ∀ o' ∈ os, o.runId ≠ o'.runId := by
      have once := after.runs
      rw [orders, List.map_append] at once
      exact fun o mem o' mem' =>
        (List.nodup_append.mp once).2.2 _ (List.mem_map_of_mem mem) _ (List.mem_map_of_mem mem')
    have new : (os.map fun o => some o.runId).Nodup := by
      have once := after.runs
      rw [orders, List.map_append] at once
      refine List.pairwise_map.mpr ((List.pairwise_map.mp (List.nodup_append.mp once).2.1).imp fun other same => ?_)
      exact other (Option.some.inj same)
    refine ⟨?_, ?_, ?_, ?_⟩
    · rw [Stage.runs, cast, errands, unsentOrders_append, unsentOrders_ordered, List.map_append, ← List.append_assoc]
      refine List.nodup_append.mpr ⟨placed.once, new, ?_⟩
      rintro run old _ now rfl
      obtain ⟨o', mem', rfl⟩ := List.mem_map.mp now
      rcases List.mem_append.mp old with old | old
      · obtain ⟨sub, mem, same⟩ := List.mem_map.mp old
        obtain ⟨o, known, run, -⟩ := placed.cast sub mem
        exact runs o known o' mem' (Option.some.inj (run.symm.trans same))
      · obtain ⟨o, mem, same⟩ := List.mem_map.mp old
        obtain ⟨a, among, rfl⟩ := List.mem_map.mp mem
        exact runs _ (placed.errands a (List.mem_filter.mp among).1) o' mem' (Option.some.inj same)
    · rw [cast, orders]
      intro sub mem
      obtain ⟨o, known, rest⟩ := placed.cast sub mem
      exact ⟨o, List.mem_append_left _ known, rest⟩
    · rw [errands, orders]
      intro a mem
      rcases List.mem_append.mp mem with old | now
      · exact List.mem_append_left _ (placed.errands a old)
      · obtain ⟨o, new, rfl⟩ := List.mem_map.mp now
        exact List.mem_append_right _ new
    · have order : (os.map Errand.ordered).map (fun a : Errand Nat => a.order) = os := by
        rw [List.map_map]
        exact List.map_id'' (fun _ => rfl) _
      have once := after.once
      rw [orders] at once
      rw [errands, List.map_append, order]
      refine List.nodup_append.mpr ⟨placed.distinct, (List.nodup_append.mp once).2.1, ?_⟩
      intro o old o' now
      obtain ⟨a, mem, rfl⟩ := List.mem_map.mp old
      exact apart _ (placed.errands a mem) o' now
  · refine ⟨?_, ?_, ?_, ?_⟩
    · rw [Stage.runs, cast, errands]
      exact (((unsentOrders_eraseIdx ..).map _).append_left _).nodup placed.once
    · rw [cast, orders]
      exact placed.cast
    · rw [errands, orders]
      exact fun a mem => placed.errands a (List.mem_of_mem_eraseIdx mem)
    · rw [errands]
      exact ((List.eraseIdx_sublist ..).map _).nodup placed.distinct

/-- Whoever is submitted is still to be submitted until then; any other step of a step activity submits nobody. -/
theorem ErrandStep.cast_frame {a b : Errand Nat} (step : ErrandStep s a t b) :
    (t = s ∧ (b.unsent = true → a.unsent = true)) ∨
      ∃ o agent, a = .begun o agent ∧ b.unsent = false ∧ t = s.submit o agent ∧
        t.cast = s.cast ++ [s.submission o agent] := by
  cases step with
  | submit o agent =>
    refine .inr ⟨o, agent, rfl, rfl, rfl, ?_⟩
    simp only [Stage.cast, Stage.submit, Planner.submit, Planner.put, Planner.turnsOf_append, Planner.turnsOf_turn,
      ← List.append_assoc]
    rfl
  | find | begin => exact .inl ⟨rfl, fun _ => rfl⟩
  | _ => exact .inl ⟨rfl, fun no => absurd no Bool.false_ne_true⟩

theorem ErrandStep.placed {before after : Errand Nat} {i : Nat} (there : s.errands[i]? = some before)
    (step : ErrandStep s before t after) (recorded : Recorded s) (placed : Placed s) :
    Placed { t with errands := t.errands.set i after } := by
  obtain ⟨old, new⟩ := perm_of_getElem? there after
  have mem := List.mem_of_getElem? there
  have order := step.order_eq
  have whole : (unsentOrders s.errands).Perm (unsentOrders (before :: s.errands.eraseIdx i)) :=
    (old.filter Errand.unsent).map _
  have part : (unsentOrders (s.errands.set i after)).Perm (unsentOrders (after :: s.errands.eraseIdx i)) :=
    (new.filter Errand.unsent).map _
  have errands := step.slots_frame.1
  have once : (s.cast.map (·.run) ++ (unsentOrders (before :: s.errands.eraseIdx i)).map (some ·.runId)).Nodup :=
    ((whole.map _).append_left _).nodup_iff.mp placed.once
  have orders : t.orders = s.orders := by
    rcases step.frame with rfl | ⟨o, agent, -, rfl, -⟩ <;> rfl
  have under : ∀ a ∈ s.errands.set i after, a.order ∈ s.orders := by
    intro a among
    rcases List.mem_or_eq_of_mem_set among with old | rfl
    · exact placed.errands a old
    · rw [order]
      exact placed.errands before mem
  have distinct : ((s.errands.set i after).map (·.order)).Nodup := by
    have same : ((s.errands.set i after).map (·.order)).Perm (s.errands.map (·.order)) := by
      refine (new.map _).trans (.trans (.of_eq ?_) (old.map _).symm)
      rw [List.map_cons, List.map_cons, order]
    exact same.nodup_iff.mpr placed.distinct
  rcases step.cast_frame with ⟨rfl, unsent⟩ | ⟨o, agent, rfl, sent, rfl, cast⟩
  · refine ⟨?_, placed.cast, under, distinct⟩
    show (t.cast.map (·.run) ++ (unsentOrders (t.errands.set i after)).map (some ·.runId)).Nodup
    refine ((part.map _).append_left _).nodup_iff.mpr ?_
    refine List.Sublist.nodup (.append_left (.map _ ?_) _) once
    cases sends : after.unsent with
    | true =>
      rw [unsentOrders, unsentOrders, List.filter_cons_of_pos sends, List.filter_cons_of_pos (unsent sends),
        List.map_cons, List.map_cons, order]
    | false =>
      rw [unsentOrders, unsentOrders, List.filter_cons_of_neg (by rw [sends]; exact Bool.false_ne_true)]
      exact ((List.sublist_cons_self ..).filter _).map _
  · refine ⟨?_, ?_, ?_, ?_⟩
    · show ((s.submit o agent).cast.map (·.run) ++ (unsentOrders (s.errands.set i after)).map (some ·.runId)).Nodup
      refine ((part.map _).append_left _).nodup_iff.mpr ?_
      have rest : unsentOrders (after :: s.errands.eraseIdx i) = unsentOrders (s.errands.eraseIdx i) := by
        rw [unsentOrders, List.filter_cons_of_neg (by rw [sent]; exact Bool.false_ne_true)]
        rfl
      rw [cast, rest, List.map_append, List.append_assoc]
      exact once
    · intro sub among
      have among : sub ∈ (s.submit o agent).cast := among
      rw [cast] at among
      rcases List.mem_append.mp among with old | now
      · exact placed.cast sub old
      · cases List.mem_singleton.mp now
        exact ⟨o, placed.errands _ mem, rfl, recorded.sound mem⟩
    · exact under
    · exact distinct

/-- The turns go on, and nobody else does anything. -/
theorem Placed.of_turns (placed : Placed s) (turns : t.turns.map (·.submission) = s.turns.map (·.submission))
    (queue : t.planner.queue = s.planner.queue) (errands : t.errands = s.errands) (orders : t.orders = s.orders) :
    Placed t := by
  have cast : t.cast = s.cast := by rw [Stage.cast, turns, queue, Stage.cast]
  refine ⟨?_, ?_, ?_, ?_⟩
  · rw [Stage.runs, cast, errands]
    exact placed.once
  · rw [cast, orders]
    exact placed.cast
  · rw [errands, orders]
    exact placed.errands
  · rw [errands]
    exact placed.distinct

theorem Step.placed (step : Step s x t y) (after : Numbered t) (recorded : Recorded s) (placed : Placed s) :
    Placed t := by
  cases step with
  | loop step => exact step.placed placed
  | flow step => exact step.placed after placed
  | errand i there step => exact step.placed there recorded placed
  | perform i at_ there moves =>
    rename_i batch u q
    refine placed.of_turns ?_ rfl rfl rfl
    have before : s.turns = batch ++ s.retired := by rw [Stage.turns, at_, Loop.turns]
    rw [before, List.map_append, ← map_submission_set there q]
    exact List.map_append
  | linger i there moves =>
    rename_i u q
    refine placed.of_turns ?_ rfl rfl rfl
    have before : s.turns = s.loop.turns ++ s.retired := rfl
    rw [before, List.map_append, ← map_submission_set there q]
    exact List.map_append

theorem Reachable.placed (reach : Reachable s) : Placed s := by
  induction reach with
  | opening => exact ⟨List.nodup_nil, nofun, nofun, List.nodup_nil⟩
  | step reach step ih => exact step.placed (reach.step step).numbered reach.recorded ih

end Turns

end Ensemble
end Rendezvous
