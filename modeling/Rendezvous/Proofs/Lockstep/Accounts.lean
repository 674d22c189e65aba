import Rendezvous.Proofs.Lockstep.Desk

/-!
# A planner keeps its accounts

The planner counts how many acknowledgements are missing, holds the slot of the agent whose turn it is, and keeps those
behind it in a line.  Wherever the loop stands, these three say what is owed (`Counted`).  So every call fits what is owed
when it begins; what has been handed out is the beginning of what has been submitted (`Numbered`), the slots that have
been assigned are those that calls have assigned (`Settled`), and a run is bound after a call only for an agent that is a
batch of its own (`Bound`).

`Reachable.lockstep` puts this together for all schedules.
-/

namespace Rendezvous

set_option autoImplicit false

namespace Planner

variable {α : Type}

/-- If no slot is missing in between, the current one is the first of those in turn. -/
theorem current_eq_head? {p : Planner α} (upright : p.current = none → p.pending = []) :
    p.current = p.inTurn.head? ∧ p.pending = p.inTurn.tail := by
  unfold inTurn
  cases current : p.current with
  | none =>
    rw [upright current]
    exact ⟨rfl, rfl⟩
  | some k => exact ⟨rfl, rfl⟩

end Planner

namespace Desk

variable {α : Type} {d d' : Desk α}

/-! ## The count -/

/-- What the planner keeps of what is owed, as the place of the loop says. -/
def Tally (p : Planner α) (owed : List Nat) : Place α → Prop
  | .before => p.inTurn = [] ∧ p.outstanding = 0 ∧ owed = []
  | .idle => owed ≠ [] ∧ p.inTurn = owed ∧ p.outstanding = owed.length
  | .assigning slot => slot = owed.head? ∧ p.inTurn = owed.tail ∧ p.outstanding = owed.length
  | .counting assigned => assigned = owed.head?.toList ∧ p.inTurn = owed.tail ∧ p.outstanding = owed.length
  | .taking assigned _ => assigned = owed.head?.toList ∧ p.inTurn = [] ∧ owed.length ≤ 1
  | .ended => True

/-- The planner keeps count of what is owed, and every call has fitted it. -/
structure Counted (d : Desk α) : Prop where
  upright : d.planner.current = none → d.planner.pending = []
  tally : Tally d.planner (owed d.answers) d.place
  follows : Follows [] d.answers

/-- Whoever has something to put into the queue leaves the count alone. -/
theorem Counted.put (counted : Counted d) (n : Notice α) : Counted { d with planner := d.planner.put n } := by
  obtain ⟨upright, tally, follows⟩ := counted
  refine ⟨upright, ?_, follows⟩
  revert tally
  cases d.place <;> exact id

/-- A call that looks into the queue has nothing left to acknowledge. -/
theorem Counted.conclude {p : Planner α} {taken : List (Notice α)} {action : LoopAction α} {assigned : List Nat}
    (counted : Counted d) (at_ : d.place = .taking assigned taken)
    (drained : ({ d.planner with queue := taken } : Planner α).drain = some (action, p)) :
    Counted ({ d with planner := p }.answer assigned true action) := by
  obtain ⟨upright, tally, follows⟩ := counted
  rw [at_] at tally
  obtain ⟨rfl, none, short⟩ := tally
  cases action with
  | noOp => exact absurd drained Planner.drain_ne_noOp
  | done =>
    obtain ⟨-, rfl⟩ := Planner.drain_done drained
    exact ⟨upright, trivial,
      follows.append ⟨rfl, fun several => absurd short (by exact Nat.not_le.mpr several), fun _ => ⟨nofun, rfl⟩, nofun⟩⟩
  | call batch =>
    obtain ⟨nonempty, -, rfl⟩ := Planner.drain_call drained
    have free : d.planner.pending = [] := Planner.pending_eq_nil_of_inTurn none
    have fits : Answer.Fits (owed d.answers)
        { assigned := (owed d.answers).head?.toList, looked := true, action := .call batch,
          run := runAfter d.run (.call batch) } := by
      refine ⟨rfl, fun many => by omega, fun _ => ⟨nofun, rfl⟩, ?_⟩
      rintro ⟨⟩
      exact nonempty rfl
    refine ⟨?_, ?_, follows.append fits⟩
    · intro current
      simp_all [answer, Planner.dispatch]
    · show Tally _ (owed (d.answers ++ [_])) .idle
      rw [owed_concat]
      refine ⟨fun empty => nonempty (List.map_eq_nil_iff.mp empty), ?_, ?_⟩
      · show Planner.inTurn _ = batch.map (·.slot)
        rw [answer, Planner.inTurn_dispatch]
        exact (congrArg (· ++ _) free).trans (List.nil_append _)
      · simp [answer, Answer.owes, Planner.dispatch]

theorem Move.counted (move : Move d d') (counted : Counted d) : Counted d' := by
  have ⟨upright, tally, follows⟩ := counted
  cases move with
  | start at_ =>
    rw [at_] at tally
    obtain ⟨none, outstanding, nothing⟩ := tally
    exact ⟨upright, by simp [Tally, nothing, none, outstanding], follows⟩
  | refuse at_ => exact ⟨upright, trivial, follows⟩
  | acknowledge at_ =>
    rw [at_] at tally
    obtain ⟨-, inTurn, outstanding⟩ := tally
    obtain ⟨current, pending⟩ := Planner.current_eq_head? upright
    refine ⟨?_, ⟨?_, ?_, outstanding⟩, follows⟩
    · show d.planner.pending.head? = none → d.planner.pending.tail = []
      intro last
      rw [List.head?_eq_none_iff.mp last]
      rfl
    · exact current.trans (congrArg _ inTurn)
    · rw [Planner.inTurn_acknowledge, pending, inTurn]
  | assign slot at_ =>
    rw [at_] at tally
    obtain ⟨rfl, inTurn, outstanding⟩ := tally
    exact ⟨upright, ⟨rfl, inTurn, outstanding⟩, follows⟩
  | wait assigned at_ waits =>
    rw [at_] at tally
    obtain ⟨rfl, inTurn, outstanding⟩ := tally
    rw [Planner.isWaiting_countDown, decide_eq_true_eq, outstanding] at waits
    have several : 1 < (owed d.answers).length := by omega
    refine ⟨upright, ?_,
      follows.append ⟨rfl, fun _ => ⟨rfl, rfl⟩, fun short => absurd several (by exact Nat.not_lt.mpr short), nofun⟩⟩
    show Tally _ (owed (d.answers ++ [_])) .idle
    rw [owed_concat]
    refine ⟨?_, inTurn, ?_⟩
    · exact List.ne_nil_of_length_pos (by rw [Answer.owes, List.length_tail]; omega)
    · simp only [answer, Planner.countDown, Answer.owes, List.length_tail]
      omega
  | look assigned at_ free =>
    rw [at_] at tally
    obtain ⟨rfl, inTurn, outstanding⟩ := tally
    rw [Planner.isWaiting_countDown, decide_eq_false_iff_not, outstanding] at free
    have short : (owed d.answers).length ≤ 1 := by omega
    refine ⟨upright, ⟨rfl, inTurn.trans ?_, short⟩, follows⟩
    exact List.length_eq_zero_iff.mp (by rw [List.length_tail]; omega)
  | take assigned taken rest n at_ queue =>
    rw [at_] at tally
    exact ⟨upright, tally, follows⟩
  | conclude assigned taken action p at_ empty drained => exact counted.conclude at_ drained

theorem Step.counted (step : Step d d') (counted : Counted d) : Counted d' := by
  cases step with
  | move move => exact move.counted counted
  | submit agent run =>
    obtain ⟨upright, tally, follows⟩ := counted.put (.turn { agent, slot := d.slots.length, run })
    exact ⟨upright, tally, follows⟩
  | complete => exact counted.put .complete
  | wander run at_ => exact ⟨counted.upright, counted.tally, counted.follows⟩

theorem Reachable.counted (reach : Reachable d) : Counted d := by
  induction reach with
  | opening plan agents scope => exact ⟨fun _ => rfl, ⟨rfl, rfl, rfl⟩, trivial⟩
  | step _ step ih => exact step.counted ih

/-- Only the first call comes when nothing is owed. -/
structure Begun (d : Desk α) : Prop where
  calls : ∀ m a, d.answers[m]? = some a → owed (d.answers.take m) = [] → m = 0
  goesOn : d.place ≠ .ended → owed d.answers = [] → d.answers = []

/-- A call that does not end the loop leaves something to acknowledge. -/
theorem Begun.answer (begun : Begun d) (open_ : d.place ≠ .ended) (assigned : List Nat) (looked : Bool)
    (action : LoopAction α) (counted : Counted (d.answer assigned looked action)) :
    Begun (d.answer assigned looked action) := by
  refine ⟨?_, ?_⟩
  · intro m a there nothing
    rw [Desk.answer] at there nothing
    rcases Nat.lt_trichotomy m d.answers.length with old | new | beyond
    · rw [List.getElem?_append_left old] at there
      rw [List.take_append_of_le_length old.le] at nothing
      exact begun.calls m a there nothing
    · rw [new, List.take_left'] at nothing
      · rw [new, begun.goesOn open_ nothing]
        rfl
      · rfl
    · rw [List.getElem?_eq_none (by rw [List.length_append, List.length_singleton]; exact beyond)] at there
      cases there
  · intro goesOn nothing
    have tally := counted.tally
    rw [nothing, Desk.answer] at tally
    rw [Desk.answer] at goesOn
    dsimp only at goesOn tally
    cases done : action.isDone with
    | true => exact absurd (by rw [done]; rfl) goesOn
    | false =>
      rw [done] at tally
      exact absurd rfl tally.1

theorem Move.begun (move : Move d d') (counted : Counted d') (begun : Begun d) : Begun d' := by
  cases move with
  | start at_ | acknowledge at_ | assign slot at_ | look assigned at_ free
  | take assigned taken rest n at_ queue =>
    exact ⟨begun.calls, fun _ => begun.goesOn (by rw [at_]; nofun)⟩
  | refuse at_ => exact ⟨begun.calls, fun goesOn => absurd rfl goesOn⟩
  | wait assigned at_ waits =>
    have frame : Begun { d with planner := d.planner.countDown } := ⟨begun.calls, begun.goesOn⟩
    exact frame.answer (by rw [at_]; nofun) assigned false .noOp counted
  | conclude assigned taken action p at_ empty drained =>
    have frame : Begun { d with planner := p } := ⟨begun.calls, begun.goesOn⟩
    exact frame.answer (by rw [at_]; nofun) assigned true action counted

theorem Reachable.begun (reach : Reachable d) : Begun d := by
  induction reach with
  | opening plan agents scope => exact ⟨nofun, fun _ _ => rfl⟩
  | step reach step ih =>
    cases step with
    | move move => exact move.begun (move.counted reach.counted) ih
    | submit agent run | complete | wander run at_ => exact ⟨ih.calls, ih.goesOn⟩

/-! ## The run -/

/-- A run is bound after a call exactly for an agent that is a batch of its own and has one. -/
structure Bound (d : Desk α) : Prop where
  during : d.place ≠ .idle → d.run = none
  after : ∀ a ∈ d.answers, ∀ id, a.run = some id ↔ ∃ s, a.action = .call [s] ∧ s.run = some id

theorem boundRun_eq_some_iff {action : LoopAction α} {id : String} :
    runAfter none action = some id ↔ ∃ s, action = .call [s] ∧ s.run = some id := by
  unfold runAfter
  cases action with
  | noOp | done => simp [LoopAction.isDone, Planner.boundRun]
  | call batch =>
    match batch with
    | [] => simp [LoopAction.isDone, Planner.boundRun]
    | [s] => simp [LoopAction.isDone, Planner.boundRun]
    | s :: t :: rest => simp [LoopAction.isDone, Planner.boundRun]

/-- A call comes to an end on a thread that belongs to no run. -/
theorem Bound.answer (bound : Bound d) (busy : d.place ≠ .idle) (assigned : List Nat) (looked : Bool)
    (action : LoopAction α) : Bound (d.answer assigned looked action) := by
  have unbound := bound.during busy
  refine ⟨?_, ?_⟩
  · intro still
    have ended : action.isDone = true := by
      by_contra goesOn
      exact still (by simp [Desk.answer, goesOn])
    simp [Desk.answer, runAfter, ended]
  · intro a mem id
    rcases List.mem_append.mp mem with old | new
    · exact bound.after a old id
    · obtain rfl := List.mem_singleton.mp new
      show runAfter d.run action = some id ↔ _
      rw [unbound, boundRun_eq_some_iff]

theorem Move.bound (move : Move d d') (bound : Bound d) : Bound d' := by
  have during := bound.during
  cases move with
  | start at_ | assign slot at_ | look assigned at_ free | take assigned taken rest n at_ queue =>
    exact ⟨fun _ => during (by rw [at_]; nofun), bound.after⟩
  | refuse at_ | acknowledge at_ => exact ⟨fun _ => rfl, bound.after⟩
  | wait assigned at_ waits =>
    have frame : Bound { d with planner := d.planner.countDown } := ⟨during, bound.after⟩
    exact frame.answer (by rw [at_]; nofun) assigned false .noOp
  | conclude assigned taken action p at_ empty drained =>
    have frame : Bound { d with planner := p } := ⟨during, bound.after⟩
    exact frame.answer (by rw [at_]; nofun) assigned true action

theorem Step.bound (step : Step d d') (bound : Bound d) : Bound d' := by
  cases step with
  | move move => exact move.bound bound
  | submit agent run | complete => exact ⟨bound.during, bound.after⟩
  | wander run at_ => exact ⟨fun busy => absurd at_ busy, bound.after⟩

theorem Reachable.bound (reach : Reachable d) : Bound d := by
  induction reach with
  | opening plan agents scope => exact ⟨fun _ => rfl, nofun⟩
  | step _ step ih => exact step.bound ih

/-! ## The order -/

/-- Submissions have slots of their own, and are handed out in their order. -/
structure Numbered (d : Desk α) : Prop where
  slots : d.submitted.map (·.slot) = List.range d.slots.length
  inOrder : ∃ rest, d.submitted = handedOut d.answers ++ rest ∧
    (d.place ≠ .ended → rest = Planner.turnsOf d.place.taken ++ Planner.turnsOf d.planner.queue)

/-- Nothing is handed out, taken or put. -/
theorem Numbered.of_frame (numbered : Numbered d) (submitted : d'.submitted = d.submitted)
    (slots : d'.slots.length = d.slots.length) (answers : handedOut d'.answers = handedOut d.answers)
    (queue : d'.place ≠ .ended → d.place ≠ .ended ∧
      Planner.turnsOf d'.place.taken ++ Planner.turnsOf d'.planner.queue =
        Planner.turnsOf d.place.taken ++ Planner.turnsOf d.planner.queue) : Numbered d' := by
  obtain ⟨same, rest, split, behind⟩ := numbered
  refine ⟨by rw [submitted, slots, same], rest, by rw [submitted, answers, split], fun goesOn => ?_⟩
  obtain ⟨before, equal⟩ := queue goesOn
  rw [equal, behind before]

theorem Move.numbered (move : Move d d') (numbered : Numbered d) : Numbered d' := by
  cases move with
  | start at_ | acknowledge at_ | look assigned at_ free =>
    exact numbered.of_frame rfl rfl rfl fun _ => ⟨by rw [at_]; nofun, by rw [at_]; rfl⟩
  | refuse at_ => exact numbered.of_frame rfl rfl rfl fun goesOn => absurd rfl goesOn
  | assign slot at_ =>
    refine numbered.of_frame rfl ?_ rfl fun _ => ⟨by rw [at_]; nofun, by rw [at_]; rfl⟩
    cases slot with
    | none => rfl
    | some k => exact List.length_modify _ _ _
  | wait assigned at_ waits =>
    refine numbered.of_frame rfl rfl ?_ fun _ => ⟨by rw [at_]; nofun, by rw [at_]; rfl⟩
    exact (handedOut_concat _ _).trans (List.append_nil _)
  | take assigned taken rest n at_ queue =>
    refine numbered.of_frame rfl rfl rfl fun _ => ⟨by rw [at_]; nofun, ?_⟩
    show Planner.turnsOf (taken ++ [n]) ++ Planner.turnsOf rest = _
    rw [at_, queue, Planner.turnsOf_append, List.append_assoc, ← Planner.turnsOf_append]
    rfl
  | conclude assigned taken action p at_ empty drained =>
    obtain ⟨slots, rest, split, behind⟩ := numbered
    cases action with
    | noOp => exact absurd drained Planner.drain_ne_noOp
    | done =>
      refine ⟨slots, rest, ?_, fun goesOn => absurd rfl goesOn⟩
      rw [answer, handedOut_concat]
      exact split.trans (congrArg (· ++ rest) (List.append_nil _).symm)
    | call batch =>
      obtain ⟨-, turns, rfl⟩ := Planner.drain_call drained
      -- the batch is all that was left
      have all : rest = batch := by
        rw [behind (by rw [at_]; nofun), at_, empty]
        exact (List.append_nil _).trans (Planner.turnsOf_of_turns? turns)
      refine ⟨slots, [], ?_, fun _ => rfl⟩
      rw [answer, handedOut_concat, List.append_nil]
      exact split.trans (congrArg _ all)

theorem Step.numbered (step : Step d d') (numbered : Numbered d) : Numbered d' := by
  cases step with
  | move move => exact move.numbered numbered
  | submit agent run =>
    obtain ⟨slots, rest, split, behind⟩ := numbered
    refine ⟨?_, rest ++ [{ agent, slot := d.slots.length, run }], ?_, fun goesOn => ?_⟩
    · simp [Desk.submit, slots, List.range_succ]
    · rw [Desk.submit, split, List.append_assoc]
    · rw [behind goesOn, Desk.submit, Planner.submit, Planner.put, Planner.turnsOf_append, List.append_assoc]
      rfl
  | complete =>
    refine numbered.of_frame rfl rfl rfl fun goesOn => ⟨goesOn, ?_⟩
    rw [Planner.complete, Planner.put, Planner.turnsOf_append, Planner.turnsOf_complete, List.append_nil]
  | wander run at_ => exact numbered.of_frame rfl rfl rfl fun goesOn => ⟨goesOn, rfl⟩

theorem Reachable.numbered (reach : Reachable d) : Numbered d := by
  induction reach with
  | opening plan agents scope => exact ⟨rfl, [], rfl, fun _ => rfl⟩
  | step _ step ih => exact step.numbered ih

/-- What has been handed out is the beginning of what has been submitted. -/
theorem Numbered.handedOut_isPrefix (numbered : Numbered d) : handedOut d.answers <+: d.submitted := by
  obtain ⟨-, rest, split, -⟩ := numbered
  exact ⟨rest, split.symm⟩

/-! ## The slots -/

/-- The slots that calls have assigned so far, in order. -/
def settled (d : Desk α) : List Nat := d.answers.flatMap (·.assigned) ++ d.place.assigned

/-- The slots that have been assigned are those that calls have assigned. -/
def Settled (d : Desk α) : Prop :=
  ∀ k r, d.slots[k]? = some (.assigned r) ↔ r = .ok () ∧ k ∈ d.settled

/-- What is owed is a slot that there is. -/
theorem owed_lt (counted : Counted d) (numbered : Numbered d) {k : Nat} (mem : k ∈ owed d.answers) :
    k < d.slots.length := by
  have among : k ∈ (handedOut d.answers).map (·.slot) := by
    rw [← counted.follows.assigned_append_owed]
    exact List.mem_append_right _ mem
  have known := (numbered.handedOut_isPrefix.map (·.slot)).subset among
  rw [numbered.slots] at known
  exact List.mem_range.mp known

theorem Move.settled (move : Move d d') (counted : Counted d) (numbered : Numbered d) (settled : Settled d) :
    Settled d' := by
  intro k r
  have before := settled k r
  unfold Desk.settled at before ⊢
  cases move with
  | start at_ | refuse at_ | acknowledge at_ | look assigned at_ free | take assigned taken rest n at_ queue =>
    rw [at_] at before
    exact before
  | wait assigned at_ waits =>
    rw [at_] at before
    simpa [answer, Place.assigned, LoopAction.isDone] using before
  | conclude assigned taken action p at_ empty drained =>
    rw [at_] at before
    have none : (if action.isDone then .ended else .idle : Place α).assigned = [] := by split <;> rfl
    rw [answer, none, List.append_nil, List.flatMap_append, List.flatMap_singleton]
    exact before
  | assign slot at_ =>
    have tally := counted.tally
    rw [at_] at before tally
    cases slot with
    | none => exact before
    | some j =>
      have inside : j < d.slots.length := owed_lt counted numbered (List.mem_of_head? tally.1.symm)
      simp only [Place.assigned, List.append_nil, Option.toList_some, List.foldl_cons, List.foldl_nil,
        List.mem_append, List.mem_singleton] at before ⊢
      by_cases same : j = k
      · subst same
        rw [List.getElem?_modify_eq, List.getElem?_eq_getElem inside]
        rw [List.getElem?_eq_getElem inside] at before
        cases slot : d.slots[j] with
        | pending => simp [Slot.assign, eq_comm]
        | assigned first =>
          rw [slot] at before
          have ok := (settled j first).mp (by rw [List.getElem?_eq_getElem inside, slot])
          simp [Slot.assign, ok.1, eq_comm]
      · rw [List.getElem?_modify_ne _ _ same, before]
        simp [Ne.symm same]

theorem Step.settled (step : Step d d') (counted : Counted d) (numbered : Numbered d) (settled : Settled d) :
    Settled d' := by
  cases step with
  | move move => exact move.settled counted numbered settled
  | submit agent run =>
    intro k r
    rw [← show d.settled = (d.submit agent run).settled from rfl, ← settled k r, Desk.submit]
    by_cases inside : k < d.slots.length
    · rw [List.getElem?_append_left inside]
    · rw [List.getElem?_append_right (by omega), List.getElem?_eq_none (by omega : d.slots.length ≤ k),
        List.getElem?_singleton]
      split <;> simp
  | complete => exact settled
  | wander run at_ => exact settled

theorem Reachable.settled (reach : Reachable d) : Settled d := by
  induction reach with
  | opening plan agents scope =>
    intro k r
    simp [Desk.settled, Desk.opening, Place.assigned]
  | step reach step ih => exact step.settled reach.counted reach.numbered ih

end Desk
end Rendezvous
