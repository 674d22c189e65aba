import Rendezvous.Proofs.Interleaving.Course

/-!
# What the loop ends with

The loop gives up for the first failure of a turn, and then a slot holds that failure; as long as it has
not given up, all turns have ended well (`Judged`).  It ends without a failure only when it finds the
notice of the workflow, which the workflow leaves when it ends, however that went (`Notified`).
-/

namespace Rendezvous

set_option autoImplicit false

namespace Ensemble

variable {β σ : Type} {e : Ensemble β σ}

/-- The failure that the loop has given up for. -/
def Loop.failure? : e.Loop → Option Failure
  | .failing _ f | .leaving (.error f) | .ended (.error f) => some f
  | _ => none

/-! ## Failures -/

/-- A turn has failed with this, and a slot holds the failure or is about to. -/
structure Blames (s : e.Stage) (f : Failure) : Prop where
  taken : ∃ sub, (sub, .error f) ∈ s.taken
  slot : ∃ k, k ∈ s.loop.inHand ∨ s.slots[k]? = some (.assigned (.error f))

/-- The loop gives up exactly for the failures of turns, if it has begun at all. -/
structure Judged (s : e.Stage) : Prop where
  well : s.loop.failure? = none → ∀ p ∈ s.taken, ∃ v, p.2 = .ok v
  ill : ∀ {f : Failure}, s.loop.failure? = some f → s.flow = .unscheduled ∨ Blames s f

theorem Judged.of_well {s : e.Stage} (none : s.loop.failure? = none)
    (well : ∀ p ∈ s.taken, ∃ v, p.2 = .ok v) : Judged s := by
  refine ⟨fun _ => well, fun {f} failure => ?_⟩
  cases none.symm.trans failure

theorem Judged.of_ill {s : e.Stage} {f : Failure} (failure : s.loop.failure? = some f)
    (ill : s.flow = .unscheduled ∨ Blames s f) : Judged s := by
  refine ⟨fun none => ?_, fun {g} other => ?_⟩
  · cases none.symm.trans failure
  · obtain rfl : f = g := Option.some.inj (failure.symm.trans other)
    exact ill

theorem Blames.of_frame {s t : e.Stage} {f : Failure} (blames : Blames s f) (grows : Grows s t)
    (loop : t.loop.inHand = s.loop.inHand) : Blames t f := by
  obtain ⟨⟨sub, taken⟩, k, held⟩ := blames
  refine ⟨⟨sub, grows.taken taken⟩, k, ?_⟩
  rw [loop]
  exact held.imp_right grows.assigned

/-- What has come of a batch without failures is nothing but successes. -/
theorem ok_of_outcomes {outcomes : List (Result Value)} (none : outcomes.findSome? Act.failure? = none)
    {r : Result Value} (mem : r ∈ outcomes) : ∃ v, r = .ok v := by
  have ok := List.findSome?_eq_none_iff.mp none r mem
  cases r with
  | ok v => exact ⟨v, rfl⟩
  | error f => cases ok

/-- The first failure among what has come of a batch is that of one of its turns. -/
theorem error_of_outcomes {batch : List e.Turn} {outcomes : List (Result Value)} {f : Failure}
    (all : outcomes? batch = some outcomes) (first : outcomes.findSome? Act.failure? = some f) :
    ∃ sub, (sub, .error f) ∈ (batch.map Turn.submission).zip outcomes := by
  induction batch generalizing outcomes with
  | nil =>
    cases all
    cases first
  | cons t rest ih =>
    simp only [outcomes?, List.mapM_cons, Option.bind_eq_bind, Option.bind_eq_some_iff,
      Option.pure_def, Option.some.injEq] at all
    obtain ⟨r, -, others, more, rfl⟩ := all
    rw [List.findSome?_cons] at first
    cases r with
    | error g =>
      obtain rfl : g = f := Option.some.inj first
      exact ⟨t.submission, List.mem_cons_self⟩
    | ok v =>
      obtain ⟨sub, there⟩ := ih more first
      exact ⟨sub, List.mem_cons_of_mem _ there⟩

theorem LoopStep.judged {s t : e.Stage} (step : LoopStep s t) (counted : Counted s) (ledger : Ledger s)
    (tended : Tended s) (judged : Judged s) : Judged t := by
  obtain ⟨well, ill⟩ := judged
  have tally := counted.tally
  cases step with
  | name id at_ | schedule start at_ _ _ | call batch p at_ _ _ | refuse batch p at_ _ _ | stop p at_ _
  | acknowledge left at_ | assign slot left at_ =>
    rw [at_] at well
    exact .of_well rfl (well rfl)
  | count left at_ =>
    rw [at_] at well
    have none : (if s.planner.countDown.isWaiting then .acknowledging left
        else .looking : e.Loop).failure? = none := by
      split <;> rfl
    exact .of_well none (well rfl)
  | invalid f at_ _ | unscheduled f at_ _ => exact .of_ill rfl (.inl (tended.early (.inr at_)))
  | finish batch outcomes at_ all none =>
    rw [at_] at well
    refine .of_well rfl fun p mem => ?_
    rcases List.mem_append.mp mem with old | new
    · exact well rfl p old
    · exact ok_of_outcomes none (List.of_mem_zip new).2
  | giveUp batch outcomes f at_ all first =>
    rw [at_] at tally
    obtain ⟨some, turns, -⟩ := tally
    obtain ⟨sub, taken⟩ := error_of_outcomes all first
    refine .of_ill rfl (.inr ⟨⟨sub, List.mem_append_right _ taken⟩, ?_⟩)
    cases batch with
    | nil => exact absurd rfl some
    | cons turn rest =>
      refine ⟨turn.submission.slot, .inl ?_⟩
      have slots : s.planner.abort.1 = s.planner.inTurn ++ Planner.slotsOf s.planner.queue := rfl
      simp [Loop.inHand, slots, turns]
  | failNext slot rest f at_ =>
    rw [at_] at ill
    refine .of_ill rfl ((ill rfl).imp_right fun blames => ?_)
    obtain ⟨taken, k, held⟩ := blames
    refine ⟨taken, k, ?_⟩
    rw [at_] at held
    have pending : s.slots[slot]? = some .pending := by
      rw [ledger.pending, Stage.held, at_]
      simp [Loop.inHand]
    have assigned : (s.slots.modify slot (Slot.assign (.error f)))[slot]? = some (.assigned (.error f)) := by
      rw [List.getElem?_modify_eq, pending]
      rfl
    rcases held with mem | assigned'
    · rcases List.mem_cons.mp mem with rfl | mem
      · exact .inr assigned
      · exact .inl mem
    · exact .inr (modify_of_assigned assigned')
  | failed f at_ =>
    rw [at_] at ill
    refine .of_ill rfl ((ill rfl).imp_right fun blames => ?_)
    have slot := blames.slot
    rw [at_] at slot
    exact ⟨blames.taken, slot⟩
  | leave r at_ =>
    rw [at_] at well ill
    cases r with
    | ok u => exact .of_well rfl (well rfl)
    | error f =>
      refine .of_ill rfl ((ill rfl).imp_right fun blames => ?_)
      have slot := blames.slot
      rw [at_] at slot
      exact ⟨blames.taken, slot⟩

theorem Step.judged {s t : e.Stage} {x y : σ} (step : Step s x t y) (counted : Counted s)
    (ledger : Ledger s) (tended : Tended s) (judged : Judged s) : Judged t := by
  have grows := step.grows
  cases step with
  | loop step => exact step.judged counted ledger tended judged
  | flow step =>
    obtain ⟨loop, -, -, taken, -⟩ := step.frame
    refine ⟨?_, fun {f} failure => .inr ?_⟩
    · rw [loop, taken]
      exact judged.well
    · rw [loop] at failure
      rcases judged.ill failure with unscheduled | blames
      · exact absurd unscheduled step.scheduled.1
      · exact blames.of_frame grows (by rw [loop])
  | errand i there step =>
    obtain ⟨-, flow, loop, -⟩ := step.slots_frame
    refine ⟨?_, fun {f} failure => ?_⟩
    · rcases step.frame with rfl | ⟨o, agent, -, rfl, -⟩ <;> exact judged.well
    · simp only [loop] at failure
      refine (judged.ill failure).imp (fun unscheduled => flow.trans unscheduled) fun blames => ?_
      exact blames.of_frame grows (by simp only [loop])
  | perform i at_ there moves =>
    obtain ⟨well, -⟩ := judged
    rw [at_] at well
    exact .of_well rfl (well rfl)
  | linger i there moves =>
    refine ⟨judged.well, fun {f} failure => ?_⟩
    exact (judged.ill failure).imp_right fun blames => blames.of_frame grows rfl

theorem Reachable.judged {s : e.Stage} (reach : Reachable s) : Judged s := by
  induction reach with
  | opening =>
    refine .of_well rfl fun p mem => ?_
    cases mem
  | step reach step ih => exact step.judged reach.counted reach.ledger reach.tended ih

/-! ## The notice -/

/-- Whether the workflow has left its notice, or has found that nobody needs it. -/
def Flow.released : Flow → Bool
  | .releasing (.finished ()) _ | .finished _ => true
  | _ => false

/-- Whether the loop does not look into the queue any more. -/
def Loop.through : e.Loop → Bool
  | .failing .. | .leaving _ | .ended _ | .refused => true
  | _ => false

/-- The loop learns of the end of the workflow from the notice alone. -/
structure Notified (s : e.Stage) : Prop where
  noticed : .complete ∈ s.planner.queue ∨ .complete ∈ s.dropped → s.flow.released = true
  told : s.loop.outcome? = some (.ok ()) → .complete ∈ s.dropped
  left : s.flow.released = true → .complete ∈ s.planner.queue ∨ s.loop.through = true
  gone : s.live = false → s.loop.through = true

theorem LoopStep.notified {s t : e.Stage} (step : LoopStep s t) (tended : Tended s)
    (notified : Notified s) : Notified t := by
  obtain ⟨noticed, told, left, gone⟩ := notified
  -- whoever empties the queue leaves only the notices that were dropped before
  have emptied (mem : Notice.complete ∈ ([] : List (Notice β)) ∨ Notice.complete ∈ s.dropped) :
      s.flow.released = true := noticed (.inr (mem.resolve_left List.not_mem_nil))
  cases step with
  | name id at_ | acknowledge n at_ | assign slot n at_ | finish batch outcomes at_ _ _ =>
    rw [at_] at left gone
    refine ⟨noticed, ?_, left, gone⟩
    intro told
    cases told
  | schedule start at_ _ _ =>
    rw [at_] at gone
    refine ⟨fun mem => ?_, ?_, ?_, gone⟩
    · have released := noticed mem
      rw [tended.early (.inr at_)] at released
      cases released
    · intro told
      cases told
    · intro released
      cases released
  | count n at_ =>
    rw [at_] at left gone
    have still {l : e.Loop} (is : l = .acknowledging n ∨ l = .looking) :
        Notified { s with planner := s.planner.countDown, loop := l } := by
      refine ⟨noticed, ?_, ?_, ?_⟩
      · intro told
        rcases is with rfl | rfl <;> cases told
      · rcases is with rfl | rfl <;> exact left
      · rcases is with rfl | rfl <;> exact gone
    by_cases waits : s.planner.countDown.isWaiting = true
    · rw [if_pos waits]
      exact still (.inl rfl)
    · rw [if_neg waits]
      exact still (.inr rfl)
  | call batch p at_ drained runs =>
    rw [at_] at left gone
    obtain ⟨-, turns, rfl⟩ := Planner.drain_call drained
    refine ⟨emptied, ?_, fun released => ?_, gone⟩
    · intro told
      cases told
    · rcases left released with there | through
      · exact absurd there (Planner.complete_notMem_of_turns? turns)
      · cases through
  | refuse batch p at_ drained refuses =>
    obtain ⟨-, -, rfl⟩ := Planner.drain_call drained
    refine ⟨emptied, ?_, fun _ => .inr rfl, fun _ => rfl⟩
    intro told
    cases told
  | stop p at_ drained =>
    obtain ⟨there, rfl⟩ := Planner.drain_done drained
    refine ⟨fun _ => noticed (.inl there), fun _ => List.mem_append_right _ there, fun _ => .inr rfl,
      fun _ => rfl⟩
  | giveUp batch outcomes f at_ _ _ =>
    refine ⟨emptied, ?_, fun _ => .inr rfl, fun _ => rfl⟩
    intro told
    cases told
  | invalid f at_ _ | unscheduled f at_ _ | failNext slot rest f at_ | failed f at_ =>
    refine ⟨noticed, ?_, fun _ => .inr rfl, fun _ => rfl⟩
    intro told
    cases told
  | leave r at_ =>
    rw [at_] at told
    exact ⟨noticed, told, fun _ => .inr rfl, fun _ => rfl⟩

theorem FlowStep.notified {x : σ} {s t : e.Stage} (step : FlowStep x s t) (notified : Notified s) :
    Notified t := by
  obtain ⟨noticed, told, left, gone⟩ := notified
  cases step with
  | release v at_ =>
    exact ⟨fun _ => rfl, told, fun _ => .inl (List.mem_append_right _ List.mem_cons_self), gone⟩
  | missLoop v at_ dead => exact ⟨fun _ => rfl, told, fun _ => .inr (gone dead), gone⟩
  | close v at_ =>
    rw [at_] at left
    exact ⟨fun _ => rfl, told, left, gone⟩
  | iteration n next at_ | skip i next at_ | order o next at_ | orderAll os next at_
  | report i missing o r next at_ _ | fail i missing o f next at_ _ | resume next at_ | askExit o next at_
  | askCondition o next at_ | find q next at_ _ | miss q next known at_ _ | evaluate q next at_
  | branch q b next at_ | refuse q f next at_ | finish at_ | findLoop v at_ _ =>
    rw [at_] at noticed
    refine ⟨noticed, told, ?_, gone⟩
    intro released
    cases released

theorem Step.notified {s t : e.Stage} {x y : σ} (step : Step s x t y) (tended : Tended s)
    (notified : Notified s) : Notified t := by
  cases step with
  | loop step => exact step.notified tended notified
  | flow step => exact step.notified notified
  | errand i there step =>
    obtain ⟨noticed, told, left, gone⟩ := notified
    rcases step.frame with rfl | ⟨o, agent, -, rfl, -⟩
    · exact ⟨noticed, told, left, gone⟩
    · refine ⟨fun mem => noticed (mem.imp_left fun there => ?_), told, fun released => ?_, gone⟩
      · simpa [Stage.submit, Planner.submit, Planner.put] using there
      · exact (left released).imp_left (List.mem_append_left _)
  | perform i at_ there moves =>
    obtain ⟨noticed, told, left, gone⟩ := notified
    rw [at_] at left gone
    refine ⟨noticed, ?_, left, gone⟩
    intro told
    cases told
  | linger i there moves => exact ⟨notified.noticed, notified.told, notified.left, notified.gone⟩

theorem Reachable.notified {s : e.Stage} (reach : Reachable s) : Notified s := by
  induction reach with
  | opening =>
    constructor
    · intro no
      rcases no with no | no <;> cases no
    · intro no
      cases no
    · intro no
      cases no
    · intro no
      cases no
  | step reach step ih => exact step.notified reach.tended ih

end Ensemble
end Rendezvous
