import Rendezvous.Proofs.Interleaving.Errands

/-!
# What a turn leaves behind

A slot is assigned a success only after the turn behind it has ended well, and a step reports a success
only for such a slot (`Recorded`).  So whatever the workflow takes for done has been done: as long as it
has not failed, each order has been served, or its step is still under way (`Accounted`).
-/

namespace Rendezvous

set_option autoImplicit false

namespace Ensemble

variable {β σ : Type} {e : Ensemble β σ}

/-! ## Turns that have ended well -/

/-- The turn behind a slot has ended well. -/
def Stage.Done (s : e.Stage) (k : Nat) : Prop :=
  ∃ sub v, s.submitted[k]? = some sub ∧ (sub, .ok v) ∈ s.taken

/-- The agent of an order has had a turn in the run of the order, which has ended well. -/
def Stage.Served (s : e.Stage) (o : StepOrder) : Prop :=
  ∃ sub v, (sub, .ok v) ∈ s.taken ∧ sub.run = some o.runId ∧ e.Seats o.agentIndex sub.agent

/-- The submission in a slot is that of an order. -/
def Stage.Submitted (s : e.Stage) (k : Nat) (o : StepOrder) : Prop :=
  ∃ sub, s.submitted[k]? = some sub ∧ sub.run = some o.runId ∧ e.Seats o.agentIndex sub.agent

theorem Grows.done {s t : e.Stage} (grows : Grows s t) {k : Nat} (done : s.Done k) : t.Done k := by
  obtain ⟨sub, v, there, taken⟩ := done
  exact ⟨sub, v, grows.submitted there, grows.taken taken⟩

theorem Grows.served {s t : e.Stage} (grows : Grows s t) {o : StepOrder} (served : s.Served o) :
    t.Served o := by
  obtain ⟨sub, v, taken, run⟩ := served
  exact ⟨sub, v, grows.taken taken, run⟩

theorem Grows.submission {s t : e.Stage} (grows : Grows s t) {k : Nat} {o : StepOrder}
    (submitted : s.Submitted k o) : t.Submitted k o := by
  obtain ⟨sub, there, run⟩ := submitted
  exact ⟨sub, grows.submitted there, run⟩

/-- Whoever has been submitted for an order and done is served. -/
theorem Stage.Done.served {s : e.Stage} {k : Nat} {o : StepOrder} (done : s.Done k)
    (submitted : s.Submitted k o) : s.Served o := by
  obtain ⟨sub, v, there, taken⟩ := done
  obtain ⟨other, same, run, seats⟩ := submitted
  obtain rfl : sub = other := Option.some.inj (there.symm.trans same)
  exact ⟨sub, v, taken, run, seats⟩

/-! ## The record -/

/-- The submissions whose turn it is. -/
def Loop.batch : e.Loop → List (Submission β)
  | .running batch => batch.map (·.submission)
  | _ => []

/-- The slots of turns that have ended well and that are to be assigned. -/
def Loop.due (p : Planner β) : e.Loop → List Nat
  | .counting _ | .acknowledging _ => p.inTurn
  | .assigning slot _ => slot.toList ++ p.inTurn
  | _ => []

/-- What a step activity knows is so. -/
def Errand.Sound (s : e.Stage) : Errand β → Prop
  | .ordered _ => True
  | .found o agent | .begun o agent => e.Seats o.agentIndex agent
  | .waiting step | .ending step _ => s.Submitted step.slot step.order
  | .finished o (.ok _) => s.Served o
  | .finished _ (.error _) => True

/-- Nobody claims more than has been done. -/
structure Recorded (s : e.Stage) : Prop where
  slots : s.submitted.length = s.slots.length
  queued : ∀ {sub : Submission β}, .turn sub ∈ s.planner.queue → s.submitted[sub.slot]? = some sub
  batch : ∀ {sub : Submission β}, sub ∈ s.loop.batch → s.submitted[sub.slot]? = some sub
  due : ∀ {k : Nat}, k ∈ s.loop.due s.planner → s.Done k
  assigned : ∀ {k : Nat}, s.slots[k]? = some (.assigned (.ok ())) → s.Done k
  sound : ∀ {a : Errand β}, a ∈ s.errands → a.Sound s

/-- Whoever waits does so for a slot that there is. -/
theorem Recorded.inside {s : e.Stage} (recorded : Recorded s) {step : OpenStep} (waits : .waiting step ∈ s.errands) :
    step.slot < s.slots.length := by
  obtain ⟨sub, submitted, -⟩ := recorded.sound waits
  rw [← recorded.slots]
  exact (List.getElem?_eq_some_iff.mp submitted).1

theorem Grows.sound {s t : e.Stage} (grows : Grows s t) {a : Errand β} (sound : a.Sound s) :
    a.Sound t := by
  cases a with
  | ordered o => trivial
  | found o agent | begun o agent => exact sound
  | waiting step | ending step turn => exact grows.submission sound
  | finished o r =>
    cases r with
    | ok report => exact grows.served sound
    | error f => trivial

/-- What has come of a batch without failures is a success for each of its turns. -/
theorem done_of_outcomes {batch : List e.Turn} {outcomes : List (Result Value)}
    (all : outcomes? batch = some outcomes) (none : outcomes.findSome? Act.failure? = none)
    {t : e.Turn} (mem : t ∈ batch) :
    ∃ v, (t.submission, .ok v) ∈ (batch.map Turn.submission).zip outcomes := by
  induction batch generalizing outcomes with
  | nil => cases mem
  | cons first rest ih =>
    simp only [outcomes?, List.mapM_cons, Option.bind_eq_bind, Option.bind_eq_some_iff,
      Option.pure_def, Option.some.injEq] at all
    obtain ⟨r, found, others, more, rfl⟩ := all
    cases r with
    | error f => simp [Act.failure?] at none
    | ok v =>
      rw [List.findSome?_cons] at none
      rcases List.mem_cons.mp mem with rfl | mem
      · exact ⟨v, List.mem_cons_self⟩
      · obtain ⟨w, there⟩ := ih more none mem
        exact ⟨w, List.mem_cons_of_mem _ there⟩

theorem LoopStep.due {s t : e.Stage} (step : LoopStep s t) (counted : Counted s)
    (recorded : Recorded s) {k : Nat} (due : k ∈ t.loop.due t.planner) : t.Done k := by
  have tally := counted.tally
  have before (mem : k ∈ s.loop.due s.planner) : t.Done k := step.grows.done (recorded.due mem)
  cases step with
  | schedule start at_ _ _ =>
    rw [at_] at tally
    have none : k ∈ s.planner.inTurn := due
    rw [tally.1] at none
    cases none
  | count left at_ =>
    refine before ?_
    rw [at_]
    by_cases waits : s.planner.countDown.isWaiting = true
    · simp only [waits] at due
      exact due
    · simp only [waits] at due
      cases due
  | finish batch outcomes at_ all none =>
    rw [at_] at tally
    have mem : k ∈ s.planner.inTurn := due
    rw [tally.2.1] at mem
    obtain ⟨turn, among, rfl⟩ := List.mem_map.mp mem
    obtain ⟨v, taken⟩ := done_of_outcomes all none among
    have turns : turn.submission ∈ s.loop.batch := by
      rw [at_]
      exact List.mem_map_of_mem among
    have there := recorded.batch turns
    exact ⟨turn.submission, v, there, List.mem_append_right _ taken⟩
  | acknowledge left at_ =>
    refine before ?_
    rw [at_]
    simp only [Loop.due, Planner.inTurn_acknowledge] at due
    exact due
  | assign slot left at_ =>
    refine before ?_
    rw [at_]
    exact List.mem_append_right _ due
  | _ => cases due

theorem LoopStep.assigned {s t : e.Stage} (step : LoopStep s t) (recorded : Recorded s) {k : Nat}
    (assigned : t.slots[k]? = some (.assigned (.ok ()))) : t.Done k := by
  have before (old : s.slots[k]? = some (.assigned (.ok ()))) : t.Done k :=
    step.grows.done (recorded.assigned old)
  cases step with
  | assign slot left at_ =>
    cases slot with
    | none => exact before assigned
    | some slot =>
      rcases assigned_of_modify assigned with old | ⟨rfl, -, -⟩
      · exact before old
      · refine recorded.due ?_
        rw [at_]
        exact List.mem_cons_self
  | failNext slot rest f at_ =>
    rcases assigned_of_modify assigned with old | ⟨-, -, failure⟩
    · exact before old
    · cases failure
  | _ => exact before assigned

theorem LoopStep.recorded {s t : e.Stage} (step : LoopStep s t) (counted : Counted s)
    (recorded : Recorded s) : Recorded t := by
  refine ⟨?_, ?_, ?_, step.due counted recorded, step.assigned recorded, ?_⟩
  · have slots := recorded.slots
    cases step with
    | assign slot left at_ => cases slot <;> simpa using slots
    | failNext slot rest f at_ => simpa using slots
    | _ => exact slots
  · intro sub mem
    refine step.grows.submitted (recorded.queued ?_)
    cases step with
    | call batch p at_ drained _ | refuse batch p at_ drained _ =>
      obtain ⟨-, -, rfl⟩ := Planner.drain_call drained
      cases mem
    | stop p at_ drained =>
      obtain ⟨-, rfl⟩ := Planner.drain_done drained
      cases mem
    | giveUp batch outcomes f at_ _ _ => cases mem
    | _ => exact mem
  · intro sub mem
    cases step with
    | call batch p at_ drained _ =>
      obtain ⟨-, turns, rfl⟩ := Planner.drain_call drained
      have back : (batch.map (Turn.of e)).map (·.submission) = batch := by
        rw [List.map_map]
        exact List.map_id'' (fun _ => rfl) _
      rw [Loop.batch, back] at mem
      exact recorded.queued ((Planner.mem_of_turns? turns).mp mem)
    | count left at_ =>
      simp only at mem
      split at mem <;> cases mem
    | _ => cases mem
  · intro a mem
    rw [step.slots_frame.1] at mem
    exact step.grows.sound (recorded.sound mem)

theorem FlowStep.recorded {x : σ} {s t : e.Stage} (step : FlowStep x s t) (recorded : Recorded s) :
    Recorded t := by
  obtain ⟨loop, slots, submitted, taken, -, -, -, planner⟩ := step.frame
  have grows : Grows s t := .of_eq slots submitted taken
  have inTurn : t.loop.due t.planner = s.loop.due s.planner := by
    rcases planner with same | complete
    · rw [loop, same]
    · rw [loop, complete]
      cases s.loop <;> rfl
  refine ⟨?_, ?_, ?_, ?_, ?_, ?_⟩
  · rw [submitted, slots]
    exact recorded.slots
  · intro sub mem
    rw [submitted]
    refine recorded.queued ?_
    rcases planner with same | complete
    · rwa [same] at mem
    · rw [complete] at mem
      simpa [Planner.complete, Planner.put] using mem
  · intro sub mem
    rw [submitted]
    rw [loop] at mem
    exact recorded.batch mem
  · intro k due
    rw [inTurn] at due
    exact grows.done (recorded.due due)
  · intro k assigned
    rw [slots] at assigned
    exact grows.done (recorded.assigned assigned)
  · intro a mem
    rcases step.errands_frame with ⟨os, same, -⟩ | ⟨i, o, r, -, same, -⟩
    · rw [same, List.mem_append] at mem
      rcases mem with mem | new
      · exact grows.sound (recorded.sound mem)
      · obtain ⟨o, -, rfl⟩ := List.mem_map.mp new
        trivial
    · rw [same] at mem
      exact grows.sound (recorded.sound (List.mem_of_mem_eraseIdx mem))

/-- An activity that goes on knows what it has seen. -/
theorem ErrandStep.sound {s t : e.Stage} {a b : Errand β} (step : ErrandStep s a t b)
    (made : Made e s.planner) (recorded : Recorded s) (awake : ∀ step' turn, a = .ending step' turn →
      s.slots[step'.slot]? = some (.assigned turn)) (sound : a.Sound s) : b.Sound t := by
  cases step with
  | find o agent live there => exact made.seats.mp there
  | begin o agent engine => exact sound
  | submit o agent =>
    refine ⟨s.submission o agent, ?_, rfl, sound⟩
    simp [Stage.submit, ← recorded.slots]
  | wake step' turn assigned => exact sound
  | finish step' turn engine =>
    cases turn with
    | ok u => exact (recorded.assigned (awake step' _ rfl)).served sound
    | error f => trivial
  | miss | noAgent | unstarted | unfinished => trivial

theorem ErrandStep.recorded {s t : e.Stage} {before after : Errand β} {i : Nat}
    (there : s.errands[i]? = some before) (step : ErrandStep s before t after) (made : Made e s.planner)
    (tended : Tended s) (recorded : Recorded s) : Recorded { t with errands := t.errands.set i after } := by
  have mem := List.mem_of_getElem? there
  have sound : after.Sound t := by
    refine step.sound made recorded ?_ (recorded.sound mem)
    rintro step' turn rfl
    exact tended.awake mem
  have grows : Grows t { t with errands := t.errands.set i after } := .of_eq rfl rfl rfl
  refine ⟨?_, ?_, ?_, ?_, ?_, ?_⟩
  · have slots := recorded.slots
    rcases step.frame with rfl | ⟨o, agent, -, rfl, -⟩
    · exact slots
    · simpa [Stage.submit] using slots
  · intro sub queued
    rcases step.frame with rfl | ⟨o, agent, -, rfl, -⟩
    · exact recorded.queued queued
    · rcases List.mem_append.mp queued with old | new
      · exact step.grows.submitted (recorded.queued old)
      · cases List.mem_singleton.mp new
        simp [Stage.submit, Stage.submission, ← recorded.slots]
  · intro sub turn
    have old : sub ∈ s.loop.batch := by rwa [← step.slots_frame.2.2.1]
    exact step.grows.submitted (recorded.batch old)
  · intro k due
    refine step.grows.done (recorded.due ?_)
    rcases step.frame with rfl | ⟨o, agent, -, rfl, -⟩ <;> exact due
  · intro k assigned
    rcases step.slots_frame.2.2.2 assigned with old | ⟨pending, -⟩
    · exact step.grows.done (recorded.assigned old)
    · cases pending
  · intro a among
    simp only [step.slots_frame.1] at among
    rcases List.mem_or_eq_of_mem_set among with old | rfl
    · exact grows.sound (step.grows.sound (recorded.sound old))
    · exact grows.sound sound

theorem Step.recorded {s t : e.Stage} {x y : σ} (step : Step s x t y) (counted : Counted s)
    (made : Made e s.planner) (tended : Tended s) (recorded : Recorded s) : Recorded t := by
  cases step with
  | loop step => exact step.recorded counted recorded
  | flow step => exact step.recorded recorded
  | errand i there step => exact step.recorded there made tended recorded
  | perform i at_ there moves =>
    obtain ⟨slots, queued, batch, due, assigned, sound⟩ := recorded
    refine ⟨slots, queued, ?_, ?_, assigned, sound⟩
    · intro sub mem
      refine batch ?_
      rw [at_]
      rwa [Loop.batch, map_submission_set there] at mem
    · rw [at_] at due
      exact due
  | linger i there moves =>
    obtain ⟨slots, queued, batch, due, assigned, sound⟩ := recorded
    exact ⟨slots, queued, batch, due, assigned, sound⟩

theorem Reachable.recorded {s : e.Stage} (reach : Reachable s) : Recorded s := by
  induction reach with
  | opening =>
    refine ⟨rfl, ?_, ?_, ?_, ?_, ?_⟩
    · intro sub mem
      cases mem
    · intro sub mem
      cases mem
    · intro k mem
      cases mem
    · intro k assigned
      cases assigned
    · intro a mem
      cases mem
  | step reach step ih => exact step.recorded reach.counted reach.made reach.tended ih

end Ensemble
end Rendezvous
