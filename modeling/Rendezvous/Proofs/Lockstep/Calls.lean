import Mathlib.Logic.Relation
import Rendezvous.Proofs.Lockstep.Batches

/-!
# The calls on the hub

A world shows a desk if the planner, the slots and the thread of the loop are there as on the desk (`Desk.Shows`).  What
activities do to the planner, and what the loop does with it, shows the steps of the desk: a call of the loop is a run of
moves, up to its answer or up to where it has to wait for the queue (`Desk.Comes`).
-/

namespace Rendezvous

set_option autoImplicit false

open Relation

namespace Desk

variable {κ α β ω γ δ : Type} {n : Nat} {d d' d'' : Desk β}

/-- The planner with a number is that of a desk, and so are the slots of turns; the thread is that of the loop. -/
structure Shows (n : Nat) (w : World κ α β ω) (d : Desk β) : Prop where
  planner : w.hub.planners[n]? = some d.planner
  slots : w.hub.turns = d.slots
  run : w.context.run = d.run

/-- Wherever a desk is shown, an action has a result and leaves another desk shown. -/
def Plays (n : Nat) (d : Desk β) (x : Act κ α β ω γ) (r : Result γ) (d' : Desk β) : Prop :=
  ∀ w, Shows n w d → (x w).1 = r ∧ Shows n (x w).2 d'

namespace Plays

variable {x : Act κ α β ω γ} {a : γ} {r : Result γ}

theorem ofResult (r : Result γ) : Plays n d (Act.ofResult r : Act κ α β ω γ) r d := fun _ shows => ⟨rfl, shows⟩

theorem pure (a : γ) : Plays n d (Pure.pure a : Act κ α β ω γ) (.ok a) d := ofResult (.ok a)

theorem bind {f : γ → Act κ α β ω δ} {s : Result δ} (first : Plays n d x (.ok a) d')
    (rest : Plays n d' (f a) s d'') : Plays n d (x >>= f) s d'' := by
  intro w shows
  obtain ⟨result, after⟩ := first w shows
  have both : x w = (.ok a, (x w).2) := Prod.ext result rfl
  rw [Act.bind_apply_of_ok both]
  exact rest _ after

/-- What a desk shows nothing of does not matter. -/
theorem ends (plays : Plays n d x r d') (planner : d''.planner = d'.planner) (slots : d''.slots = d'.slots)
    (run : d''.run = d'.run) : Plays n d x r d'' := by
  intro w shows
  obtain ⟨result, after⟩ := plays w shows
  exact ⟨result, planner ▸ after.planner, after.slots.trans slots.symm, after.run.trans run.symm⟩

theorem planner : Plays n d (Act.planner n : Act κ α β ω (Planner β)) (.ok d.planner) d := by
  intro w shows
  refine ⟨congrArg Except.ok ?_, shows⟩
  show w.hub.planner n = d.planner
  rw [Hub.planner, List.getD_eq_getElem?_getD, shows.planner]
  rfl

theorem setPlanner (p : Planner β) :
    Plays n d (Act.setPlanner n p : Act κ α β ω Unit) (.ok ()) { d with planner := p } := by
  intro w shows
  refine ⟨rfl, ?_, shows.slots, shows.run⟩
  have inside : n < w.hub.planners.length := (List.getElem?_eq_some_iff.mp shows.planner).1
  show (w.hub.planners.set n p)[n]? = some p
  rw [List.getElem?_set_self inside]

theorem setRun (run : Option String) :
    Plays n d (Act.setRun run : Act κ α β ω Unit) (.ok ()) { d with run } :=
  fun _ shows => ⟨rfl, shows.planner, shows.slots, rfl⟩

theorem leavePlanner : Plays n d (Act.leavePlanner n : Act κ α β ω Unit) (.ok ()) { d with run := none } := by
  refine bind (setRun none) (bind planner ?_)
  exact fun _ shows => ⟨rfl, shows.planner, shows.slots, shows.run⟩

theorem assignTurns (slots : List Nat) (r : Result Unit) :
    Plays n d (Act.changeHub fun h => slots.foldl (Hub.assignTurn r) h : Act κ α β ω Unit) (.ok ())
      { d with slots := slots.foldl (fun slots k => slots.modify k (Slot.assign r)) d.slots } := by
  intro w shows
  have frame (h : Hub κ α β) : (slots.foldl (Hub.assignTurn r) h).planners = h.planners ∧
      (slots.foldl (Hub.assignTurn r) h).turns = slots.foldl (fun slots k => slots.modify k (Slot.assign r)) h.turns := by
    induction slots generalizing h with
    | nil => exact ⟨rfl, rfl⟩
    | cons k rest ih => exact ih (h.assignTurn r k)
  obtain ⟨planners, turns⟩ := frame w.hub
  exact ⟨rfl, planners ▸ shows.planner, turns.trans (by rw [shows.slots]), shows.run⟩

end Plays

/-! ## The side of the activities -/

theorem submit_plays (agent : β) (run : Option String) :
    Plays n d (Act.submit n agent run : Act κ α β ω Nat) (.ok d.slots.length) (d.submit agent run) := by
  intro w shows
  have added : Shows n { w with hub := { w.hub with turns := w.hub.turns ++ [.pending] } }
      { d with slots := d.slots ++ [.pending] } :=
    ⟨shows.planner, congrArg (· ++ _) shows.slots, shows.run⟩
  obtain ⟨read, -⟩ := Plays.planner _ added
  obtain ⟨-, set⟩ := Plays.setPlanner (d.planner.submit { agent, slot := d.slots.length, run }) _ added
  have known : w.hub.planner n = d.planner := Except.ok.inj read
  refine ⟨congrArg (fun slots : List (Slot Unit) => Except.ok slots.length) shows.slots, ?_⟩
  rw [← known, ← shows.slots] at set
  refine ⟨set.planner.trans ?_, set.slots.trans ?_, set.run⟩
  · rw [submit, ← known, ← shows.slots]
  · rw [submit, ← shows.slots]

theorem complete_shows {w : World κ α β ω} {id : String} (shows : Shows n w d)
    (live : Entries.get? id w.hub.livePlanners = some n) :
    Shows n (Act.completePlanner id w).2 { d with planner := d.planner.complete } := by
  have unfolds : Act.completePlanner id w =
      (Act.planner n >>= fun p => Act.setPlanner n p.complete : Act κ α β ω Unit) w := by
    rw [Act.completePlanner, Act.bind_apply_of_ok (show (Act.hub : Act κ α β ω _) w = (.ok w.hub, w) from rfl), live]
  rw [unfolds]
  exact (Plays.planner.bind (f := fun p => Act.setPlanner n p.complete) (Plays.setPlanner _) w shows).2

/-! ## The side of the loop -/

/-- What a call of the loop comes to: it waits for the queue, or it answers. -/
inductive Comes (d : Desk β) : Option (LoopAction β) → Desk β → Prop
  | waits {d' : Desk β} (assigned : List Nat) (moves : ReflTransGen Move d d') (at_ : d'.place = .taking assigned [])
      (empty : d'.planner.queue = []) (same : d'.answers = d.answers) : Comes d none d'
  | answers {d' : Desk β} (a : Answer β) (moves : ReflTransGen Move d d') (came : d'.answers = d.answers ++ [a]) :
      Comes d (some a.action) d'

theorem Comes.after {r : Option (LoopAction β)} (moves : ReflTransGen Move d d') (same : d'.answers = d.answers)
    (comes : Comes d' r d'') : Comes d r d'' := by
  cases comes with
  | waits assigned rest at_ empty same' => exact .waits assigned (moves.trans rest) at_ empty (same'.trans same)
  | answers a rest came => exact .answers a (moves.trans rest) (came.trans (by rw [same]))

/-- What is in the queue is taken, one after the other. -/
theorem takes {assigned : List Nat} {taken : List (Notice β)} (at_ : d.place = .taking assigned taken) :
    ReflTransGen Move d { d with
      planner := { d.planner with queue := [] }, place := .taking assigned (taken ++ d.planner.queue) } := by
  generalize notices : d.planner.queue = queue
  induction queue generalizing d taken with
  | nil =>
    have same : { d with planner := { d.planner with queue := [] }, place := .taking assigned (taken ++ []) } = d := by
      rw [List.append_nil, ← at_, ← notices]
    rw [same]
  | cons m rest ih =>
    have rest_taken := ih (d := { d with
      planner := { d.planner with queue := rest }, place := .taking assigned (taken ++ [m]) }) rfl rfl
    rw [List.append_assoc] at rest_taken
    exact .head (.take d assigned taken rest m at_ notices) rest_taken

/-- What the loop does to its thread when it has an action. -/
theorem settles (action : LoopAction β) : Plays n d (do
      if action.isDone then Act.leavePlanner n
      match Planner.boundRun action with
      | some run => Act.setRun (some run)
      | none => Pure.pure ()
      return some action : Act κ α β ω (Option (LoopAction β)))
    (.ok (some action)) { d with run := runAfter d.run action } := by
  unfold runAfter
  cases action with
  | noOp => exact .pure (some LoopAction.noOp)
  | done => exact Plays.leavePlanner.bind (.pure (some LoopAction.done))
  | call batch =>
    cases Planner.boundRun (.call batch) with
    | none => exact .pure (some (LoopAction.call batch))
    | some id => exact (Plays.setRun (some id)).bind (.pure (some (LoopAction.call batch)))

/-- Whoever looks into the queue takes all there is at once, or goes on waiting. -/
theorem look_comes {assigned : List Nat} (at_ : d.place = .taking assigned []) :
    ∃ r d', Comes d r d' ∧ Plays n d (Act.look n : Act κ α β ω (Option (LoopAction β))) (.ok r) d' := by
  unfold Act.look
  cases drained : d.planner.drain with
  | none =>
    have empty := (Planner.drain_eq_none_iff _).mp drained
    refine ⟨none, d, .waits assigned .refl at_ empty rfl, Plays.planner.bind ?_⟩
    rw [drained]
    exact .pure none
  | some next =>
    obtain ⟨action, p⟩ := next
    refine ⟨some action, _, .answers { assigned, looked := true, action, run := runAfter d.run action }
      ((takes at_).tail (.conclude _ assigned _ action p rfl rfl drained)) rfl, Plays.planner.bind ?_⟩
    rw [drained]
    exact (Plays.setPlanner p).bind ((settles action).ends rfl rfl rfl)

theorem turn_comes {assigned : List Nat} (at_ : d.place = .counting assigned) :
    ∃ r d', Comes d r d' ∧ Plays n d (Act.turn n : Act κ α β ω (Option (LoopAction β))) (.ok r) d' := by
  unfold Act.turn
  cases waiting : d.planner.countDown.isWaiting with
  | true =>
    refine ⟨some .noOp, _, .answers _ (.single (.wait d assigned at_ waiting)) rfl, Plays.planner.bind ?_⟩
    refine (Plays.setPlanner _).bind ?_
    rw [waiting]
    exact (Plays.pure (some LoopAction.noOp)).ends rfl rfl rfl
  | false =>
    obtain ⟨r, d', comes, plays⟩ := look_comes (κ := κ) (α := α) (ω := ω) (n := n)
      (d := { d with planner := d.planner.countDown, place := .taking assigned [] }) rfl
    refine ⟨r, d', comes.after (.single (.look d assigned at_ waiting)) rfl, Plays.planner.bind ?_⟩
    refine (Plays.setPlanner _).bind ?_
    rw [waiting]
    exact fun w shows => plays w ⟨shows.planner, shows.slots, shows.run⟩

/-- An acknowledgement is a run of moves from between two calls. -/
theorem nextAction_comes (at_ : d.place = .idle) :
    ∃ r d', Comes d r d' ∧ Plays n d (Act.nextAction n : Act κ α β ω (Option (LoopAction β))) (.ok r) d' := by
  let assigning : Desk β := { d with
    planner := d.planner.acknowledge.2, run := none, place := .assigning d.planner.acknowledge.1 }
  let counting : Desk β := { assigning with
    slots := d.planner.acknowledge.1.toList.foldl (fun slots k => slots.modify k (Slot.assign (.ok ()))) d.slots
    place := .counting d.planner.acknowledge.1.toList }
  have moves : ReflTransGen Move d counting := .tail (.single (.acknowledge d at_)) (.assign assigning _ rfl)
  obtain ⟨r, d', comes, plays⟩ := turn_comes (κ := κ) (α := α) (ω := ω) (n := n) (d := counting) rfl
  refine ⟨r, d', comes.after moves rfl, (Plays.setRun none).bind (Plays.planner.bind ?_)⟩
  refine (Plays.setPlanner d.planner.acknowledge.2).bind ?_
  refine (Plays.assignTurns d.planner.acknowledge.1.toList (.ok ())).bind ?_
  exact fun w shows => plays w ⟨shows.planner, shows.slots, shows.run⟩

/-- The first call is a run of moves too, or the orchestration cannot be started. -/
theorem firstAction_comes {w : World κ α β ω} (shows : Shows n w d) (at_ : d.place = .before) :
    ∃ d', Shows n (Act.firstAction n w).2 d' ∧
      ((∃ r, (Act.firstAction n w).1 = .ok r ∧ Comes d r d') ∨ (∃ f, (Act.firstAction n w).1 = .error f) ∧ Move d d') := by
  let starting : Act κ α β ω Unit := do
    let start ← Act.ofResult d.planner.start
    Act.startWorkflow (Names.orchestrationWorkflow d.planner.plan.topology) start.toValue d.planner.plan.id
  have unfolds : Act.firstAction n w = match starting w with
      | (.ok (), w) => Act.turn n w
      | (.error f, w) => (Act.leavePlanner n >>= fun _ => throw f : Act κ α β ω (Option (LoopAction β))) w := by
    obtain ⟨read, -⟩ := Plays.planner w shows
    have known : Act.planner n w = (.ok d.planner, w) := Prod.ext read rfl
    refine (Act.bind_apply_of_ok known _).trans ?_
    refine (Act.attempt_bind_apply starting _ w).trans ?_
    rcases starting w with ⟨f | ⟨⟩, w'⟩
    · rfl
    · rfl
  have started : Shows n (starting w).2 d := by
    show Shows n ((Act.ofResult d.planner.start >>= fun start => Act.startWorkflow _ start.toValue _) w).2 d
    cases d.planner.start with
    | error f => exact shows
    | ok start =>
      show Shows n ((Act.ofResult (w.hub.engine.start _ _ _) >>= _) w).2 d
      cases w.hub.engine.start _ _ _ with
      | error f => exact shows
      | ok engine => exact ⟨shows.planner, shows.slots, shows.run⟩
  rw [unfolds]
  revert started
  rcases starting w with ⟨f | ⟨⟩, w'⟩ <;> intro started
  · obtain ⟨-, left⟩ := Plays.leavePlanner w' started
    exact ⟨{ d with run := none, place := .ended }, ⟨left.planner, left.slots, left.run⟩, .inr ⟨⟨f, rfl⟩, .refuse d at_⟩⟩
  · obtain ⟨r, d', comes, plays⟩ := turn_comes (κ := κ) (α := α) (ω := ω) (n := n)
      (d := { d with place := .counting [] }) rfl
    obtain ⟨result, after⟩ := plays w' ⟨started.planner, started.slots, started.run⟩
    exact ⟨d', after, .inl ⟨r, result, comes.after (.single (.start d at_)) rfl⟩⟩

/-- Whoever gives up fails all slots that the planner knows of, and belongs to no run any more. -/
theorem abort_plays (f : Failure) : Plays n d (Act.abort n f : Act κ α β ω Unit) (.ok ()) { d with
    planner := d.planner.abort.2
    slots := d.planner.abort.1.foldl (fun slots k => slots.modify k (Slot.assign (.error f))) d.slots
    run := none } :=
  Plays.planner.bind ((Plays.setPlanner d.planner.abort.2).bind
    ((Plays.assignTurns d.planner.abort.1 (.error f)).bind Plays.leavePlanner))

end Desk
end Rendezvous
