import Mathlib.Logic.Relation
import Rendezvous.Proofs.Abandonment.Admission

/-!
# After an agent has failed

The loop lets all agents of a batch come to their ends before it looks at what has come of them.  If some of them have
failed, it gives up with the failure that comes first in the batch: every slot of the batch and of whatever is in the queue
at this moment is to fail with it.  From there on the loop assigns these slots one after the other, leaves its planner, and
ends, and nobody can keep it from doing so (`Aftermath.ends`); what others put into the queue meanwhile stays there
(`Aftermath`).
-/

namespace Rendezvous

set_option autoImplicit false

open Relation

namespace Ensemble

variable {β σ : Type} {e : Ensemble β σ}

/-- The first of the turns that have failed has failed with this. -/
def FirstFailure (batch : List e.Turn) (f : Failure) : Prop :=
  ∃ (i : Nat) (t : e.Turn), batch[i]? = some t ∧ t.result? = some (.error f) ∧
    ∀ (j : Nat) (u : e.Turn), j < i → batch[j]? = some u → ∃ v, u.result? = some (.ok v)

/-- What has come of a batch fails with the failure that comes first. -/
theorem FirstFailure.findSome? {batch : List e.Turn} {f : Failure} (fails : FirstFailure batch f)
    {outcomes : List (Result Value)} (all : outcomes? batch = some outcomes) :
    outcomes.findSome? Act.failure? = some f := by
  rw [outcomes?_eq_some_iff] at all
  obtain ⟨i, t, there, failed, before⟩ := fails
  induction batch generalizing i outcomes with
  | nil => cases there
  | cons first rest ih =>
    cases outcomes with
    | nil => cases all
    | cons r others =>
      obtain ⟨head, tail⟩ := List.cons.inj all
      cases i with
      | zero =>
        obtain rfl : first = t := Option.some.inj there
        obtain rfl : r = .error f := Option.some.inj (head.symm.trans failed)
        rfl
      | succ i =>
        obtain ⟨v, well⟩ := before 0 first (Nat.succ_pos i) rfl
        obtain rfl : r = .ok v := Option.some.inj (head.symm.trans well)
        show others.findSome? Act.failure? = some f
        exact ih tail i there fun j u earlier at_ => before (j + 1) u (Nat.succ_lt_succ earlier) at_

/-- If some of the turns have failed, and the others are over, one of them comes first. -/
theorem exists_firstFailure {batch : List e.Turn} (past : ∀ w ∈ batch, ∃ r, w.result? = some r)
    (failed : ∃ w ∈ batch, ∃ f, w.result? = some (.error f)) : ∃ f, FirstFailure batch f := by
  induction batch with
  | nil =>
    obtain ⟨w, mem, -⟩ := failed
    cases mem
  | cons first rest ih =>
    obtain ⟨r, result⟩ := past first List.mem_cons_self
    cases r with
    | error f => exact ⟨f, 0, first, rfl, result, fun j u earlier => absurd earlier (Nat.not_lt_zero j)⟩
    | ok v =>
      have later : ∃ w ∈ rest, ∃ f, w.result? = some (.error f) := by
        obtain ⟨w, mem, f, failure⟩ := failed
        rcases List.mem_cons.mp mem with rfl | mem
        · cases result.symm.trans failure
        · exact ⟨w, mem, f, failure⟩
      obtain ⟨f, i, t, there, failure, before⟩ := ih (fun w mem => past w (List.mem_cons_of_mem _ mem)) later
      refine ⟨f, i + 1, t, there, failure, fun j u earlier at_ => ?_⟩
      cases j with
      | zero =>
        obtain rfl : first = u := Option.some.inj at_
        exact ⟨v, result⟩
      | succ j => exact before j u (Nat.lt_of_succ_lt_succ earlier) at_

namespace Loop

/-- Whether a batch runs. -/
def isRunning : e.Loop → Bool
  | .running _ => true
  | _ => false

/-- The loop has given up. -/
def GaveUp (f : Failure) : e.Loop → Prop
  | .failing _ g => g = f
  | .leaving r | .ended r => r = .error f
  | _ => False

theorem turns_of_gaveUp {f : Failure} {l : e.Loop} (gaveUp : l.GaveUp f) : l.turns = [] := by
  cases l with
  | failing slots g | leaving r | ended r => rfl
  | _ => cases gaveUp

end Loop

namespace Site

variable {s t u v : e.Site} {x y z : σ} {batch : List e.Turn} {f : Failure} {ns : List (Notice β)}

/-! ## The loop and everybody else -/

theorem quiet_of_idle (idle : s.stage.loop.isRunning = false) : s.Quiet := by
  intro batch running
  rw [running] at idle
  cases idle

/-- A step of the loop. -/
inductive LoopMove : e.Site → e.Site → Prop
  | mk {s : e.Site} {t : e.Stage} (quiet : s.Quiet) (step : LoopStep s.stage t) :
      LoopMove s { stage := t, run := rebound s.run s.stage.loop t.loop }

theorem LoopMove.open (move : LoopMove s t) (x : σ) : Open s x t x := by
  cases move with
  | mk quiet step => exact .thread (.loop quiet step)

theorem LoopMove.steady (move : LoopMove s t) (steady : Steady s) : Steady t := by
  cases move with
  | mk quiet step =>
    exact ⟨step.counted steady.counted, step.ledger steady.counted steady.ledger,
      step.acknowledged steady.counted steady.ledger steady.acknowledged, bound_of_loopStep step⟩

/-- Somebody has done something, and to the planner has at most put something into its queue. -/
structure Bystands (s t : e.Site) : Prop where
  loop : t.stage.loop = s.stage.loop
  planner : t.stage.planner = s.stage.planner ∨ ∃ n, t.stage.planner = s.stage.planner.put n
  retired : t.stage.retired.map (·.submission) = s.stage.retired.map (·.submission)
  live : t.stage.live = s.stage.live
  grows : Grows s.stage t.stage

/-- A step is one of the loop, one of a turn of the batch, or one that leaves the loop alone. -/
theorem Open.cases (step : Open s x t y) :
    LoopMove s t ∨ (s.stage.loop.isRunning = true ∧ t.stage.loop.isRunning = true) ∨ Bystands s t := by
  cases step with
  | thread step =>
    cases step with
    | loop quiet step => exact .inl (.mk quiet step)
    | flow step =>
      obtain ⟨loop, slots, submitted, taken, -, retired, live, planner⟩ := step.frame
      exact .inr (.inr ⟨loop, planner.imp_right fun same => ⟨_, same⟩, by rw [retired], live,
        .of_eq slots submitted taken⟩)
    | errand i there moves =>
      refine .inr (.inr ?_)
      have grows := moves.grows
      rcases moves.frame with rfl | ⟨o, agent, -, rfl, -⟩
      · exact ⟨rfl, .inl rfl, rfl, rfl, .of_eq rfl rfl rfl⟩
      · exact ⟨rfl, .inr ⟨_, rfl⟩, rfl, rfl, ⟨grows.assigned, grows.submitted, grows.taken⟩⟩
    | perform j at_ there hosts moves => exact .inr (.inl ⟨by rw [at_]; rfl, rfl⟩)
    | linger i there moves =>
      exact .inr (.inr ⟨rfl, .inl rfl, map_submission_set there _, rfl, .of_eq rfl rfl rfl⟩)
    | hire at_ several room | takeUp i at_ several hand free there | putDown i at_ hand job there past =>
      exact .inr (.inr ⟨rfl, .inl rfl, rfl, rfl, .of_eq rfl rfl rfl⟩)
  | enrol agent run =>
    refine .inr (.inr ⟨rfl, .inr ⟨_, rfl⟩, rfl, rfl, fun before => ?_, fun before => ?_, id⟩)
    · rwa [Stage.enrol, List.getElem?_append_left (List.getElem?_eq_some_iff.mp before).1]
    · rwa [Stage.enrol, List.getElem?_append_left (List.getElem?_eq_some_iff.mp before).1]
  | notify => exact .inr (.inr ⟨rfl, .inr ⟨_, rfl⟩, rfl, rfl, .of_eq rfl rfl rfl⟩)
  | disturb => exact .inr (.inr ⟨rfl, .inl rfl, rfl, rfl, .of_eq rfl rfl rfl⟩)

/-- A batch comes to an end by a step of the loop. -/
theorem Open.loopMove (step : Open s x t y) (running : s.stage.loop.isRunning = true)
    (stopped : t.stage.loop.isRunning = false) : LoopMove s t := by
  rcases step.cases with move | ⟨-, still⟩ | bystands
  · exact move
  · cases stopped.symm.trans still
  · rw [bystands.loop, running] at stopped
    cases stopped

/-- What a step has put into the queue. -/
def added (u v : e.Site) : List (Notice β) :=
  v.stage.planner.queue.drop u.stage.planner.queue.length

/-- What any schedule leads to from a site, and what is put into the queue on the way. -/
inductive Since (s : e.Site) (x : σ) : List (Notice β) → e.Site → σ → Prop
  | refl : Since s x [] s x
  | step {ns : List (Notice β)} {u v : e.Site} {y z : σ} (since : Since s x ns u y) (step : Open u y v z) :
      Since s x (ns ++ added u v) v z

/-- The loop puts nothing into the queue. -/
theorem LoopMove.added (move : LoopMove s t) : added s t = [] := by
  refine List.drop_eq_nil_of_le ?_
  cases move with
  | mk quiet step =>
    cases step with
    | call batch p at_ drained _ | refuse batch p at_ drained _ =>
      obtain ⟨-, -, rfl⟩ := Planner.drain_call drained
      exact Nat.zero_le _
    | stop p at_ drained =>
      obtain ⟨-, rfl⟩ := Planner.drain_done drained
      exact Nat.zero_le _
    | giveUp batch outcomes f at_ _ _ => exact Nat.zero_le _
    | _ => exact le_rfl

/-- While only the loop goes on, nothing is put into the queue. -/
theorem Since.of_moves (moves : ReflTransGen LoopMove s t) (x : σ) : Since s x [] t x := by
  induction moves with
  | refl => exact .refl
  | tail _ move ih =>
    have since := ih.step (move.open x)
    rwa [move.added] at since

/-! ## What the loop does when it has given up -/

/-- Where everything stands once the loop has given up a batch: some slots have failed, the others are in its hand. -/
structure Aftermath (s : e.Site) (batch : List e.Turn) (f : Failure) (ns : List (Notice β)) (u : e.Site) : Prop where
  loop : u.stage.loop.GaveUp f
  slots : ∀ k ∈ s.stage.planner.openSlots,
    u.stage.slots[k]? = some (.assigned (.error f)) ∨ k ∈ u.stage.loop.inHand
  earlier : ∀ w ∈ s.stage.retired, u.stage.slots[w.submission.slot]? = some (.assigned (.ok ()))
  turns : u.stage.retired.map (·.submission) = (s.stage.retired ++ batch).map (·.submission)
  current : u.stage.planner.current = none
  pending : u.stage.planner.pending = []
  outstanding : u.stage.planner.outstanding = 0
  queue : u.stage.planner.queue = ns
  left : ∀ r, u.stage.loop = .ended r → u.stage.live = false

/-- The loop gives up when all turns of a batch are over and some of them have failed. -/
theorem LoopMove.aftermath (move : LoopMove s t) (steady : Steady s) (running : s.stage.loop = .running batch)
    (fails : FirstFailure batch f) : Aftermath s batch f [] t := by
  have earlier := steady.acknowledged.assigned (by rw [running]; rfl) (by rw [running]; rfl)
  cases move with
  | mk quiet step =>
    cases step with
    | giveUp batch' outcomes g at_ all first =>
      obtain rfl : batch = batch' := Loop.running.inj (running.symm.trans at_)
      obtain rfl : f = g := Option.some.inj ((fails.findSome? all).symm.trans first)
      exact ⟨rfl, fun k mem => .inr mem, earlier, rfl, rfl, rfl, rfl, rfl, nofun⟩
    | finish batch' outcomes at_ all none =>
      obtain rfl : batch = batch' := Loop.running.inj (running.symm.trans at_)
      cases (fails.findSome? all).symm.trans none
    | name id at_ | schedule start at_ _ _ | invalid g at_ _ | unscheduled g at_ _ | count left at_
    | call batch' p at_ _ _ | refuse batch' p at_ _ _ | stop p at_ _ | acknowledge left at_ | assign slot left at_
    | failNext slot rest g at_ | failed g at_ | leave r at_ => cases running.symm.trans at_

theorem LoopMove.after (move : LoopMove u v) (steady : Steady u) (after : Aftermath s batch f ns u) :
    v.stage.planner = u.stage.planner ∧ Aftermath s batch f ns v := by
  obtain ⟨loop, slots, earlier, turns, current, pending, outstanding, queue, left⟩ := after
  cases move with
  | mk quiet step =>
    cases step with
    | failNext slot rest g at_ =>
      rw [at_] at loop
      obtain rfl : g = f := loop
      refine ⟨rfl, rfl, fun k mem => ?_, fun w mem => modify_of_assigned (earlier w mem), turns, current, pending,
        outstanding, queue, fun _ ended => by cases ended⟩
      rcases slots k mem with failed | held
      · exact .inl (modify_of_assigned failed)
      · rw [at_] at held
        rcases List.mem_cons.mp held with rfl | later
        · have open_ : k ∈ u.stage.held := by
            rw [Stage.held, at_]
            exact List.mem_append_left _ (List.mem_append_right _ List.mem_cons_self)
          left
          show (u.stage.slots.modify k _)[k]? = _
          rw [List.getElem?_modify_eq, (steady.ledger.pending k).mpr open_]
          rfl
        · exact .inr later
    | failed g at_ =>
      rw [at_] at loop
      obtain rfl : g = f := loop
      refine ⟨rfl, rfl, fun k mem => .inl ((slots k mem).resolve_right ?_), earlier, turns, current, pending,
        outstanding, queue, fun _ ended => by cases ended⟩
      rw [at_]
      exact List.not_mem_nil
    | leave r at_ =>
      rw [at_] at loop
      refine ⟨rfl, loop, fun k mem => .inl ((slots k mem).resolve_right ?_), earlier, turns, current, pending,
        outstanding, queue, fun _ _ => rfl⟩
      rw [at_]
      exact List.not_mem_nil
    | name id at_ | schedule start at_ _ _ | invalid g at_ _ | unscheduled g at_ _ | count left at_
    | call batch' p at_ _ _ | refuse batch' p at_ _ _ | stop p at_ _ | finish batch' outcomes at_ _ _
    | giveUp batch' outcomes g at_ _ _ | acknowledge left at_ | assign slot left at_ =>
      rw [at_] at loop
      cases loop

theorem Bystands.after (bystands : Bystands u v) (after : Aftermath s batch f ns u) :
    Aftermath s batch f (ns ++ added u v) v := by
  obtain ⟨loop, slots, earlier, turns, current, pending, outstanding, queue, left⟩ := after
  obtain ⟨loop', planner, retired, live, grows⟩ := bystands
  refine ⟨by rwa [loop'], fun k mem => ?_, fun w mem => grows.assigned (earlier w mem), retired.trans turns, ?_, ?_, ?_, ?_, ?_⟩
  · rw [loop']
    exact (slots k mem).imp_left grows.assigned
  · rcases planner with same | ⟨n, same⟩ <;> rw [same] <;> exact current
  · rcases planner with same | ⟨n, same⟩ <;> rw [same] <;> exact pending
  · rcases planner with same | ⟨n, same⟩ <;> rw [same] <;> exact outstanding
  · unfold added
    rcases planner with same | ⟨n, same⟩
    · rw [same, List.drop_length, List.append_nil, queue]
    · rw [same, Planner.put, List.drop_left, queue]
  · rw [loop', live]
    exact left

theorem Open.after (step : Open u y v z) (steady : Steady u) (after : Aftermath s batch f ns u) :
    Aftermath s batch f (ns ++ added u v) v := by
  rcases step.cases with move | ⟨running, -⟩ | bystands
  · obtain ⟨planner, next⟩ := move.after steady after
    rw [added, planner, List.drop_length, List.append_nil]
    exact next
  · have loop := after.loop
    revert running loop
    cases u.stage.loop <;> exact nofun
  · exact bystands.after after

theorem Since.after {s₀ : e.Site} (since : Since s x ns u z) (steady : Steady s) (after : Aftermath s₀ batch f [] s) :
    Steady u ∧ Aftermath s₀ batch f ns u := by
  induction since with
  | refl => exact ⟨steady, after⟩
  | step _ step ih => exact ⟨step.steady ih.1, step.after ih.1 ih.2⟩

/-! ## The end -/

/-- Nobody runs any more. -/
theorem Aftermath.quiet (after : Aftermath s batch f ns u) : u.Quiet := by
  refine quiet_of_idle ?_
  have loop := after.loop
  revert loop
  cases u.stage.loop with
  | running batch' => exact nofun
  | _ => exact fun _ => rfl

/-- The loop ends by itself. -/
theorem Aftermath.ends (after : Aftermath s batch f ns u) (steady : Steady u) :
    ∃ v, ReflTransGen LoopMove u v ∧ v.stage.loop = .ended (.error f) := by
  have loop := after.loop
  cases at_ : u.stage.loop with
  | failing slots g =>
    rw [at_] at loop
    obtain rfl : g = f := loop
    induction slots generalizing u with
    | nil =>
      have failed : LoopMove u _ := .mk after.quiet (.failed u.stage g at_)
      obtain ⟨-, next⟩ := failed.after steady after
      exact ⟨_, .tail (.single failed) (.mk next.quiet (.leave _ (.error g) rfl)), rfl⟩
    | cons slot rest ih =>
      have move : LoopMove u _ := .mk after.quiet (.failNext u.stage slot rest g at_)
      obtain ⟨v, moves, ended⟩ := ih (move.steady steady) rfl (move.after steady after).2
      exact ⟨v, .head move moves, ended⟩
  | leaving r =>
    rw [at_] at loop
    obtain rfl : r = .error f := loop
    exact ⟨_, .single (.mk after.quiet (.leave u.stage _ at_)), rfl⟩
  | ended r =>
    rw [at_] at loop
    obtain rfl : r = .error f := loop
    exact ⟨u, .refl, at_⟩
  | _ =>
    rw [at_] at loop
    cases loop

end Site
end Ensemble
end Rendezvous
