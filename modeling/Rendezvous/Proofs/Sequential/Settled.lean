import Rendezvous.Proofs.Sequential.Onward

/-!
# Coming to the end

What is left once the result of the loop is certain touches nothing that is shared, and comes to its end as
well (`LoopStep.settled`, `FlowStep.settled`, `ErrandStep.settled`).  And as long as there is no result, some
thread can take a step (`Future.goesOn`).
-/

namespace Rendezvous

set_option autoImplicit false

namespace Ensemble

variable {β : Type} {e : Ensemble β Scope} {p : Play} {c : Cast e p}

/-! ## What is left when the result is certain -/

/-- A loop that gives up goes on giving up, and makes no step succeed. -/
theorem LoopStep.of_givingUp {s t : e.Stage} {f : Failure} {l : Nat} (moves : LoopStep s t)
    (loop : s.loop.GivingUp f l) :
    (∃ m < l, t.loop.GivingUp f m) ∧ t.flow = s.flow ∧ t.errands = s.errands ∧ t.retired = s.retired ∧
      ∀ (k : Nat), s.slots[k]? ≠ some (.assigned (.ok ())) → t.slots[k]? ≠ some (.assigned (.ok ())) := by
  cases moves with
  | failNext slot rest g at_ =>
    rcases loop with ⟨slots, loop, rfl⟩ | ⟨loop, -⟩ | ⟨loop, -⟩
    · cases loop.symm.trans at_
      refine ⟨⟨rest.length + 2, by rw [List.length_cons]; omega, .inl ⟨rest, rfl, rfl⟩⟩, rfl, rfl, rfl, ?_⟩
      intro k lost assigned
      rcases assigned_of_modify assigned with old | ⟨-, -, error⟩
      · exact lost old
      · cases error
    · cases loop.symm.trans at_
    · cases loop.symm.trans at_
  | failed g at_ =>
    rcases loop with ⟨slots, loop, rfl⟩ | ⟨loop, -⟩ | ⟨loop, -⟩
    · cases loop.symm.trans at_
      exact ⟨⟨1, by omega, .inr (.inl ⟨rfl, rfl⟩)⟩, rfl, rfl, rfl, fun _ => id⟩
    · cases loop.symm.trans at_
    · cases loop.symm.trans at_
  | leave r at_ =>
    rcases loop with ⟨slots, loop, rfl⟩ | ⟨loop, rfl⟩ | ⟨loop, -⟩
    · cases loop.symm.trans at_
    · cases loop.symm.trans at_
      exact ⟨⟨0, by omega, .inr (.inr ⟨rfl, rfl⟩)⟩, rfl, rfl, rfl, fun _ => id⟩
    · cases loop.symm.trans at_
  | name id at_ | schedule start at_ _ _ | invalid g at_ _ | unscheduled g at_ _ | count left at_
  | call batch p at_ _ _ | refuse batch p at_ _ _ | stop p at_ _ | finish batch outcomes at_ _ _
  | giveUp batch outcomes g at_ _ _ | acknowledge left at_ | assign slot left at_ =>
    rcases loop with ⟨slots, loop, -⟩ | ⟨loop, -⟩ | ⟨loop, -⟩ <;> cases loop.symm.trans at_

theorem Errand.Lost.of_frame {s t : e.Stage} {a : Errand β} {w : Nat} (lost : a.Lost s w)
    (slots : ∀ (k : Nat), s.slots[k]? ≠ some (.assigned (.ok ())) → t.slots[k]? ≠ some (.assigned (.ok ()))) :
    a.Lost t w := by
  cases lost with
  | waiting lost => exact .waiting (slots _ lost)
  | ending step f => exact .ending step f
  | finished o f => exact .finished o f

theorem LoopStep.settled {s t : e.Stage} {r : Result Unit} {n : Nat} (moves : LoopStep s t)
    (settled : Settled s r n) : t.retired = s.retired ∧ ∃ m < n, Settled t r m := by
  cases settled with
  | well loop flow enough =>
    cases moves with
    | leave r at_ =>
      rcases loop with ⟨loop, rfl⟩ | ⟨loop, -⟩
      · cases loop.symm.trans at_
        exact ⟨rfl, n - 1, by omega, .well (.inr ⟨rfl, rfl⟩) flow (by omega)⟩
      · cases loop.symm.trans at_
    | name id at_ | schedule start at_ _ _ | invalid g at_ _ | unscheduled g at_ _ | count left at_
    | call batch p at_ _ _ | refuse batch p at_ _ _ | stop p at_ _ | finish batch outcomes at_ _ _
    | giveUp batch outcomes g at_ _ _ | acknowledge left at_ | assign slot left at_
    | failNext slot rest g at_ | failed g at_ =>
      rcases loop with ⟨loop, -⟩ | ⟨loop, -⟩ <;> cases loop.symm.trans at_
  | failing loop flow errands lost enough =>
    obtain ⟨⟨m, less, loop'⟩, flow', errands', retired, slots⟩ := moves.of_givingUp loop
    exact ⟨retired, n - 1, by omega,
      .failing loop' (flow'.trans flow) (errands'.trans errands) (lost.of_frame slots) (by omega)⟩
  | releasing loop flow asks enough =>
    obtain ⟨⟨m, less, loop'⟩, flow', -, retired, -⟩ := moves.of_givingUp loop
    exact ⟨retired, n - 1, by omega, .releasing loop' (flow'.trans flow) asks (by omega)⟩
  | released loop flow enough =>
    obtain ⟨⟨m, less, loop'⟩, flow', -, retired, -⟩ := moves.of_givingUp loop
    exact ⟨retired, n - 1, by omega, .released loop' (by rwa [flow']) (by omega)⟩

theorem FlowStep.settled {s t : e.Stage} {x : Scope} {r : Result Unit} {n : Nat} (moves : FlowStep x s t)
    (settled : Settled s r n) : t.retired = s.retired ∧ ∃ m < n, Settled t r m := by
  cases settled with
  | well loop flow enough =>
    obtain ⟨rfl, rfl⟩ := moves.of_closing flow
    exact ⟨rfl, n - 1, by omega, .well loop (.inr ⟨rfl, rfl⟩) (by omega)⟩
  | failing loop flow errands lost enough =>
    rcases moves.of_stepping flow errands with ⟨o, r, rfl, -⟩ | ⟨o, f, rfl, rfl⟩
    · cases lost
    · cases lost
      exact ⟨rfl, n - 1, by omega, .releasing loop rfl .ordered (by omega)⟩
  | @releasing f g v l w _ loop flow asks enough =>
    cases moves with
    | findLoop v' at_ live =>
      cases flow.symm.trans at_
      cases asks
      exact ⟨rfl, n - 1, by omega, .releasing loop rfl .found (by omega)⟩
    | missLoop v' at_ gone =>
      cases flow.symm.trans at_
      cases asks
      exact ⟨rfl, n - 1, by omega, .released loop (.inl ⟨rfl, rfl⟩) (by omega)⟩
    | release v' at_ =>
      cases flow.symm.trans at_
      cases asks
      exact ⟨rfl, n - 1, by omega, .released loop (.inl ⟨rfl, rfl⟩) (by omega)⟩
    | close v' at_ =>
      cases flow.symm.trans at_
      cases asks
    | iteration i next' at_ | skip i next' at_ | order o next' at_ | orderAll os next' at_
    | report i missing o r next' at_ _ | fail i missing o f next' at_ _ | resume next' at_
    | askExit o next' at_ | askCondition o next' at_ | find q next' at_ _ | miss q next' known at_ _
    | evaluate q next' at_ | branch q b next' at_ | refuse q f next' at_ | finish at_ =>
      cases flow.symm.trans at_
  | released loop flow enough =>
    obtain ⟨rfl, rfl⟩ := moves.of_closing flow
    exact ⟨rfl, n - 1, by omega, .released loop (.inr ⟨rfl, rfl⟩) (by omega)⟩

theorem ErrandStep.settled {s t : e.Stage} {r : Result Unit} {before after : Errand β} {i n : Nat}
    (c : Cast e p) (there : s.errands[i]? = some before) (moves : ErrandStep s before t after)
    (reach : Reachable s) (settled : Settled s r n) :
    t.retired = s.retired ∧ ∃ m < n, Settled { t with errands := t.errands.set i after } r m := by
  obtain ⟨id, sole⟩ := reach.sole c.single
  have nobody (none : s.errands = []) : False := by
    rw [none] at there
    cases there
  cases settled with
  | well loop flow enough =>
    rcases flow with ⟨flow, -⟩ | ⟨flow, -⟩
    · rw [flow] at sole
      exact (nobody sole).elim
    · rw [flow] at sole
      exact (nobody sole).elim
  | releasing loop flow asks enough =>
    rw [flow] at sole
    exact (nobody sole).elim
  | released loop flow enough =>
    rcases flow with ⟨flow, -⟩ | ⟨flow, -⟩
    · rw [flow] at sole
      exact (nobody sole).elim
    · rw [flow] at sole
      exact (nobody sole).elim
  | failing loop flow errands lost enough =>
    obtain ⟨rfl, rfl⟩ := errand_of_single errands there
    cases moves with
    | wake step turn assigned =>
      cases lost with
      | waiting lost =>
        cases turn with
        | ok u => exact absurd assigned lost
        | error g =>
          refine ⟨rfl, n - 1, by omega, .failing loop flow ?_ (.ending step g) (by omega)⟩
          rw [errands]
          rfl
    | finish step turn engine =>
      cases lost with
      | ending _ g =>
        refine ⟨rfl, n - 1, by omega, .failing loop flow ?_ (.finished step.order g) (by omega)⟩
        rw [errands]
        rfl
    | unfinished step turn f engine => cases c.engine.mp engine
    | find o agent live there | miss o known gone | noAgent o f live absent | begin o agent engine
    | unstarted o agent f engine | submit o agent => cases lost

/-- No turn runs any more when the result is certain. -/
theorem Settled.not_running {s : e.Stage} {r : Result Unit} {n : Nat} {batch : List e.Turn}
    (settled : Settled s r n) (running : s.loop = .running batch) : False := by
  cases settled with
  | well loop => rcases loop with ⟨loop, -⟩ | ⟨loop, -⟩ <;> cases loop.symm.trans running
  | failing loop | releasing loop | released loop =>
    rcases loop with ⟨slots, loop, -⟩ | ⟨loop, -⟩ | ⟨loop, -⟩ <;> cases loop.symm.trans running

/-- When the loop has ended, it is with the result that was certain. -/
theorem Settled.of_ended {s : e.Stage} {r r' : Result Unit} {n : Nat} (settled : Settled s r n)
    (ended : s.loop = .ended r') : r = r' := by
  have left {f : Failure} {l : Nat} (loop : s.loop.GivingUp f l) : .error f = r' := by
    rcases loop with ⟨slots, loop, -⟩ | ⟨loop, -⟩ | ⟨loop, -⟩
    · cases loop.symm.trans ended
    · cases loop.symm.trans ended
    · exact Loop.ended.inj (loop.symm.trans ended)
  cases settled with
  | well loop =>
    rcases loop with ⟨loop, -⟩ | ⟨loop, -⟩
    · cases loop.symm.trans ended
    · exact Loop.ended.inj (loop.symm.trans ended)
  | failing loop | releasing loop | released loop => exact left loop

/-- When the loop has ended, its result is what was going to come. -/
theorem Future.of_ended {s : e.Stage} {x : Scope} {o : Scope × Result Unit} {r : Result Unit} {n : Nat}
    (future : Future c s x o n) (ended : s.loop = .ended r) : Settled s r n ∧ o = (x, r) := by
  rcases future with active | ⟨settled, same⟩
  · cases active with
    | unnamed loop | opening loop | running loop | acknowledging loop | assigning loop =>
      cases loop.symm.trans ended
    | going idle | asking idle | answered idle | sending idle | queued idle | done idle | reported idle
    | releasing idle | released idle =>
      rcases idle with ⟨loop, -⟩ | ⟨loop, -⟩ <;> cases loop.symm.trans ended
  · obtain ⟨y, r'⟩ := o
    obtain rfl : y = x := same
    have result := settled.of_ended ended
    subst result
    exact ⟨settled, rfl⟩

/-! ## Turns that are over -/

/-- How many steps may go on after turns that are over. -/
inductive Rested (c : Cast e p) : List e.Turn → Nat → Prop
  | nil : Rested c [] 0
  | cons {turn : e.Turn} {rest : List e.Turn} {k n : Nat} (first : c.Rest turn k) (others : Rested c rest n) :
      Rested c (turn :: rest) (k + n)

theorem Rested.concat {turns : List e.Turn} {turn : e.Turn} {k n : Nat} (rested : Rested c turns n)
    (last : c.Rest turn k) : Rested c (turns ++ [turn]) (n + k) := by
  induction rested with
  | nil =>
    rw [Nat.add_comm]
    exact .cons last .nil
  | cons first _ ih =>
    rw [Nat.add_assoc]
    exact .cons first ih

theorem Rested.linger {turns : List e.Turn} {t : e.Turn} {q : (e.behaviour t.submission.agent).State}
    {x y : Scope} {i n : Nat} (rested : Rested c turns n) (there : turns[i]? = some t)
    (moves : (e.behaviour t.submission.agent).Step t.state x q y) :
    y = x ∧ ∃ m < n, Rested c (turns.set i ⟨t.submission, q⟩) m := by
  induction rested generalizing i with
  | nil => cases there
  | @cons turn rest k n first others ih =>
    cases i with
    | zero =>
      obtain rfl : turn = t := Option.some.inj there
      obtain ⟨j, seat, rests⟩ := first
      obtain ⟨rfl, -, k', less, rests'⟩ := (c.simulation seat).linger rests moves
      exact ⟨rfl, k' + n, by omega, .cons ⟨j, seat, rests'⟩ others⟩
    | succ i =>
      obtain ⟨rfl, m, less, rested'⟩ := ih there
      exact ⟨rfl, k + m, by omega, .cons first rested'⟩

/-- The phases do not depend on turns that are over. -/
theorem Active.retire {s : e.Stage} {x : Scope} {o : Scope × Result Unit} {n : Nat}
    (active : Active c s x o n) (turns : List e.Turn) : Active c { s with retired := turns } x o n := by
  cases active with
  | unnamed loop queue enough => exact .unnamed loop queue enough
  | opening loop queue enough => exact .opening loop queue enough
  | going idle queue flow enough => exact .going idle queue flow enough
  | asking idle queue flow asks enough => exact .asking idle queue flow asks enough
  | answered idle queue flow enough => exact .answered idle queue flow enough
  | sending idle queue flow errands unsent within enough =>
    exact .sending idle queue flow errands unsent within enough
  | queued idle queue flow errands slot seat enough => exact .queued idle queue flow errands slot seat enough
  | running loop queue flow errands slot busy enough =>
    exact .running loop queue flow errands slot busy enough
  | acknowledging loop queue flow errands turn enough =>
    exact .acknowledging loop queue flow errands turn enough
  | assigning loop queue flow errands enough => exact .assigning loop queue flow errands enough
  | done idle queue flow errands done enough =>
    refine .done idle queue flow errands ?_ enough
    cases done with
    | waiting assigned => exact .waiting assigned
    | ending step => exact .ending step
    | finished o r => exact .finished o r
  | reported idle queue flow enough => exact .reported idle queue flow enough
  | releasing idle queue flow asks enough => exact .releasing idle queue flow asks enough
  | released idle queue flow enough => exact .released idle queue flow enough

theorem Settled.retire {s : e.Stage} {r : Result Unit} {n : Nat} (settled : Settled s r n)
    (turns : List e.Turn) : Settled { s with retired := turns } r n := by
  cases settled with
  | well loop flow enough => exact .well loop flow enough
  | failing loop flow errands lost enough =>
    exact .failing loop flow errands (lost.of_frame fun _ => id) enough
  | releasing loop flow asks enough => exact .releasing loop flow asks enough
  | released loop flow enough => exact .released loop flow enough

/-! ## There is always a step -/

/-- A loop that looks into a queue that is not empty finds something. -/
theorem Stage.looks {s : e.Stage} (loop : s.loop = .looking) (queue : s.planner.queue ≠ []) :
    ∃ t, LoopStep s t := by
  cases drained : s.planner.drain with
  | none => exact absurd ((Planner.drain_eq_none_iff _).mp drained) queue
  | some found =>
    obtain ⟨action, planner⟩ := found
    cases action with
    | call batch =>
      by_cases refuses : e.Refuses batch
      · exact ⟨_, .refuse s batch planner loop drained refuses⟩
      · exact ⟨_, .call s batch planner loop drained refuses⟩
    | done => exact ⟨_, .stop s planner loop drained⟩
    | noOp => exact absurd drained Planner.drain_ne_noOp

theorem Loop.Idle.goesOn {s : e.Stage} {l : Nat} (idle : s.loop.Idle l) (queue : s.planner.queue ≠ []) :
    ∃ t, LoopStep s t := by
  rcases idle with ⟨loop, -⟩ | ⟨loop, -⟩
  · exact ⟨_, .count s 0 loop⟩
  · exact Stage.looks loop queue

/-- A workflow on its course goes on. -/
theorem Stage.goes {s : e.Stage} {d : Drive} (x : Scope) (flow : s.flow = .going d) :
    ∃ t, FlowStep x s t := by
  cases d with
  | finish => exact ⟨_, .finish s flow⟩
  | iteration n next => exact ⟨_, .iteration s n next flow⟩
  | step o next => exact ⟨_, .order s o next flow⟩
  | steps os next => exact ⟨_, .orderAll s os next flow⟩
  | skip i next => exact ⟨_, .skip s i next flow⟩
  | checkExit o next => exact ⟨_, .askExit s o next flow⟩
  | checkCondition o next => exact ⟨_, .askCondition s o next flow⟩

/-- A step that has not submitted its agent goes on to do so. -/
theorem Errand.Unsent.goesOn {s : e.Stage} {a : Errand β} {w : Nat} (c : Cast e p) (unsent : a.Unsent w)
    (live : s.live = true) : ∃ t b, ErrandStep s a t b := by
  cases unsent with
  | ordered o =>
    cases there : s.planner.agentAt o.agentIndex with
    | ok agent => exact ⟨_, _, .find s o agent live there⟩
    | error f => exact ⟨_, _, .noAgent s o f live there⟩
  | found o agent => exact ⟨_, _, .begin s o agent (c.engine.mpr rfl)⟩
  | begun o agent => exact ⟨_, _, .submit s o agent⟩

/-- As long as the result is not certain, some thread can take a step. -/
theorem Active.goesOn {s : e.Stage} {x : Scope} {o : Scope × Result Unit} {n : Nat} (reach : Reachable s)
    (active : Active c s x o n) : ∃ t y, Step s x t y := by
  have ofLoop : (∃ t, LoopStep s t) → ∃ t y, Step s x t y := fun ⟨t, moves⟩ => ⟨t, x, .loop moves⟩
  have ofFlow : (∃ t, FlowStep x s t) → ∃ t y, Step s x t y := fun ⟨t, moves⟩ => ⟨t, x, .flow moves⟩
  have ofErrand {a : Errand β} (errands : s.errands = [a]) :
      (∃ t b, ErrandStep s a t b) → ∃ t y, Step s x t y :=
    fun ⟨t, b, moves⟩ => ⟨_, x, .errand 0 (by rw [errands]; rfl) moves⟩
  cases active with
  | unnamed loop => exact ofLoop ⟨_, .name s "" loop⟩
  | opening loop =>
    cases valid : s.planner.start with
    | ok start => exact ofLoop ⟨_, .schedule s start loop valid (c.engine.mpr rfl)⟩
    | error f => exact ofLoop ⟨_, .invalid s f loop valid⟩
  | going idle queue flow => exact ofFlow (Stage.goes x flow)
  | @asking q v next l w _ idle queue flow asks =>
    cases asks with
    | ordered => exact ofFlow ⟨_, .find s q next flow (idle.live reach)⟩
    | found => exact ofFlow ⟨_, .evaluate s q next flow⟩
  | @answered q b next l _ idle queue flow => exact ofFlow ⟨_, .branch s q b next flow⟩
  | sending idle queue flow errands unsent => exact ofErrand errands (unsent.goesOn c (idle.live reach))
  | queued idle queue => exact ofLoop (idle.goesOn (by rw [queue]; exact List.cons_ne_nil _ _))
  | @running step turn o next k _ loop queue flow errands slot busy =>
    cases result : turn.result? with
    | none =>
      obtain ⟨i, seat, busy⟩ := busy
      obtain ⟨q, y, moves⟩ := (c.simulation seat).goesOn busy result
      exact ⟨_, y, .perform 0 loop rfl moves⟩
    | some r =>
      have all : outcomes? [turn] = some [r] := by
        simp only [outcomes?, List.mapM_cons, List.mapM_nil, result]
        rfl
      cases r with
      | ok v => exact ofLoop ⟨_, .finish s [turn] _ loop all rfl⟩
      | error f => exact ofLoop ⟨_, .giveUp s [turn] _ f loop all rfl⟩
  | acknowledging loop => exact ofLoop ⟨_, .acknowledge s 0 loop⟩
  | @assigning step _ _ loop => exact ofLoop ⟨_, .assign s (some step.slot) 0 loop⟩
  | @done a next l w _ idle queue flow errands done =>
    cases done with
    | waiting assigned => exact ofErrand errands ⟨_, _, .wake s _ _ assigned⟩
    | ending step => exact ofErrand errands ⟨_, _, .finish s step _ (c.engine.mpr rfl)⟩
    | finished o r => exact ofFlow ⟨_, .report s 0 0 o r next flow (by rw [errands]; rfl)⟩
  | @reported next l _ idle queue flow => exact ofFlow ⟨_, .resume s next flow⟩
  | releasing idle queue flow asks =>
    cases asks with
    | ordered => exact ofFlow ⟨_, .findLoop s none flow (idle.live reach)⟩
    | found => exact ofFlow ⟨_, .release s none flow⟩
  | released idle queue => exact ofLoop (idle.goesOn (by rw [queue]; exact List.cons_ne_nil _ _))

theorem Loop.Leaving.goesOn {s : e.Stage} {r : Result Unit} {l : Nat} (loop : s.loop.Leaving r l)
    (running : s.loop ≠ .ended r) : ∃ t, LoopStep s t := by
  rcases loop with ⟨loop, -⟩ | ⟨loop, -⟩
  · exact ⟨_, .leave s r loop⟩
  · exact absurd loop running

theorem Loop.GivingUp.goesOn {s : e.Stage} {f : Failure} {l : Nat} (loop : s.loop.GivingUp f l)
    (running : s.loop ≠ .ended (.error f)) : ∃ t, LoopStep s t := by
  rcases loop with ⟨slots, loop, -⟩ | leaving
  · cases slots with
    | nil => exact ⟨_, .failed s f loop⟩
    | cons slot rest => exact ⟨_, .failNext s slot rest f loop⟩
  · exact leaving.goesOn running

theorem Settled.goesOn {s : e.Stage} {r : Result Unit} {n : Nat} (settled : Settled s r n)
    (running : ∀ r, s.loop ≠ .ended r) : ∃ t, LoopStep s t := by
  cases settled with
  | well loop => exact loop.goesOn (running _)
  | failing loop | releasing loop | released loop => exact loop.goesOn (running _)

/-- As long as the loop has not ended, some thread can take a step. -/
theorem Future.goesOn {s : e.Stage} {x : Scope} {o : Scope × Result Unit} {n : Nat} (reach : Reachable s)
    (future : Future c s x o n) (running : ∀ r, s.loop ≠ .ended r) : ∃ t y, Step s x t y := by
  rcases future with active | ⟨settled, -⟩
  · exact active.goesOn reach
  · obtain ⟨t, moves⟩ := settled.goesOn running
    exact ⟨t, x, .loop moves⟩

end Ensemble
end Rendezvous
