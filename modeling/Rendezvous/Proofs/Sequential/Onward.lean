import Rendezvous.Proofs.Sequential.Phase

/-!
# No step changes what is going to come

Whichever thread takes the next step, the phase after it has the same future, and fewer steps are left
(`LoopStep.onward`, `FlowStep.onward`, `ErrandStep.onward`, `Cast.onward`).
-/

namespace Rendezvous

set_option autoImplicit false

namespace Ensemble

variable {β : Type} {e : Ensemble β Scope} {p : Play} {c : Cast e p}

/-- A step after which no more turns are over than before. -/
theorem Onward.of_active {s t : e.Stage} {y : Scope} {o : Scope × Result Unit} {n : Nat}
    (retired : t.retired = s.retired) (m : Nat) (less : m < n) (active : Active c t y o m) :
    Onward c s t y o n :=
  .inl ⟨retired, m, less, .inl active⟩

theorem Onward.of_settled {s t : e.Stage} {y : Scope} {r : Result Unit} {n : Nat}
    (retired : t.retired = s.retired) (m : Nat) (less : m < n) (settled : Settled t r m) :
    Onward c s t y (y, r) n :=
  .inl ⟨retired, m, less, .inr ⟨settled, rfl⟩⟩

/-! ## The loop -/

/-- What has come of the only turn of a batch. -/
theorem outcomes?_single {turn : e.Turn} {outcomes : List (Result Value)}
    (all : outcomes? [turn] = some outcomes) : ∃ r, turn.result? = some r ∧ outcomes = [r] := by
  simp only [outcomes?, List.mapM_cons, List.mapM_nil, Option.bind_eq_bind, Option.bind_eq_some_iff,
    Option.pure_def, Option.some.injEq] at all
  obtain ⟨r, result, rest, rfl, rfl⟩ := all
  exact ⟨r, result, rfl⟩

/-- A turn that is over leaves what may go on after it. -/
theorem Cast.Busy.result {turn : e.Turn} {x : Scope} {o : Scope × Result Value} {k : Nat}
    {r : Result Value} (busy : c.Busy turn x o k) (result : turn.result? = some r) :
    o = (x, r) ∧ c.Rest turn k := by
  obtain ⟨i, there, busy⟩ := busy
  obtain ⟨same, rest⟩ := (c.simulation there).result busy result
  exact ⟨same, i, there, rest⟩

theorem current_of_inTurn {s : e.Stage} {k : Nat} (counted : Counted s) (turn : s.planner.inTurn = [k]) :
    s.planner.acknowledge.1 = some k := by
  show s.planner.current = some k
  cases current : s.planner.current with
  | none =>
    rw [Planner.inTurn, current, counted.upright current] at turn
    cases turn
  | some j =>
    rw [Planner.inTurn, current] at turn
    exact congrArg some (List.cons.inj turn).1

theorem LoopStep.onward_of_running {s t : e.Stage} {x : Scope} {step : OpenStep} {turn : e.Turn}
    {o : Scope × Result Value} {next : Drive} {k n : Nat} (moves : LoopStep s t) (reach : Reachable s)
    (loop : s.loop = .running [turn]) (queue : s.planner.queue = []) (flow : s.flow = .stepping 1 next)
    (errands : s.errands = [.waiting step]) (slot : turn.submission.slot = step.slot)
    (busy : c.Busy turn x o k) (enough : k + next.left p o + 19 ≤ n) :
    Onward c s t x (andThen o fun _ => next.outcome p) n := by
  have tally := reach.counted.tally
  rw [loop] at tally
  have inTurn : s.planner.inTurn = [step.slot] := by rw [tally.2.1, ← slot]; rfl
  cases moves with
  | finish batch outcomes at_ all none =>
    cases loop.symm.trans at_
    obtain ⟨r, result, rfl⟩ := outcomes?_single all
    obtain ⟨rfl, rest⟩ := busy.result result
    cases r with
    | error f => cases none
    | ok v =>
      have left : next.left p (x, .ok v) = next.cost p x := rfl
      rw [left] at enough
      refine .inr ⟨turn, k, next.cost p x + 18, rfl, rest, .inl ?_, by omega⟩
      exact .acknowledging rfl queue flow errands inTurn (Nat.le_refl _)
  | giveUp batch outcomes f at_ all first =>
    cases loop.symm.trans at_
    obtain ⟨r, result, rfl⟩ := outcomes?_single all
    obtain ⟨rfl, rest⟩ := busy.result result
    cases r with
    | ok v => cases first
    | error g =>
      obtain rfl : g = f := Option.some.inj first
      have slots : s.planner.abort.1 = [step.slot] := by
        show s.planner.inTurn ++ Planner.slotsOf s.planner.queue = [step.slot]
        rw [inTurn, queue]
        rfl
      have pending : s.slots[step.slot]? = some .pending := by
        rw [reach.ledger.pending]
        exact mem_held_of_inTurn (by rw [inTurn]; exact List.mem_cons_self)
      refine .inr ⟨turn, k, 7 + 3, rfl, rest, .inr ⟨?_, rfl⟩, by omega⟩
      refine .failing (.inl ⟨_, rfl, rfl⟩) flow errands (.waiting ?_) (by rw [slots]; exact Nat.le_refl _)
      intro assigned
      cases pending.symm.trans assigned
  | name id at_ | schedule start at_ _ _ | invalid f at_ _ | unscheduled f at_ _ | count left at_
  | call batch p at_ _ _ | refuse batch p at_ _ _ | stop p at_ _ | acknowledge left at_
  | assign slot left at_ | failNext slot rest f at_ | failed f at_ | leave r at_ =>
    cases loop.symm.trans at_

theorem LoopStep.onward {s t : e.Stage} {x : Scope} {o : Scope × Result Unit} {n : Nat}
    (moves : LoopStep s t) (reach : Reachable s) (active : Active c s x o n) : Onward c s t x o n := by
  have counted := reach.counted
  cases active with
  | unnamed loop queue enough =>
    cases moves with
    | name id at_ => exact .of_active rfl (n - 1) (by omega) (.opening rfl queue (by omega))
    | schedule start at_ _ _ | invalid f at_ _ | unscheduled f at_ _ | count left at_
    | call batch p at_ _ _ | refuse batch p at_ _ _ | stop p at_ _ | finish batch outcomes at_ _ _
    | giveUp batch outcomes f at_ _ _ | acknowledge left at_ | assign slot left at_
    | failNext slot rest f at_ | failed f at_ | leave r at_ => cases loop.symm.trans at_
  | opening loop queue enough =>
    obtain ⟨start, valid, outcome, cost⟩ := c.course s.planner.plan.id
    rw [reach.made.start] at valid
    cases moves with
    | schedule start' at_ valid' engine =>
      obtain rfl : start = start' := Except.ok.inj (valid.symm.trans valid')
      rw [← outcome]
      refine .of_active rfl (n - 1) (by omega) (.going (.inl ⟨rfl, rfl⟩) queue rfl ?_)
      rw [cost]
      omega
    | invalid f at_ invalid => cases valid.symm.trans invalid
    | unscheduled f at_ engine => cases c.engine.mp engine
    | name id at_ | count left at_ | call batch p at_ _ _ | refuse batch p at_ _ _ | stop p at_ _
    | finish batch outcomes at_ _ _ | giveUp batch outcomes f at_ _ _ | acknowledge left at_
    | assign slot left at_ | failNext slot rest f at_ | failed f at_ | leave r at_ =>
      cases loop.symm.trans at_
  | going idle queue flow enough =>
    obtain ⟨rfl, rfl⟩ := moves.of_still counted idle queue
    exact .of_active rfl (n - 1) (by omega) (.going (.inr ⟨rfl, rfl⟩) queue flow (by omega))
  | asking idle queue flow asks enough =>
    obtain ⟨rfl, rfl⟩ := moves.of_still counted idle queue
    exact .of_active rfl (n - 1) (by omega) (.asking (.inr ⟨rfl, rfl⟩) queue flow asks (by omega))
  | answered idle queue flow enough =>
    obtain ⟨rfl, rfl⟩ := moves.of_still counted idle queue
    exact .of_active rfl (n - 1) (by omega) (.answered (.inr ⟨rfl, rfl⟩) queue flow (by omega))
  | sending idle queue flow errands unsent within enough =>
    obtain ⟨rfl, rfl⟩ := moves.of_still counted idle queue
    exact .of_active rfl (n - 1) (by omega)
      (.sending (.inr ⟨rfl, rfl⟩) queue flow errands unsent within (by omega))
  | @queued step sub next l _ idle queue flow errands slot seat enough =>
    have turns : Planner.turns? s.planner.queue = some [sub] := by rw [queue]; rfl
    rcases moves.of_idle counted idle with
      ⟨rfl, rfl⟩ | ⟨rfl, ⟨batch, p, drained, rfl⟩ | ⟨batch, p, -, refuses⟩ | ⟨p, drained, -⟩⟩
    · exact .of_active rfl (n - 1) (by omega)
        (.queued (.inr ⟨rfl, rfl⟩) queue flow errands slot seat (by omega))
    · obtain ⟨-, turns', rfl⟩ := Planner.drain_call drained
      obtain rfl : [sub] = batch := Option.some.inj (turns.symm.trans turns')
      have busy : c.Busy (Turn.of e sub) x (p.turn step.order.agentIndex x)
          (p.effort step.order.agentIndex x) := ⟨_, seat, (c.simulation seat).start x⟩
      exact .of_active rfl (n - 1) (by omega) (.running rfl rfl flow errands slot busy (by omega))
    · obtain ⟨-, negative⟩ := refuses
      rw [c.workers] at negative
      cases negative
    · obtain ⟨there, -⟩ := Planner.drain_done drained
      exact absurd there (Planner.complete_notMem_of_turns? turns)
  | running loop queue flow errands slot busy enough =>
    exact moves.onward_of_running reach loop queue flow errands slot busy enough
  | @acknowledging step next _ loop queue flow errands turn enough =>
    cases moves with
    | acknowledge left at_ =>
      cases loop.symm.trans at_
      rw [current_of_inTurn counted turn]
      exact .of_active rfl (n - 1) (by omega) (.assigning rfl queue flow errands (by omega))
    | name id at_ | schedule start at_ _ _ | invalid f at_ _ | unscheduled f at_ _ | count left at_
    | call batch p at_ _ _ | refuse batch p at_ _ _ | stop p at_ _ | finish batch outcomes at_ _ _
    | giveUp batch outcomes f at_ _ _ | assign slot left at_ | failNext slot rest f at_ | failed f at_
    | leave r at_ => cases loop.symm.trans at_
  | @assigning step next _ loop queue flow errands enough =>
    cases moves with
    | assign slot left at_ =>
      cases loop.symm.trans at_
      have pending : s.slots[step.slot]? = some .pending := by
        rw [reach.ledger.pending]
        exact mem_held_of_inHand (by rw [loop]; exact List.mem_cons_self)
      refine .of_active rfl (n - 1) (by omega)
        (.done (.inl ⟨rfl, rfl⟩) queue flow errands (.waiting ?_) (by omega))
      show (s.slots.modify step.slot (Slot.assign (.ok ())))[step.slot]? = _
      rw [List.getElem?_modify_eq, pending]
      rfl
    | name id at_ | schedule start at_ _ _ | invalid f at_ _ | unscheduled f at_ _ | count left at_
    | call batch p at_ _ _ | refuse batch p at_ _ _ | stop p at_ _ | finish batch outcomes at_ _ _
    | giveUp batch outcomes f at_ _ _ | acknowledge left at_ | failNext slot rest f at_ | failed f at_
    | leave r at_ => cases loop.symm.trans at_
  | @done a next l w _ idle queue flow errands done enough =>
    obtain ⟨rfl, rfl⟩ := moves.of_still counted idle queue
    have still : a.Done (e := e) { s with planner := s.planner.countDown, loop := .looking } w := by
      cases done with
      | waiting assigned => exact .waiting assigned
      | ending step => exact .ending step
      | finished o r => exact .finished o r
    exact .of_active rfl (n - 1) (by omega) (.done (.inr ⟨rfl, rfl⟩) queue flow errands still (by omega))
  | reported idle queue flow enough =>
    obtain ⟨rfl, rfl⟩ := moves.of_still counted idle queue
    exact .of_active rfl (n - 1) (by omega) (.reported (.inr ⟨rfl, rfl⟩) queue flow (by omega))
  | releasing idle queue flow asks enough =>
    obtain ⟨rfl, rfl⟩ := moves.of_still counted idle queue
    exact .of_active rfl (n - 1) (by omega) (.releasing (.inr ⟨rfl, rfl⟩) queue flow asks (by omega))
  | released idle queue flow enough =>
    rcases moves.of_idle counted idle with
      ⟨rfl, rfl⟩ | ⟨rfl, ⟨batch, p, drained, rfl⟩ | ⟨batch, p, drained, -⟩ | ⟨p, -, rfl⟩⟩
    · exact .of_active rfl (n - 1) (by omega) (.released (.inr ⟨rfl, rfl⟩) queue flow (by omega))
    · obtain ⟨-, turns, -⟩ := Planner.drain_call drained
      rw [queue] at turns
      cases turns
    · obtain ⟨-, turns, -⟩ := Planner.drain_call drained
      rw [queue] at turns
      cases turns
    · exact .of_settled rfl (n - 1) (by omega) (.well (.inl ⟨rfl, rfl⟩) flow (by omega))

/-! ## The workflow -/

/-- What a question comes to is what the course goes on with. -/
theorem outcome_drive (q : Question) (next : Bool → Drive) (x : Scope) :
    (q.drive next).outcome p x = (next (p.asked q x)).outcome p x ∧
      (q.drive next).cost p x = (next (p.asked q x)).cost p x + 5 := by
  cases q with
  | exit o => exact ⟨rfl, rfl⟩
  | condition o => exact ⟨rfl, rfl⟩

theorem FlowStep.onward_of_going {s t : e.Stage} {x : Scope} {d : Drive} {l n : Nat}
    (moves : FlowStep x s t) (reach : Reachable s) (idle : s.loop.Idle l) (queue : s.planner.queue = [])
    (flow : s.flow = .going d) (enough : d.cost p x + l ≤ n) : Onward c s t x (d.outcome p x) n := by
  have roster := reach.tended.roster
  obtain ⟨id, sole⟩ := reach.sole c.single
  rw [flow] at roster sole
  have none : s.errands = [] := roster
  cases moves with
  | iteration i next at_ =>
    obtain rfl : d = .iteration i next := Flow.going.inj (flow.symm.trans at_)
    rw [Drive.cost] at enough
    rw [Drive.outcome]
    exact .of_active rfl (n - 1) (by omega) (.going idle queue rfl (by omega))
  | skip i next at_ =>
    obtain rfl : d = .skip i next := Flow.going.inj (flow.symm.trans at_)
    rw [Drive.cost] at enough
    rw [Drive.outcome]
    exact .of_active rfl (n - 1) (by omega) (.going idle queue rfl (by omega))
  | order o next at_ =>
    obtain rfl : d = .step o next := Flow.going.inj (flow.symm.trans at_)
    have left : (Drive.step o next).cost p x =
        p.effort o.agentIndex x + 30 + next.left p (p.turn o.agentIndex x) := rfl
    rw [left] at enough
    rw [Drive.outcome]
    refine .of_active rfl (n - 1) (by omega)
      (.sending (a := .ordered o) idle queue rfl ?_ (.ordered o) sole.2.1 (by rw [Errand.order]; omega))
    rw [none, List.nil_append]
  | orderAll os next at_ =>
    obtain rfl : d = .steps os next := Flow.going.inj (flow.symm.trans at_)
    exact sole.elim
  | askExit o next at_ =>
    obtain rfl : d = .checkExit o next := Flow.going.inj (flow.symm.trans at_)
    obtain ⟨outcome, cost⟩ := outcome_drive (p := p) (.exit o) next x
    rw [Question.drive] at outcome cost
    rw [outcome]
    exact .of_active rfl (n - 1) (by omega) (.asking idle queue rfl .ordered (by omega))
  | askCondition o next at_ =>
    obtain rfl : d = .checkCondition o next := Flow.going.inj (flow.symm.trans at_)
    obtain ⟨outcome, cost⟩ := outcome_drive (p := p) (.condition o) next x
    rw [Question.drive] at outcome cost
    rw [outcome]
    exact .of_active rfl (n - 1) (by omega) (.asking idle queue rfl .ordered (by omega))
  | finish at_ =>
    obtain rfl : d = .finish := Flow.going.inj (flow.symm.trans at_)
    rw [Drive.cost] at enough
    rw [Drive.outcome]
    exact .of_active rfl (n - 1) (by omega) (.releasing idle queue rfl .ordered (by omega))
  | report i missing o r next at_ _ | fail i missing o f next at_ _ | resume next at_
  | find q next at_ _ | miss q next known at_ _ | evaluate q next at_ | branch q b next at_
  | refuse q f next at_ | findLoop v at_ _ | missLoop v at_ _ | release v at_ | close v at_ =>
    cases flow.symm.trans at_

theorem FlowStep.onward_of_asking {s t : e.Stage} {x : Scope} {q : Question} {v : Visit (Result Bool)}
    {next : Bool → Drive} {l w n : Nat} (moves : FlowStep x s t) (reach : Reachable s)
    (idle : s.loop.Idle l) (queue : s.planner.queue = []) (flow : s.flow = .checking q v next)
    (asks : v.Open w) (enough : (next (p.asked q x)).cost p x + w + 1 + l ≤ n) :
    Onward c s t x ((next (p.asked q x)).outcome p x) n := by
  have live := idle.live reach
  cases moves with
  | find q' next' at_ _ =>
    cases flow.symm.trans at_
    cases asks
    exact .of_active rfl (n - 1) (by omega) (.asking idle queue rfl .found (by omega))
  | miss q' next' known at_ gone =>
    rw [live] at gone
    cases gone
  | evaluate q' next' at_ =>
    cases flow.symm.trans at_
    cases asks
    rw [reach.made.answer, c.scopeOf, c.answers]
    exact .of_active rfl (n - 1) (by omega) (.answered idle queue rfl (by omega))
  | branch q' b next' at_ | refuse q' f next' at_ =>
    cases flow.symm.trans at_
    cases asks
  | iteration i next' at_ | skip i next' at_ | order o next' at_ | orderAll os next' at_
  | report i missing o r next' at_ _ | fail i missing o f next' at_ _ | resume next' at_
  | askExit o next' at_ | askCondition o next' at_ | finish at_ | findLoop v' at_ _ | missLoop v' at_ _
  | release v' at_ | close v' at_ => cases flow.symm.trans at_

theorem FlowStep.onward {s t : e.Stage} {x : Scope} {o : Scope × Result Unit} {n : Nat}
    (moves : FlowStep x s t) (reach : Reachable s) (active : Active c s x o n) : Onward c s t x o n := by
  cases active with
  | unnamed loop queue enough => exact absurd (reach.tended.early (.inl loop)) moves.scheduled.1
  | opening loop queue enough => exact absurd (reach.tended.early (.inr loop)) moves.scheduled.1
  | going idle queue flow enough => exact moves.onward_of_going reach idle queue flow enough
  | asking idle queue flow asks enough => exact moves.onward_of_asking reach idle queue flow asks enough
  | @answered q b next l _ idle queue flow enough =>
    cases moves with
    | branch q' b' next' at_ =>
      cases flow.symm.trans at_
      exact .of_active rfl (n - 1) (by omega) (.going idle queue rfl (by omega))
    | iteration i next' at_ | skip i next' at_ | order o next' at_ | orderAll os next' at_
    | report i missing o r next' at_ _ | fail i missing o f next' at_ _ | resume next' at_
    | askExit o next' at_ | askCondition o next' at_ | find q' next' at_ _ | miss q' next' known at_ _
    | evaluate q' next' at_ | refuse q' f next' at_ | finish at_ | findLoop v at_ _ | missLoop v at_ _
    | release v at_ | close v at_ => cases flow.symm.trans at_
  | sending idle queue flow errands unsent within enough =>
    rcases moves.of_stepping flow errands with ⟨o, r, rfl, -⟩ | ⟨o, f, rfl, -⟩ <;> cases unsent
  | queued idle queue flow errands slot seat enough =>
    rcases moves.of_stepping flow errands with ⟨o, r, finished, -⟩ | ⟨o, f, finished, -⟩ <;> cases finished
  | running loop queue flow errands slot busy enough =>
    rcases moves.of_stepping flow errands with ⟨o, r, finished, -⟩ | ⟨o, f, finished, -⟩ <;> cases finished
  | acknowledging loop queue flow errands turn enough =>
    rcases moves.of_stepping flow errands with ⟨o, r, finished, -⟩ | ⟨o, f, finished, -⟩ <;> cases finished
  | assigning loop queue flow errands enough =>
    rcases moves.of_stepping flow errands with ⟨o, r, finished, -⟩ | ⟨o, f, finished, -⟩ <;> cases finished
  | done idle queue flow errands done enough =>
    rcases moves.of_stepping flow errands with ⟨o, r, rfl, rfl⟩ | ⟨o, f, rfl, -⟩
    · cases done
      exact .of_active rfl (n - 1) (by omega) (.reported idle queue rfl (by omega))
    · cases done
  | @reported next l _ idle queue flow enough =>
    have roster := reach.tended.roster
    rw [flow] at roster
    have none : s.errands = [] := List.length_eq_zero_iff.mp roster
    cases moves with
    | resume next' at_ =>
      cases flow.symm.trans at_
      exact .of_active rfl (n - 1) (by omega) (.going idle queue rfl (by omega))
    | fail i missing o f next' at_ finished =>
      rw [none] at finished
      cases finished
    | iteration i next' at_ | skip i next' at_ | order o next' at_ | orderAll os next' at_
    | report i missing o r next' at_ _ | askExit o next' at_ | askCondition o next' at_
    | find q next' at_ _ | miss q next' known at_ _ | evaluate q next' at_ | branch q b next' at_
    | refuse q f next' at_ | finish at_ | findLoop v at_ _ | missLoop v at_ _ | release v at_ | close v at_ =>
      cases flow.symm.trans at_
  | @releasing v l w _ idle queue flow asks enough =>
    cases moves with
    | findLoop v' at_ live =>
      cases flow.symm.trans at_
      cases asks
      exact .of_active rfl (n - 1) (by omega) (.releasing idle queue rfl .found (by omega))
    | missLoop v' at_ gone =>
      rw [idle.live reach] at gone
      cases gone
    | release v' at_ =>
      cases flow.symm.trans at_
      cases asks
      have notice : s.planner.complete.queue = [.complete] := by
        rw [Planner.complete, Planner.put, queue]
        rfl
      exact .of_active rfl (n - 1) (by omega) (.released idle notice (.inl ⟨rfl, rfl⟩) (by omega))
    | close v' at_ =>
      cases flow.symm.trans at_
      cases asks
    | iteration i next' at_ | skip i next' at_ | order o next' at_ | orderAll os next' at_
    | report i missing o r next' at_ _ | fail i missing o f next' at_ _ | resume next' at_
    | askExit o next' at_ | askCondition o next' at_ | find q next' at_ _ | miss q next' known at_ _
    | evaluate q next' at_ | branch q b next' at_ | refuse q f next' at_ | finish at_ =>
      cases flow.symm.trans at_
  | @released l w _ idle queue flow enough =>
    obtain ⟨rfl, rfl⟩ := moves.of_closing flow
    exact .of_active rfl (n - 1) (by omega) (.released idle queue (.inr ⟨rfl, rfl⟩) (by omega))

/-! ## Step activities -/

theorem seats_iff {i : Nat} {agent : β} : e.Seats i agent ↔ e.agents[i]? = some agent :=
  agentAt_natCast_iff

theorem ErrandStep.onward_of_sending {s t : e.Stage} {x : Scope} {a b : Errand β} {next : Drive}
    {l w n : Nat} (moves : ErrandStep s a t b) (reach : Reachable s) (idle : s.loop.Idle l)
    (queue : s.planner.queue = []) (flow : s.flow = .stepping 1 next) (errands : s.errands = [a])
    (unsent : a.Unsent w) (within : a.order.agentIndex < e.agents.length)
    (enough : p.effort a.order.agentIndex x + next.left p (p.turn a.order.agentIndex x) + 20 + w + l ≤ n) :
    Onward c s { t with errands := [b] } x
      (andThen (p.turn a.order.agentIndex x) fun _ => next.outcome p) n := by
  have sound := reach.recorded.sound (a := a) (by rw [errands]; exact List.mem_cons_self)
  cases moves with
  | find o agent live there =>
    cases unsent
    rw [Errand.order] at enough
    exact .of_active rfl (n - 1) (by omega)
      (.sending (a := .found o agent) idle queue flow rfl (.found o agent) within
        (by rw [Errand.order]; omega))
  | miss o known gone =>
    rw [idle.live reach] at gone
    cases gone
  | noAgent o f live absent =>
    have seats : e.Seats o.agentIndex (e.agents.get ⟨o.agentIndex, within⟩) :=
      seats_iff.mpr (List.getElem?_eq_getElem within)
    rw [reach.made.seats.mpr seats] at absent
    cases absent
  | begin o agent engine =>
    cases unsent
    rw [Errand.order] at enough
    exact .of_active rfl (n - 1) (by omega)
      (.sending (a := .begun o agent) idle queue flow rfl (.begun o agent) within
        (by rw [Errand.order]; omega))
  | unstarted o agent f engine => cases c.engine.mp engine
  | submit o agent =>
    cases unsent
    have single : (s.submit o agent).planner.queue = [.turn (s.submission o agent)] := by
      show s.planner.queue ++ [_] = _
      rw [queue]
      rfl
    have seat : e.agents[o.agentIndex]? = some agent := seats_iff.mp sound
    rw [Errand.order] at enough
    have queued (step : OpenStep) (order : step.order = o) (slot : s.slots.length = step.slot) :
        Active c { s.submit o agent with errands := [.waiting step] } x
          (andThen (p.turn o.agentIndex x) fun _ => next.outcome p) (n - 1) := by
      subst order
      exact .queued idle single flow rfl slot seat (by omega)
    exact .of_active rfl (n - 1) (by omega) (queued _ rfl rfl)
  | wake step turn assigned | finish step turn engine | unfinished step turn f engine => cases unsent

theorem ErrandStep.onward_of_done {s t : e.Stage} {x : Scope} {a b : Errand β} {next : Drive}
    {l w n : Nat} (moves : ErrandStep s a t b) (idle : s.loop.Idle l) (queue : s.planner.queue = [])
    (flow : s.flow = .stepping 1 next) (done : a.Done s w) (enough : next.cost p x + 1 + w + l ≤ n) :
    Onward c s { t with errands := [b] } x (next.outcome p x) n := by
  cases moves with
  | wake step turn assigned =>
    cases done with
    | waiting ok =>
      obtain rfl : .ok () = turn := by simpa using ok.symm.trans assigned
      exact .of_active rfl (n - 1) (by omega) (.done idle queue flow rfl (.ending step) (by omega))
  | finish step turn engine =>
    cases done
    exact .of_active rfl (n - 1) (by omega) (.done idle queue flow rfl (.finished _ _) (by omega))
  | unfinished step turn f engine => cases c.engine.mp engine
  | find o agent live there | miss o known gone | noAgent o f live absent | begin o agent engine
  | unstarted o agent f engine | submit o agent => cases done

theorem ErrandStep.onward {s t : e.Stage} {x : Scope} {o : Scope × Result Unit} {before after : Errand β}
    {i n : Nat} (there : s.errands[i]? = some before) (moves : ErrandStep s before t after)
    (reach : Reachable s) (active : Active c s x o n) :
    Onward c s { t with errands := t.errands.set i after } x o n := by
  have roster := reach.tended.roster
  have nobody (none : s.errands = []) : False := by
    rw [none] at there
    cases there
  have same := moves.slots_frame.1
  cases active with
  | unnamed loop queue enough =>
    rw [reach.tended.early (.inl loop)] at roster
    exact (nobody roster).elim
  | opening loop queue enough =>
    rw [reach.tended.early (.inr loop)] at roster
    exact (nobody roster).elim
  | going idle queue flow enough =>
    rw [flow] at roster
    exact (nobody roster).elim
  | asking idle queue flow asks enough =>
    rw [flow] at roster
    exact (nobody roster).elim
  | answered idle queue flow enough =>
    rw [flow] at roster
    exact (nobody roster).elim
  | reported idle queue flow enough =>
    rw [flow] at roster
    exact (nobody (List.length_eq_zero_iff.mp roster)).elim
  | releasing idle queue flow asks enough =>
    rw [flow] at roster
    exact (nobody roster).elim
  | released idle queue flow enough =>
    rcases flow with ⟨flow, -⟩ | ⟨flow, -⟩
    · rw [flow] at roster
      exact (nobody roster).elim
    · rw [flow] at roster
      exact (nobody roster).elim
  | sending idle queue flow errands unsent within enough =>
    obtain ⟨rfl, rfl⟩ := errand_of_single errands there
    rw [same, errands]
    exact moves.onward_of_sending reach idle queue flow errands unsent within enough
  | done idle queue flow errands done enough =>
    obtain ⟨rfl, rfl⟩ := errand_of_single errands there
    rw [same, errands]
    exact moves.onward_of_done idle queue flow done enough
  | queued idle queue flow errands slot seat enough =>
    obtain ⟨rfl, rfl⟩ := errand_of_single errands there
    have held := mem_held_of_queue queue
    rw [slot] at held
    exact absurd moves (ErrandStep.not_of_held reach held)
  | running loop queue flow errands slot busy enough =>
    obtain ⟨rfl, rfl⟩ := errand_of_single errands there
    have tally := reach.counted.tally
    rw [loop] at tally
    have inTurn := mem_held_of_inTurn (s := s) (by rw [tally.2.1]; exact List.mem_singleton.mpr slot.symm)
    exact absurd moves (ErrandStep.not_of_held reach inTurn)
  | acknowledging loop queue flow errands turn enough =>
    obtain ⟨rfl, rfl⟩ := errand_of_single errands there
    have inTurn := mem_held_of_inTurn (s := s) (by rw [turn]; exact List.mem_cons_self)
    exact absurd moves (ErrandStep.not_of_held reach inTurn)
  | assigning loop queue flow errands enough =>
    obtain ⟨rfl, rfl⟩ := errand_of_single errands there
    have inHand := mem_held_of_inHand (s := s) (by rw [loop]; exact List.mem_cons_self)
    exact absurd moves (ErrandStep.not_of_held reach inHand)

/-! ## Agents -/

theorem Onward.of_perform {s : e.Stage} {x y : Scope} {o : Scope × Result Unit} {batch : List e.Turn}
    {t : e.Turn} {q : (e.behaviour t.submission.agent).State} {i n : Nat} (at_ : s.loop = .running batch)
    (there : batch[i]? = some t) (moves : (e.behaviour t.submission.agent).Step t.state x q y)
    (active : Active c s x o n) :
    Onward c s { s with loop := .running (batch.set i ⟨t.submission, q⟩) } y o n := by
  cases active with
  | @running step turn o next k _ loop queue flow errands slot busy enough =>
    cases loop.symm.trans at_
    obtain rfl : i = 0 := by
      cases i with
      | zero => rfl
      | succ i => cases there
    obtain rfl : turn = t := Option.some.inj there
    obtain ⟨j, seat, busy⟩ := busy
    obtain ⟨k', less, busy'⟩ := (c.simulation seat).step busy moves
    exact .of_active rfl (n - 1) (by omega)
      (.running rfl queue flow errands slot ⟨j, seat, busy'⟩ (by omega))
  | unnamed loop queue enough | opening loop queue enough | acknowledging loop queue flow errands turn enough
  | assigning loop queue flow errands enough => cases loop.symm.trans at_
  | going idle | asking idle | answered idle | sending idle | queued idle | done idle | reported idle
  | releasing idle | released idle =>
    rcases idle with ⟨loop, -⟩ | ⟨loop, -⟩ <;> cases loop.symm.trans at_

end Ensemble
end Rendezvous
