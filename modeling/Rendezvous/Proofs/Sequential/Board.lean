import Rendezvous.Agent.Composite

/-!
# What orchestrations leave on the hub

A running agent draws calls, starts runs and takes notes, and most of that is of no concern to an
orchestration.  The board of a hub is what is (`Hub.board`): the planners and how they are found, the slots of
turns, the scopes, and what the engine refuses.  An action `Yields` from one board to another with a
result; there is one such lemma for each operation that an orchestration is made of, and they compose
(`Act.Yields.bind`).
-/

namespace Rendezvous

set_option autoImplicit false

/-- A hub without all that orchestrations have nothing to do with. -/
abbrev Board (β : Type) : Type := Hub Unit Unit β

namespace Hub

variable {κ α β : Type}

/-- What orchestrations have to do with. -/
def board (h : Hub κ α β) : Board β where
  scopes := h.scopes
  planners := h.planners
  livePlanners := h.livePlanners
  turns := h.turns
  plannersDrawn := h.plannersDrawn
  engine := { closedStarts := h.engine.closedStarts, closedEvents := h.engine.closedEvents }

/-- A new slot. -/
def addTurn (h : Hub κ α β) : Hub κ α β := { h with turns := h.turns ++ [.pending] }

/-- Activities find a planner from now on. -/
def enlist (id : String) (n : Nat) (h : Hub κ α β) : Hub κ α β :=
  { h with livePlanners := Entries.put id n h.livePlanners }

/-- Activities do not find a planner any more. -/
def delist (id : String) (h : Hub κ α β) : Hub κ α β :=
  { h with livePlanners := Entries.erase id h.livePlanners }

/-- Change a scope. -/
def modifyScope (n : Nat) (write : Scope → Scope) (h : Hub κ α β) : Hub κ α β :=
  { h with scopes := h.scopes.modify n write }

theorem board_assignTurns (r : Result Unit) (slots : List Nat) (h : Hub κ α β) :
    (slots.foldl (assignTurn r) h).board = slots.foldl (assignTurn r) h.board := by
  induction slots generalizing h with
  | nil => rfl
  | cons slot rest ih => exact ih (h.assignTurn r slot)

/-- There is such a scope, and the engine takes all there is. -/
structure Ready (n : Nat) (h : Hub κ α β) : Prop where
  scope : n < h.scopes.length
  starts : h.engine.closedStarts = []
  events : h.engine.closedEvents = []

end Hub

namespace Engine

/-- Where nothing is closed, workflows are started. -/
theorem start_of_open {e : Engine} (workflow : String) (payload : Value) (id : String)
    (starts : e.closedStarts = []) :
    e.start workflow payload id = .ok { e with
      record := e.record ++ [.started workflow payload id] } := by
  rw [start, starts]
  rfl

/-- Where nothing is closed, events are delivered. -/
theorem raise_of_open {e : Engine} (id : String) (event : RunEvent) (events : e.closedEvents = []) :
    e.raise id event = .ok { e with record := e.record ++ [.raised id event none] } := by
  rw [raise, events]
  rfl

end Engine

namespace Act

variable {κ α β ω γ δ : Type}

/-- From a board, an action comes to a result, and to another board. -/
def Yields (b : Board β) (x : Act κ α β ω γ) (r : Result γ) (b' : Board β) : Prop :=
  ∀ (w : World κ α β ω), w.hub.board = b → (x w).1 = r ∧ (x w).2.hub.board = b'

namespace Yields

variable {b b' b'' : Board β} {x : Act κ α β ω γ} {a : γ} {r : Result γ} {f : γ → Act κ α β ω δ} {e : Failure}

theorem ofResult (r : Result γ) : Yields b (Act.ofResult r : Act κ α β ω γ) r b := fun _ at_ => ⟨rfl, at_⟩

theorem pure (a : γ) : Yields b (Pure.pure a : Act κ α β ω γ) (.ok a) b := ofResult (.ok a)

theorem bind {s : Result δ} (first : Yields b x (.ok a) b') (rest : Yields b' (f a) s b'') :
    Yields b (x >>= f) s b'' := by
  intro w at_
  obtain ⟨result, board⟩ := first w at_
  have both : x w = (.ok a, (x w).2) := Prod.ext result rfl
  rw [bind_apply_of_ok both]
  exact rest _ board

theorem bind_error (first : Yields b x (.error e) b') : Yields b (x >>= f) (.error e) b' := by
  intro w at_
  obtain ⟨result, board⟩ := first w at_
  have both : x w = (.error e, (x w).2) := Prod.ext result rfl
  rw [bind_apply_of_error both]
  exact ⟨rfl, board⟩

/-- What follows a look at the hub may only depend on the board. -/
theorem hub_bind {f : Hub κ α β → Act κ α β ω γ}
    (rest : ∀ (h : Hub κ α β), h.board = b → Yields b (f h) r b') : Yields b (Act.hub >>= f) r b' :=
  fun w at_ => rest w.hub at_ w at_

theorem attempt (inside : Yields b x r b') : Yields b (Act.attempt x) (.ok r) b' := by
  intro w at_
  obtain ⟨rfl, board⟩ := inside w at_
  exact ⟨rfl, board⟩

theorem andFinally {last : Act κ α β ω Unit} (inside : Yields b x r b')
    (after : Yields b' last (.ok ()) b'') : Yields b (Act.andFinally x last) r b'' :=
  bind inside.attempt (bind after (ofResult r))

theorem change (g : World κ α β ω → World κ α β ω)
    (board : ∀ (w : World κ α β ω), w.hub.board = b → (g w).hub.board = b') :
    Yields b (Act.change g) (.ok ()) b' :=
  fun w at_ => ⟨rfl, board w at_⟩

/-- A thread of its own has a context of its own, and the same board. -/
theorem onThread (start : Context) (inside : Yields b x r b') : Yields b (Act.onThread start x) r b' := by
  intro w at_
  exact inside { w with context := start } at_

theorem setRun (run : Option String) : Yields b (Act.setRun run : Act κ α β ω Unit) (.ok ()) b :=
  change _ fun _ at_ => at_

/-! ### Notes and runs -/

theorem noteOrchestration (record : Nat) (g : OrchestrationRecord → OrchestrationRecord) :
    Yields b (Act.noteOrchestration record g : Act κ α β ω Unit) (.ok ()) b :=
  fun _ at_ => ⟨rfl, at_⟩

theorem noteRequest (record : Nat) (q : OrchestrationRequest) :
    Yields b (Act.noteRequest record q : Act κ α β ω Unit) (.ok ()) b :=
  noteOrchestration record _

/-- The engine refuses what it refused before. -/
theorem onEngine (g : Engine → Result Engine) (taken : ∀ (e : Engine),
    e.closedStarts = b.engine.closedStarts → e.closedEvents = b.engine.closedEvents →
    ∃ e' : Engine, g e = .ok e' ∧ e'.closedStarts = e.closedStarts ∧ e'.closedEvents = e.closedEvents) :
    Yields b (Act.onEngine g : Act κ α β ω Unit) (.ok ()) b := by
  refine hub_bind fun h at_ => ?_
  subst at_
  obtain ⟨e', accepted, starts, events⟩ := taken h.engine rfl rfl
  rw [accepted]
  refine bind (ofResult (.ok e')) (change _ fun w at_ => ?_)
  rw [← at_]
  simp only [Hub.board, Hub.mk.injEq, Engine.mk.injEq, true_and, and_true]
  have starts' : w.hub.engine.closedStarts = h.engine.closedStarts :=
    congrArg (fun b => b.engine.closedStarts) at_
  have events' : w.hub.engine.closedEvents = h.engine.closedEvents :=
    congrArg (fun b => b.engine.closedEvents) at_
  exact ⟨starts.trans starts'.symm, events.trans events'.symm⟩

theorem startWorkflow (workflow : String) (payload : Value) (id : String)
    (starts : b.engine.closedStarts = []) :
    Yields b (Act.startWorkflow workflow payload id : Act κ α β ω Unit) (.ok ()) b := by
  refine onEngine _ fun e same _ => ⟨_, Engine.start_of_open workflow payload id (same.trans starts), ?_⟩
  exact ⟨rfl, rfl⟩

theorem dropRun (id : String) : Yields b (Act.dropRun id : Act κ α β ω Unit) (.ok ()) b :=
  fun _ at_ => ⟨rfl, at_⟩

theorem finishRun (id : String) (events : b.engine.closedEvents = []) :
    Yields b (Act.finishRun id : Act κ α β ω Unit) (.ok ()) b := by
  refine andFinally (onEngine _ fun e _ same => ?_) (dropRun id)
  exact ⟨_, Engine.raise_of_open id .finish (same.trans events), rfl, rfl⟩

end Yields

/-- From a board, an action comes to some result, and to another board. -/
def Gets (b : Board β) (x : Act κ α β ω γ) (b' : Board β) : Prop :=
  ∀ (w : World κ α β ω), w.hub.board = b → ∃ a, (x w).1 = .ok a ∧ (x w).2.hub.board = b'

namespace Yields

variable {b b' b'' : Board β} {x : Act κ α β ω γ} {a : γ} {f : γ → Act κ α β ω δ}

theorem gets (leads : Yields b x (.ok a) b') : Gets b x b' := fun w at_ => ⟨a, leads w at_⟩

theorem bind_gets (first : Yields b x (.ok a) b') (rest : Gets b' (f a) b'') : Gets b (x >>= f) b'' := by
  intro w at_
  obtain ⟨result, board⟩ := first w at_
  have both : x w = (.ok a, (x w).2) := Prod.ext result rfl
  rw [bind_apply_of_ok both]
  exact rest _ board

end Yields

namespace Gets

variable {b b' b'' : Board β} {x : Act κ α β ω γ} {f : γ → Act κ α β ω δ}

theorem bind {s : Result δ} (first : Gets b x b') (rest : ∀ a, Yields b' (f a) s b'') :
    Yields b (x >>= f) s b'' := by
  intro w at_
  obtain ⟨a, result, board⟩ := first w at_
  have both : x w = (.ok a, (x w).2) := Prod.ext result rfl
  rw [bind_apply_of_ok both]
  exact rest a _ board

theorem bind_gets (first : Gets b x b') (rest : ∀ a, Gets b' (f a) b'') : Gets b (x >>= f) b'' := by
  intro w at_
  obtain ⟨a, result, board⟩ := first w at_
  have both : x w = (.ok a, (x w).2) := Prod.ext result rfl
  rw [bind_apply_of_ok both]
  exact rest a _ board

theorem drawRun : Gets b (Act.drawRun : Act κ α β ω String) b := fun _ at_ => ⟨_, rfl, at_⟩

theorem newOrchestration (id : String) : Gets b (Act.newOrchestration id : Act κ α β ω Nat) b :=
  fun _ at_ => ⟨_, rfl, at_⟩

theorem startRun (name : String) (userMessage systemMessage run : Option String)
    (starts : b.engine.closedStarts = []) :
    Gets b (Act.startRun name userMessage systemMessage run : Act κ α β ω String) b := by
  have register (id : String) : Yields b (Act.onExchange fun e => ((), e.createRun id) : Act κ α β ω Unit)
      (.ok ()) b := fun _ at_ => ⟨rfl, at_⟩
  have start (id : String) (payload : Value) : Yields b
      (Act.attempt (Act.startWorkflow Names.runWorkflow payload id) : Act κ α β ω (Result Unit))
      (.ok (.ok ())) b := (Yields.startWorkflow _ payload id starts).attempt
  unfold Act.startRun
  cases Text.given? run with
  | some id =>
    refine Yields.bind_gets (Yields.pure id) ?_
    refine Yields.bind_gets (register id) ?_
    exact Yields.bind_gets (start id _) (Yields.pure id).gets
  | none =>
    refine drawRun.bind_gets fun id => ?_
    refine Yields.bind_gets (register id) ?_
    exact Yields.bind_gets (start id _) (Yields.pure id).gets

end Gets

/-! ### Planners -/

namespace Yields

variable {b b' : Board β} {x : Act κ α β ω γ}

theorem changeHub {g : Hub κ α β → Hub κ α β}
    (board : ∀ (h : Hub κ α β), h.board = b → (g h).board = b') :
    Yields b (Act.changeHub g : Act κ α β ω Unit) (.ok ()) b' :=
  change _ fun w at_ => board w.hub at_

theorem planner (n : Nat) : Yields b (Act.planner n : Act κ α β ω (Planner β)) (.ok (b.planner n)) b :=
  hub_bind fun h at_ => at_ ▸ pure (h.planner n)

theorem scope (n : Nat) : Yields b (Act.scope n : Act κ α β ω Scope) (.ok (b.scope n)) b :=
  hub_bind fun h at_ => at_ ▸ pure (h.scope n)

theorem setPlanner (n : Nat) (p : Planner β) :
    Yields b (Act.setPlanner n p : Act κ α β ω Unit) (.ok ()) (b.setPlanner n p) :=
  changeHub fun _ at_ => at_ ▸ rfl

/-- The next id is drawn, and the next number is taken. -/
theorem newPlanner {plan : PlannerPlan} (unnamed : plan.id = "") :
    Yields b (Act.newPlanner plan : Act κ α β ω Nat) (.ok b.planners.length)
      { b with
        plannersDrawn := b.plannersDrawn + 1
        planners :=
          b.planners ++ [{ plan := { plan with id := "planner-" ++ toString (b.plannersDrawn + 1) } }] } := by
  intro w at_
  subst at_
  unfold Act.newPlanner
  rw [unnamed]
  exact ⟨rfl, rfl⟩

theorem initPlanner (n : Nat) (agents : List β) (scope : Nat) :
    Yields b (Act.initPlanner n agents scope : Act κ α β ω Unit) (.ok ())
      ((b.setPlanner n ((b.planner n).init agents scope)).enlist (b.planner n).plan.id n) :=
  bind (planner n) (bind (setPlanner n _) (changeHub fun _ at_ => at_ ▸ rfl))

theorem leavePlanner (n : Nat) :
    Yields b (Act.leavePlanner n : Act κ α β ω Unit) (.ok ()) (b.delist (b.planner n).plan.id) :=
  bind (setRun none) (bind (planner n) (changeHub fun _ at_ => at_ ▸ rfl))

theorem findPlanner {id : String} {n : Nat} (live : Entries.get? id b.livePlanners = some n) :
    Yields b (Act.findPlanner id : Act κ α β ω Nat) (.ok n) b := by
  refine hub_bind fun h at_ => ?_
  subst at_
  have live' : Entries.get? id h.livePlanners = some n := live
  simp only [live']
  exact pure n

/-! ### The side of the activities -/

theorem submit (n : Nat) (agent : β) (run : Option String) :
    Yields b (Act.submit n agent run : Act κ α β ω Nat) (.ok b.turns.length)
      (b.addTurn.setPlanner n ((b.planner n).submit { agent, slot := b.turns.length, run })) := by
  intro w at_
  subst at_
  exact ⟨rfl, rfl⟩

/-- A step begins: its agent is submitted. -/
theorem beginStep (profile : β → Profile) {o : StepOrder} {n : Nat} {agent : β}
    (live : Entries.get? o.plannerId b.livePlanners = some n)
    (there : (b.planner n).agentAt o.agentIndex = .ok agent) (starts : b.engine.closedStarts = []) :
    Yields b (Act.beginStep profile o : Act κ α β ω OpenStep)
      (.ok { order := o, agentName := (profile agent).name, slot := b.turns.length })
      (b.addTurn.setPlanner n
        ((b.planner n).submit { agent, slot := b.turns.length, run := some o.runId })) := by
  refine bind (findPlanner live) (bind (planner n) ?_)
  rw [there]
  exact (Gets.startRun _ _ _ _ starts).bind fun _ => bind (submit n agent _) (pure _)

/-- A step ends as the turn of its agent did. -/
theorem endStep {s : OpenStep} {r : Result Unit} (assigned : b.turns[s.slot]? = some (.assigned r))
    (events : b.engine.closedEvents = []) :
    Yields b (Act.endStep s : Act κ α β ω StepReport) (r.map fun _ => s.report) b := by
  have outcome :
      Yields b (do Act.ofSlot ((← Act.hub).turns.getD s.slot .pending) : Act κ α β ω Unit) r b := by
    refine hub_bind fun h at_ => ?_
    subst at_
    have assigned' : h.turns[s.slot]? = some (.assigned r) := assigned
    rw [List.getD_eq_getElem?_getD, assigned']
    exact ofResult r
  have ended := andFinally outcome (finishRun s.order.runId events)
  cases r with
  | ok u => exact bind ended (pure _)
  | error f => exact bind_error ended

theorem askExit {o : ExitOrder} {n : Nat} (live : Entries.get? o.plannerId b.livePlanners = some n) :
    Yields b (Act.askExit o : Act κ α β ω Bool) ((b.planner n).checkExit b.scope o.iteration) b := by
  refine hub_bind fun h at_ => bind (findPlanner live) ?_
  subst at_
  exact ofResult _

theorem askCondition {o : ConditionOrder} {n : Nat}
    (live : Entries.get? o.plannerId b.livePlanners = some n) :
    Yields b (Act.askCondition o : Act κ α β ω Bool)
      ((b.planner n).checkCondition b.scope o.agentIndex) b := by
  refine hub_bind fun h at_ => bind (findPlanner live) ?_
  subst at_
  exact ofResult _

theorem completePlanner {id : String} {n : Nat} (live : Entries.get? id b.livePlanners = some n) :
    Yields b (Act.completePlanner id : Act κ α β ω Unit) (.ok ())
      (b.setPlanner n (b.planner n).complete) := by
  refine hub_bind fun h at_ => ?_
  subst at_
  have live' : Entries.get? id h.livePlanners = some n := live
  rw [live']
  exact bind (planner n) (setPlanner n _)

/-- A planner that is gone is not told anything. -/
theorem completePlanner_of_gone {id : String} (gone : Entries.get? id b.livePlanners = none) :
    Yields b (Act.completePlanner id : Act κ α β ω Unit) (.ok ()) b := by
  refine hub_bind fun h at_ => ?_
  subst at_
  have gone' : Entries.get? id h.livePlanners = none := gone
  rw [gone']
  exact pure ()

/-! ### The side of the loop -/

theorem assignTurns (slots : List Nat) (r : Result Unit) :
    Yields b (Act.changeHub fun h => slots.foldl (Hub.assignTurn r) h : Act κ α β ω Unit) (.ok ())
      (slots.foldl (Hub.assignTurn r) b) :=
  changeHub fun h at_ => at_ ▸ Hub.board_assignTurns r slots h

theorem look_of_empty {n : Nat} (empty : (b.planner n).queue = []) :
    Yields b (Act.look n : Act κ α β ω (Option (LoopAction β))) (.ok none) b := by
  refine bind (planner n) ?_
  rw [(b.planner n).drain_eq_none_iff.mpr empty]
  exact pure none

theorem look_of_batch {n : Nat} {batch : List (Submission β)} {p : Planner β}
    (drained : (b.planner n).drain = some (.call batch, p)) :
    Yields b (Act.look n : Act κ α β ω (Option (LoopAction β))) (.ok (some (.call batch)))
      (b.setPlanner n p) := by
  refine bind (planner n) ?_
  rw [drained]
  refine bind (setPlanner n p) ?_
  cases Planner.boundRun (.call batch) with
  | none => exact pure _
  | some run => exact bind (setRun _) (pure _)

theorem look_of_done {n : Nat} {p : Planner β} (drained : (b.planner n).drain = some (.done, p)) :
    Yields b (Act.look n : Act κ α β ω (Option (LoopAction β))) (.ok (some .done))
      ((b.setPlanner n p).delist ((b.setPlanner n p).planner n).plan.id) := by
  refine bind (planner n) ?_
  rw [drained]
  exact bind (setPlanner n p) (bind (leavePlanner n) (pure _))

end Yields
end Act
end Rendezvous
