import Rendezvous.Proofs.Traffic.Order
import Rendezvous.Run.Workflow

/-!
# Calls and the workflows of their runs

The engine hands the event of a call to the workflow of its run, as soon as it is raised or later, as often as it
likes, and also when the caller has been told that it could not.  The workflow takes its events in the order in
which they arrive and has one call executed at a time.  An event that arrives again is taken again, and its
execution does not find the call any more.

What all this amounts to is traffic (`Runs.Step.traffic`), so no result is crossed, lost or doubled
(`Runs.Reachable.uncrossed`).
-/

namespace Rendezvous

set_option autoImplicit false

/-! ## What a workflow knows -/

namespace RunWorkflow

/-- A workflow of a run that has been told only what is `known`: the call that it has ordered is the last that
it was told about. -/
structure Heeds (run : String) (known : RunEvent → Prop) (w : RunWorkflow) : Prop where
  named : w.transcript.runId = run ∨ w.phase = .start
  events : ∀ e ∈ w.events, known e
  ordered : ∀ kind, w.phase = .report kind → ∃ e o, known e ∧ e.isTerminal = false ∧
    (CallOrder.ofEvent run e).toResult = .ok o ∧ w.orders.getLast? = some o

variable {run : String} {known known' : RunEvent → Prop} {w : RunWorkflow}

theorem Heeds.imp (heeds : w.Heeds run known) (more : ∀ e, known e → known' e) : w.Heeds run known' where
  named := heeds.named
  events e there := more e (heeds.events e there)
  ordered kind at_ := by
    obtain ⟨e, o, told, rest⟩ := heeds.ordered kind at_
    exact ⟨e, o, more e told, rest⟩

theorem Heeds.fresh : ({} : RunWorkflow).Heeds run known where
  named := .inr rfl
  events _ none := nomatch none
  ordered _ at_ := nomatch at_

theorem Heeds.take {e : RunEvent} (named : w.transcript.runId = run) (told : known e)
    (events : ∀ e ∈ w.events, known e) : (w.take e).Heeds run known := by
  unfold RunWorkflow.take
  cases terminal : e.isTerminal with
  | true => exact ⟨.inl named, events, fun _ no => nomatch no⟩
  | false =>
    dsimp only
    rw [named]
    cases order : (CallOrder.ofEvent run e).toResult with
    | error f => exact ⟨.inl named, events, fun _ no => nomatch no⟩
    | ok o =>
      refine ⟨.inl named, events, fun kind at_ => ⟨e, o, told, terminal, order, ?_⟩⟩
      exact List.getLast?_concat

theorem Heeds.advance (heeds : w.Heeds run known) : w.advance.Heeds run known := by
  unfold RunWorkflow.advance
  split
  · rename_i e rest at_ queue
    have named : w.transcript.runId = run := heeds.named.resolve_right fun start => nomatch start.symm.trans at_
    have all : ∀ e' ∈ e :: rest, known e' := queue ▸ heeds.events
    exact Heeds.take (w := { w with events := rest }) named (all e (List.mem_cons_self ..))
      fun e' there => all e' (List.mem_cons_of_mem _ there)
  · exact heeds

theorem Heeds.signal {e : RunEvent} (heeds : w.Heeds run known) (told : known e) :
    (w.signal e).Heeds run known := by
  refine Heeds.advance ⟨heeds.named, fun e' there => ?_, heeds.ordered⟩
  rcases List.mem_append.mp there with before | last
  · exact heeds.events e' before
  · exact List.mem_singleton.mp last ▸ told

theorem Heeds.start {s : RunStart} (heeds : w.Heeds run known) (named : s.runId = run) :
    (w.start s).Heeds run known :=
  Heeds.advance ⟨.inl named, heeds.events, fun _ no => nomatch no⟩

theorem Heeds.report (heeds : w.Heeds run known) (r : Result CallReport) : (w.report r).Heeds run known := by
  unfold RunWorkflow.report
  have named {kind : EventKind} (at_ : w.phase = .report kind) : w.transcript.runId = run :=
    heeds.named.resolve_right fun start => nomatch start.symm.trans at_
  split
  · rename_i kind f at_
    exact ⟨.inl (named at_), heeds.events, fun _ no => nomatch no⟩
  · rename_i kind report at_
    exact Heeds.advance ⟨.inl (named at_), heeds.events, fun _ no => nomatch no⟩
  · exact heeds

end RunWorkflow

/-! ## All runs -/

namespace Traffic

variable {ι κ α : Type} {t : Traffic ι κ α}

/-- The calls, and the workflows of all runs. -/
structure Runs (t : Traffic ι κ α) where
  traffic : t.State := {}
  flows : String → RunWorkflow := fun _ => {}

namespace Runs

/-- The call has been registered, so its event is being raised or has been. -/
def Raised (s : t.Runs) (i : ι) : Prop := ∃ n slot stage, (s.traffic.calls i).phase = .registered n slot stage

/-- No call of a run is being executed. -/
def Free (s : t.Runs) (run : String) : Prop :=
  ∀ i, (t.caller i).run = run → (s.traffic.calls i).execution = none

/-- What workflows are told: that their runs have ended, and the events of calls that have been registered. -/
def Known (s : t.Runs) (run : String) (e : RunEvent) : Prop :=
  e = .finish ∨ ∃ i, s.Raised i ∧ (t.caller i).run = run ∧ e = (t.caller i).event

/-- No workflow knows more than it has been told. -/
def Heedful (s : t.Runs) : Prop := ∀ run, (s.flows run).Heeds run (s.Known run)

/-- The state once the workflow of a run has moved on. -/
def flow (s : t.Runs) (run : String) (w : RunWorkflow) : t.Runs :=
  { s with flows := Function.update s.flows run w }

theorem flows_flow_self (s : t.Runs) (run : String) (w : RunWorkflow) : (s.flow run w).flows run = w :=
  Function.update_self ..

theorem flows_flow_of_ne (s : t.Runs) {run other : String} (ne : other ≠ run) (w : RunWorkflow) :
    (s.flow run w).flows other = s.flows other := Function.update_of_ne ne ..

variable {s s' : t.Runs}

theorem Heedful.flow (heedful : Heedful s) {run : String} {w : RunWorkflow} (heeds : w.Heeds run (s.Known run)) :
    Heedful (s.flow run w) := by
  intro other
  by_cases same : other = run
  · subst same
    rw [flows_flow_self]
    exact heeds
  · rw [flows_flow_of_ne s same]
    exact heedful other

/-- What has been registered goes on to be. -/
theorem Heedful.later (heedful : Heedful s) (flows : s'.flows = s.flows)
    (raised : ∀ i, s.Raised i → s'.Raised i) : Heedful s' := by
  intro run
  rw [flows]
  refine (heedful run).imp fun e known => known.imp_right ?_
  rintro ⟨i, there, rest⟩
  exact ⟨i, raised i there, rest⟩

/-- Only calls that have been registered are executed. -/
theorem Heedful.raised (heedful : Heedful s) {i : ι} {kind : EventKind}
    (at_ : (s.flows (t.caller i).run).phase = .report kind)
    (ordered : (s.flows (t.caller i).run).orders.getLast? = some (t.caller i).order) : s.Raised i := by
  obtain ⟨e, o, known, running, order, last⟩ := (heedful _).ordered kind at_
  obtain rfl : o = (t.caller i).order := Option.some.inj (last.symm.trans ordered)
  obtain rfl | ⟨j, raised, run, rfl⟩ := known
  · cases running
  · rw [← run, Caller.toResult_ofEvent_event] at order
    have same : (t.caller j).id = (t.caller i).id := congrArg CallOrder.callId (Except.ok.inj order)
    exact t.fresh same ▸ raised

variable [DecidableEq ι]

/-- The state once the execution of a call has begun or has been reported. -/
def serve (s : t.Runs) (i : ι) (y : Option (Execution κ α)) : t.Runs :=
  { s with traffic := s.traffic.put i s.traffic.exchange { s.traffic.calls i with execution := y } }

/-- A step that somebody takes on behalf of a call, or that concerns a run. -/
inductive Step : t.Runs → Option ι → t.Runs → Prop
  | move {s : t.Runs} {i : ι} {e : Exchange κ α} {x : Call κ α}
      (moves : Moves (t.caller i) t.text s.traffic.exchange (s.traffic.calls i) e x) :
      Step s (some i) { s with traffic := s.traffic.put i e x }
  | createRun {s : t.Runs} (run : String) :
      Step s none { s with traffic := { s.traffic with exchange := s.traffic.exchange.createRun run } }
  | dropRun {s : t.Runs} (run : String) :
      Step s none { s with traffic := { s.traffic with exchange := s.traffic.exchange.dropRun run } }
  /-- The workflow of a run is started; there may have been one before. -/
  | launch {s : t.Runs} (start : RunStart) (at_ : (s.flows start.runId).phase = .start) :
      Step s none (s.flow start.runId ((s.flows start.runId).start start))
  | relaunch {s : t.Runs} {r : Result Transcript} (start : RunStart)
      (at_ : (s.flows start.runId).phase = .nothing r) (free : s.Free start.runId) :
      Step s none (s.flow start.runId (({} : RunWorkflow).start start))
  /-- The engine delivers the event of a call, however often. -/
  | deliver {s : t.Runs} {i : ι} (raised : s.Raised i) :
      Step s (some i) (s.flow (t.caller i).run ((s.flows (t.caller i).run).signal (t.caller i).event))
  | finish {s : t.Runs} (run : String) : Step s none (s.flow run ((s.flows run).signal .finish))
  /-- The call that a workflow has ordered is executed; the calls of a run are executed one at a time. -/
  | execute {s : t.Runs} {i : ι} {kind : EventKind} (at_ : (s.flows (t.caller i).run).phase = .report kind)
      (ordered : (s.flows (t.caller i).run).orders.getLast? = some (t.caller i).order)
      (free : s.Free (t.caller i).run) : Step s (some i) (s.serve i (some .finding))
  | report {s : t.Runs} {i : ι} {y : Execution κ α} {r : Result CallReport}
      (there : (s.traffic.calls i).execution = some y) (past : y.report? = some r) :
      Step s (some i) ((s.serve i none).flow (t.caller i).run ((s.flows (t.caller i).run).report r))

/-- The states that all these steps lead to, in whatever order they are taken. -/
inductive Reachable : t.Runs → Prop
  | opening : Reachable {}
  | step {s s' : t.Runs} {who : Option ι} (reach : Reachable s) (step : Step s who s') : Reachable s'

/-! ## What workflows are told -/

theorem Raised.put {i j : ι} {e : Exchange κ α} {x : Call κ α} (raised : s.Raised j)
    (kept : ∀ n slot stage, (s.traffic.calls i).phase = .registered n slot stage →
      ∃ stage, x.phase = .registered n slot stage) :
    Raised { s with traffic := s.traffic.put i e x } j := by
  obtain ⟨n, slot, stage, registered⟩ := raised
  by_cases same : j = i
  · subst same
    obtain ⟨stage', registered'⟩ := kept n slot stage registered
    refine ⟨n, slot, stage', ?_⟩
    rwa [State.calls_put_self]
  · refine ⟨n, slot, stage, ?_⟩
    rwa [State.calls_put_of_ne _ same]

theorem Raised.serve {i j : ι} {y : Option (Execution κ α)} (raised : s.Raised j) : (s.serve i y).Raised j :=
  raised.put fun _ _ stage registered => ⟨stage, registered⟩

theorem Heedful.serve (heedful : Heedful s) (i : ι) (y : Option (Execution κ α)) : Heedful (s.serve i y) :=
  heedful.later rfl fun _ raised => raised.serve

theorem Step.heedful {who : Option ι} (step : Step s who s') (heedful : Heedful s) : Heedful s' := by
  cases step with
  | move moves => exact heedful.later rfl fun j raised => raised.put fun _ _ _ => moves.stays_registered
  | createRun run => exact heedful.later rfl fun _ => id
  | dropRun run => exact heedful.later rfl fun _ => id
  | launch start at_ => exact heedful.flow ((heedful _).start rfl)
  | relaunch start at_ free => exact heedful.flow (.start .fresh rfl)
  | deliver raised => exact heedful.flow ((heedful _).signal (.inr ⟨_, raised, rfl, rfl⟩))
  | finish run => exact heedful.flow ((heedful run).signal (.inl rfl))
  | execute at_ ordered free => exact heedful.serve _ _
  | report there past => exact (heedful.serve _ none).flow ((heedful.serve _ none _).report _)

/-- What happens with workflows happens in traffic, if it concerns a call at all. -/
theorem Step.traffic {who : Option ι} (step : Step s who s') (heedful : Heedful s) :
    Traffic.Step s.traffic who s'.traffic ∨ s'.traffic = s.traffic := by
  cases step with
  | move moves => exact .inl (.move moves)
  | createRun run => exact .inl (.createRun run)
  | dropRun run => exact .inl (.dropRun run)
  | execute at_ ordered free =>
    obtain ⟨n, slot, stage, registered⟩ := heedful.raised at_ ordered
    exact .inl (.execute registered (free _ rfl))
  | report there past => exact .inl (.report there past)
  | launch start at_ => exact .inr rfl
  | relaunch start at_ free => exact .inr rfl
  | deliver raised => exact .inr rfl
  | finish run => exact .inr rfl

theorem Reachable.heedful (reach : Reachable s) : Heedful s := by
  induction reach with
  | opening => exact fun _ => .fresh
  | step _ step ih => exact step.heedful ih

theorem Reachable.traffic (reach : Reachable s) : Traffic.Reachable s.traffic := by
  induction reach with
  | opening => exact .opening
  | step reach step ih =>
    rcases step.traffic reach.heedful with taken | same
    · exact ih.step taken
    · rwa [same]

/-- Whatever the callers, the executions and the engine do, a caller comes back with what the one performance of
its own call has come to, or with the failure of raising its own event; no captured operation is performed twice;
what it has come to is in the slot once the execution is through, unless the caller has been told that it could
not raise its event; and what is done for one call touches neither the entry nor the slot of another. -/
theorem Reachable.uncrossed (reach : Reachable s) :
    (∀ i r, (s.traffic.calls i).phase.outcome? = some r →
      (∃ out, (s.traffic.calls i).performances = [((t.caller i).call.call, out)] ∧
        (r = delivered out ∨ (s.traffic.calls i).phase = .performed r ∧ r = out)) ∨
      ∃ f, (s.traffic.calls i).raised = some (.error f) ∧ r = .error f) ∧
    (∀ i, (s.traffic.calls i).performances = [] ∨
      ∃ out, (s.traffic.calls i).performances = [((t.caller i).call.call, out)]) ∧
    (∀ i n slot stage call out, (s.traffic.calls i).phase = .registered n slot stage →
      (s.traffic.calls i).performances = [(call, out)] → Resting (s.traffic.calls i).execution →
      s.traffic.exchange.slot slot = .assigned (delivered out) ∨
        ∃ f, (s.traffic.calls i).raised = some (.error f)) ∧
    ∀ who s', Step s who s' → ∀ j, who ≠ some j →
      (∀ m, (s'.traffic.exchange.table m).call? (t.caller j).id =
        (s.traffic.exchange.table m).call? (t.caller j).id) ∧
      ∀ n slot stage, (s.traffic.calls j).phase = .registered n slot stage →
        s'.traffic.exchange.slot slot = s.traffic.exchange.slot slot := by
  refine ⟨fun i r => reach.traffic.answered, reach.traffic.performed_once,
    fun i n slot stage call out => reach.traffic.kept, fun who s' step j other => ?_⟩
  rcases step.traffic reach.heedful with taken | same
  · exact reach.traffic.apart_step taken other
  · rw [same]
    exact ⟨fun _ => rfl, fun _ _ _ _ => rfl⟩

/-! ## An event that arrives twice -/

/-- Two calls of one run. -/
def twoCalls : Traffic Bool Nat Nat where
  caller first := {
    run := "run-1"
    id := if first then "call-1" else "call-2"
    call := { kind := .toolCall, call := if first then 1 else 2, operation := "echo", payload := none } }
  text _ := none
  fresh first second same := by
    cases first <;> cases second <;> first | rfl | (exact absurd same (by decide))

/-- The event of a call arrives twice, and is executed twice. -/
theorem twoCalls_run : ∃ s : twoCalls.Runs, Reachable s ∧
    (s.traffic.calls true).phase = .registered 0 0 (.returned (.ok 5)) ∧
    (s.traffic.calls true).raised = some (.ok ()) ∧
    (s.traffic.calls true).execution = some (.missed (Act.noCall "run-1" "call-1")) := by
  have created := Reachable.opening (t := twoCalls).step (.createRun "run-1")
  have launched := created.step (.launch ⟨"run-1", "agent", none, none⟩ rfl)
  have held := launched.step (.move (i := true) (.hold (n := 0) rfl rfl))
  have registered := held.step (.move (i := true) (.register rfl rfl))
  have delivered := registered.step (.deliver (i := true) ⟨_, _, _, rfl⟩)
  have again := delivered.step (.deliver (i := true) ⟨_, _, _, rfl⟩)
  have accepted := again.step (.move (i := true) (.accept rfl))
  have begun := accepted.step
    (.execute (i := true) rfl rfl fun first _ => by cases first <;> rfl)
  have run := begun.step (.move (i := true) (.findRun (n := 0) rfl rfl))
  have found := run.step (.move (i := true) (.findCall rfl rfl))
  have performed := found.step (.move (i := true) (.execute (.ok 5) rfl))
  have taken := performed.step (.move (i := true) (.takeOut rfl rfl))
  have assigned := taken.step (.move (i := true) (.assign rfl))
  have woken := assigned.step (.move (i := true) (.wake rfl rfl))
  have reported := woken.step (.report (i := true) rfl rfl)
  have begun' := reported.step
    (.execute (i := true) rfl rfl fun first _ => by cases first <;> rfl)
  have run' := begun'.step (.move (i := true) (.findRun (n := 0) rfl rfl))
  have missed := run'.step (.move (i := true) (.missCall rfl rfl))
  exact ⟨_, missed, rfl, rfl, rfl⟩

/-- The second execution has found nothing, and the caller has come back with what the one performance of its call
has come to. -/
theorem delivered_twice : ∃ s : twoCalls.Runs, Reachable s ∧
    (s.traffic.calls true).execution = some (.missed (Act.noCall "run-1" "call-1")) ∧
    ∃ out, (s.traffic.calls true).performances = [(1, out)] ∧ .ok 5 = delivered out := by
  obtain ⟨s, reach, phase, raised, execution⟩ := twoCalls_run
  obtain ⟨answered, -⟩ := reach.uncrossed
  have back : (s.traffic.calls true).phase.outcome? = some (.ok 5) := by rw [phase]; rfl
  refine ⟨s, reach, execution, ?_⟩
  obtain ⟨out, once, arrived | ⟨spot, -⟩⟩ | ⟨f, rejected, -⟩ := answered true _ back
  · exact ⟨out, once, arrived⟩
  · cases phase.symm.trans spot
  · cases raised.symm.trans rejected

end Runs
end Traffic
end Rendezvous
