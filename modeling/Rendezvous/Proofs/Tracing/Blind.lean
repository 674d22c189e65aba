import Rendezvous.Proofs.Requested.Effect
import Rendezvous.Proofs.Tracing.Jobs
import Rendezvous.Tracing.Program

/-!
# Tracing cannot be told

Two worlds that differ in their tracers, and in the spans that the thread is inside of, are the same to what does not ask for
them (`Act.Blind`); that is any call that touches nothing but what there is beside the hub (`Performer.Local.blind`).  They are
the same to the execution of such a call, too, although it opens a span itself (`Act.blind_executeCall`).  Together with what
is known of jobs inside spans: tracing makes no difference, whatever of it fails (`tracing_undisturbed`).
-/

namespace Rendezvous

set_option autoImplicit false

variable {κ α β ω ρ γ : Type}

/-! ## Actions that know nothing of tracing -/

/-- The world as one sees it who knows nothing of tracing. -/
def World.untraced (w : World κ α β ω) : World κ α β ω := w.traced {} none

/-- An action comes to the same, and does the same, whatever the tracer is and wherever it stands. -/
def Act.Blind (x : Act κ α β ω γ) : Prop := ∀ (w : World κ α β ω) (tracer : Tracer) (span : Option TraceContext),
  (x (w.traced tracer span)).1 = (x w).1 ∧ (x (w.traced tracer span)).2.untraced = (x w).2.untraced

section Executions

variable {text : α → Option String} {o : CallOrder} {t : Nat} {r : Result α} {w w' left left' : World κ α β ω}

/-- What an execution leaves, as one sees it who knows nothing of tracing. -/
theorem World.untraced_executed (same : w'.untraced = w.untraced) (lefts : left'.untraced = left.untraced) :
    (w'.executed text o t r left').untraced = (w.executed text o t r left).untraced := by
  let seen (v u : World κ α β ω) : World κ α β ω :=
    { context := { u.context with guarded := v.context.guarded }
      hub := { u.hub with exchange := (u.hub.exchange.settle t o.callId (r.mapError Failure.rootCause)).2 }
      host := u.host }
  have looks (v u : World κ α β ω) : (v.executed text o t r u).untraced = seen v.untraced u.untraced := rfl
  rw [looks, looks, same, lefts]

/-- A call that knows nothing of tracing is executed in the same way, whatever the tracer is. -/
theorem Act.blind_executeCall {h : Performer κ α β ω} (blind : ∀ k, (h.perform k).Blind) (o : CallOrder) :
    (executeCall h o).Blind := by
  intro w tracer span
  let w' := w.traced tracer span
  show (executeCall h o w').1 = _ ∧ (executeCall h o w').2.untraced = _
  rcases live : w.hub.exchange.tableOf? o.runId with _ | t
  · have live' : w'.hub.exchange.tableOf? o.runId = none := live
    rw [executeCall_of_noRun live, executeCall_of_noRun live']
    exact ⟨rfl, rfl⟩
  have live' : w'.hub.exchange.tableOf? o.runId = some t := live
  rcases found : (w.hub.exchange.table t).call? o.callId with _ | p
  · have found' : (w'.hub.exchange.table t).call? o.callId = none := found
    rw [executeCall_of_noCall live found, executeCall_of_noCall live' found']
    exact ⟨rfl, rfl⟩
  have found' : (w'.hub.exchange.table t).call? o.callId = some p := found
  -- inside the span of the order, the two worlds differ in their tracers and spans as they did before
  obtain ⟨result, lefts⟩ := blind p.call (w.executing o) (w'.opened o).2.2 (w'.opened o).2.1
  rcases performs : h.perform p.call (w.executing o) with ⟨r, left⟩
  rcases performs' : h.perform p.call (w'.executing o) with ⟨r', left'⟩
  have executing : w'.executing o = (w.executing o).traced (w'.opened o).2.2 (w'.opened o).2.1 := rfl
  rw [← executing, performs, performs'] at result lefts
  obtain rfl : r' = r := result
  rw [executeCall_apply live found performs, executeCall_apply live' found' performs']
  exact ⟨rfl, World.untraced_executed rfl lefts⟩

/-- However an execution ends, the span is what it was. -/
theorem Act.span_executeCall (h : Performer κ α β ω) (o : CallOrder) (w : World κ α β ω) :
    (executeCall h o w).2.context.span = w.context.span := by
  rcases live : w.hub.exchange.tableOf? o.runId with _ | t
  · rw [executeCall_of_noRun live]
  rcases found : (w.hub.exchange.table t).call? o.callId with _ | p
  · rw [executeCall_of_noCall live found]
  rcases performs : h.perform p.call (w.executing o) with ⟨r, left⟩
  rw [executeCall_apply live found performs]
  rfl

end Executions

/-- Calls that touch nothing but what there is beside the hub know nothing of tracing. -/
theorem Performer.Local.blind {h : Performer κ α β ω} {respond : Responding κ α ω} (only : h.Local respond) (k : κ) :
    (h.perform k).Blind := by
  intro w tracer span
  rw [only k w, only k (w.traced tracer span)]
  exact ⟨rfl, rfl⟩

/-! ## Programs of spans -/

namespace SpanStep

mutual

/-- Whether a step fails is not a matter of the tracer, and after it the context is what it was. -/
theorem perform_result (step : SpanStep) (observation observation' : Option Nat) (s s' : SpanState) :
    (perform observation step s).1 = (perform observation' step s').1 ∧
      (perform observation step s).2.context = s.context := by
  cases step with
  | span name run metadata body catches =>
    rw [perform, perform]
    rcases s.tracer.openSpan name run metadata s.context with ⟨inner, inside, tracer⟩
    rcases s'.tracer.openSpan name run metadata s'.context with ⟨inner', inside', tracer'⟩
    dsimp only
    obtain ⟨same, -⟩ := performAll_result body inner inner'
      (SpanState.noteContext ⟨tracer, inside⟩) (SpanState.noteContext ⟨tracer', inside'⟩)
    rcases done : performAll inner body (SpanState.noteContext ⟨tracer, inside⟩) with ⟨r, left⟩
    rcases done' : performAll inner' body (SpanState.noteContext ⟨tracer', inside'⟩) with ⟨r', left'⟩
    rw [done, done'] at same
    obtain rfl : r = r' := same
    cases r with
    | ok | error => exact ⟨rfl, rfl⟩
  | output | fail | flush | context | default => exact ⟨rfl, rfl⟩
termination_by structural step

theorem performAll_result (steps : List SpanStep) (observation observation' : Option Nat) (s s' : SpanState) :
    (performAll observation steps s).1 = (performAll observation' steps s').1 ∧
      (performAll observation steps s).2.context = s.context := by
  cases steps with
  | nil => exact ⟨rfl, rfl⟩
  | cons step rest =>
    obtain ⟨first, kept⟩ := perform_result step observation observation' s s'
    rw [performAll, performAll]
    rcases done : perform observation step s with ⟨r, s₁⟩
    rcases done' : perform observation' step s' with ⟨r', s₁'⟩
    rw [done, done'] at first
    rw [done] at kept
    obtain rfl : r = r' := first
    cases r with
    | error f => exact ⟨rfl, kept⟩
    | ok =>
      obtain ⟨later, kept'⟩ := performAll_result rest observation observation' s₁ s₁'
      exact ⟨later, kept'.trans kept⟩
termination_by structural steps

end

end SpanStep

/-! ## Jobs, executions and programs -/

/-- Whatever parts of the service are out of order: a job comes to the same and leaves the same state with any tracer, and so do
calls that are executed, with their slots, tables and guards, and programs of spans.  An enabled tracer has the context be that
of the innermost span, wherever somebody looks, and afterwards it is what it was. -/
theorem tracing_undisturbed :
    (∀ (p : Job ω ρ) (around : List Frame) (w : World κ α β (Watched ω)),
      let left := (p.act around w).2
      (∀ tracer,
        let other := p.act around (w.traced tracer w.context.span)
        other.1 = (p.act around w).1 ∧ other.2.host.state = left.host.state) ∧
      left.context = w.context ∧ left.hub = { w.hub with tracer := left.hub.tracer } ∧
      ∃ seen, left.host.sights = w.host.sights ++ seen ∧ (w.hub.tracer.isEnabled = true →
        ∀ outside, w.context.span = Frame.innermost outside around →
          ∀ s ∈ seen, s.context = Frame.innermost outside s.around)) ∧
    (∀ h : Performer κ α β ω, (∀ k, (h.perform k).Blind) → ∀ (o : CallOrder) (w : World κ α β ω),
      let left := (Act.executeCall h o w).2
      (∀ tracer,
        let other := Act.executeCall h o (w.traced tracer w.context.span)
        other.1 = (Act.executeCall h o w).1 ∧ other.2.untraced = left.untraced) ∧
      left.context.span = w.context.span) ∧
    (∀ (steps : List SpanStep) (s : SpanState),
      let left := (SpanStep.performAll none steps s).2
      (∀ tracer, (SpanStep.performAll none steps { s with tracer }).1 = (SpanStep.performAll none steps s).1) ∧
      left.context = s.context) := by
  refine ⟨fun p around w => ?_, fun h blind o w => ?_, fun steps s => ?_⟩
  · obtain ⟨result, state, worked⟩ := p.act_worked around w
    refine ⟨fun tracer => ?_, worked.context, worked.hub, worked.seen⟩
    obtain ⟨result', state', -⟩ := p.act_worked around (w.traced tracer w.context.span)
    exact ⟨result'.trans result.symm, state'.trans state.symm⟩
  · exact ⟨fun tracer => Act.blind_executeCall blind o w tracer w.context.span, Act.span_executeCall h o w⟩
  · exact ⟨fun tracer => (SpanStep.performAll_result steps none none { s with tracer } s).1,
      (SpanStep.performAll_result steps none none s s).2⟩

namespace Outing

/-- Something is done inside of two spans; the inner one, without a run, is left by a failure, which the outer one sees.  By
then no part of the service works. -/
def outing : Job Nat Unit :=
  .span "outer" (some "r") [] (.watch <| .service { start := true, update := true, flush := true } <|
    .span "inner" none [] (.touch (· + 1) fun _ => .record 1 .null <| .watch <| .done (.error (.of (.tool "broken"))))
      fun _ => .flush <| .watch <| .done (.ok ()))
    fun r => .watch <| .done r

/-- The call is a step of counting. -/
def counting : Performer Unit Nat Unit Nat where
  perform _ := fun w => (.ok w.host, { w with host := w.host + 1 })
  text n := some (toString n)

/-- There is a tracer, and a call of a run waits. -/
def hub : Hub Unit Nat Unit where
  exchange := (({} : Exchange Unit Nat).createRun "r").registered 0 "c" ()
  tracer := { client := some { publicKey := "p", secretKey := "s", location := "l" } }

def start : World Unit Nat Unit (Watched Nat) := { hub, host := { state := 0 } }

def waiting : World Unit Nat Unit Nat := { hub, host := 0 }

def order : CallOrder := { runId := "r", callId := "c", operation := "count" }

def outer : TraceContext where
  trace := some (Tracer.traceId "r")
  run := some "r"
  span := "outer"
  observation := some 1

def inner : TraceContext where
  trace := none
  run := none
  span := "inner"
  observation := none

theorem tracing_undisturbed_outing :
    start.hub.tracer.isEnabled = true ∧ (∀ k, (counting.perform k).Blind) ∧
      (outing.act [] (start.traced {} none)).1 = (outing.act [] start).1 ∧ (outing.act [] start).1.isOk = true ∧
      (outing.act [] start).2.host.state = 1 ∧
      (∀ s ∈ (outing.act [] start).2.host.sights, s.context = Frame.innermost none s.around) ∧
      (outing.act [] start).2.host.sights.map (·.context) = [some outer, some inner, some outer, none] ∧
      (Act.executeCall counting order (waiting.traced {} none)).1 = (Act.executeCall counting order waiting).1 ∧
      ((Act.executeCall counting order waiting).2.hub.exchange.slot 0).outcome?.isSome = true := by
  have only : counting.Local fun _ _ n => (.ok n, n + 1) := fun _ _ => rfl
  obtain ⟨works, executes, -⟩ := @tracing_undisturbed Unit Nat Unit Nat Unit
  obtain ⟨same, -, -, seen, sights, right⟩ := works outing [] start
  have sees : ∀ s ∈ (outing.act [] start).2.host.sights, s.context = Frame.innermost none s.around := by
    rw [sights]
    exact right rfl none rfl
  exact ⟨rfl, only.blind, (same {}).1, by decide +kernel, by decide +kernel, sees, by decide +kernel,
    ((executes counting only.blind order waiting).1 {}).1, by decide +kernel⟩

end Outing
end Rendezvous
