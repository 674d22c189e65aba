import Rendezvous.Proofs.Tables.Meddling

/-!
# The execution of a call from end to end

The call activity looks a call up, performs it, leaves the outcome in its slot and reports (`Act.executeCall`).  What is
performed may do anything: it has a result or fails, with any number of reports in front of its failure, and meanwhile
it, or anybody else, may settle this call or others, forget the run, and so on.

`Act.executeCall_apply` says what the activity comes to, as a function of what performing the call comes to, and
`Act.executeCall_noting` that it performs the call once.  `Act.executeCall_outcome` is the whole contract: for calls that
are not there (`Missed`), and for those that are (`Executed`).
-/

namespace Rendezvous

set_option autoImplicit false

variable {κ α β ω : Type}

/-! ## The failure behind the reports -/

/-- The first failure of a chain that is no report of another one. -/
structure Failure.FirstCause (f cause : Failure) : Prop where
  behind : ∃ reports : List Reason, (∀ x ∈ reports, x.isReport = true) ∧
    f.reason :: f.causes = reports ++ cause.reason :: cause.causes
  own : cause.reason.isReport = false ∨ cause.causes = []

theorem Failure.firstCause_rootCause (f : Failure) : f.FirstCause f.rootCause := by
  refine ⟨?_, isReport_rootCause f⟩
  obtain ⟨reason, causes⟩ := f
  induction causes generalizing reason with
  | nil => exact ⟨[], nofun, rfl⟩
  | cons c causes ih =>
    by_cases report : reason.isReport = true
    · obtain ⟨reports, all, split⟩ := ih c
      have drops : rootCause ⟨reason, c :: causes⟩ = rootCause ⟨c, causes⟩ := if_pos report
      refine ⟨reason :: reports, List.forall_mem_cons.mpr ⟨report, all⟩, ?_⟩
      rw [drops]
      exact congrArg (reason :: ·) split
    · refine ⟨[], nofun, ?_⟩
      rw [rootCause_of_not_report (Bool.not_eq_true _ ▸ report)]
      rfl

/-! ## Performances -/

/-- Whatever is performed is noted: the call, and whether it was guarded. -/
def Performer.noting (h : Performer κ α β ω) : Performer κ α β (ω × List (κ × Bool)) where
  perform k w :=
    let (r, left) := h.perform k { w with host := w.host.1 }
    (r, { left with host := (left.host, w.host.2 ++ [(k, w.context.guarded)]) })
  text := h.text

/-- The world together with what has been noted. -/
def World.noting (w : World κ α β ω) (noted : List (κ × Bool)) : World κ α β (ω × List (κ × Bool)) :=
  { w with host := (w.host, noted) }

/-- What comes of an order whose run or call is not there: the complaint.  Nothing is performed, and nothing changes. -/
structure Missed (h : Performer κ α β ω) (o : CallOrder) (w : World κ α β ω) (complaint : Failure) : Prop where
  fails : Act.executeCall h o w = (.error complaint, w)
  never : ∀ noted, Act.executeCall h.noting o (w.noting noted) = (.error complaint, w.noting noted)

/-- What comes of the order of a call that is there, where performing it has come to this and left the world like
that. -/
structure Executed (h : Performer κ α β ω) (o : CallOrder) (w : World κ α β ω) (t : Nat) (p : Pending κ) (r : Result α)
    (left : World κ α β ω) : Prop where
  /-- The call is performed once, and guarded. -/
  once : ∀ noted, Act.executeCall h.noting o (w.noting noted) =
    ((Act.executeCall h o w).1, (Act.executeCall h o w).2.noting (noted ++ [(p.call, true)]))
  succeeds : ∀ a, r = .ok a → delivered r = .ok a ∧ (Act.executeCall h o w).1 =
    .ok { operation := o.operation, payload := o.payload, resultText := h.text a }
  fails : ∀ f, r = .error f → ∃ cause, f.FirstCause cause ∧ delivered r = .error cause ∧ (Act.executeCall h o w).1 =
    .error (.because (.callExecution o.operation o.runId o.callId) cause)
  /-- The guard and the span are as before; all else is as it was left, but for the call and the tracer. -/
  leaves : (Act.executeCall h o w).2 = {
    context := { left.context with guarded := w.context.guarded, span := w.context.span }
    hub := { left.hub with
      exchange := (Act.executeCall h o w).2.hub.exchange
      tracer := (Act.executeCall h o w).2.hub.tracer }
    host := left.host }
  gone : ((Act.executeCall h o w).2.hub.exchange.table t).call? o.callId = none
  /-- Whatever has been done to the exchange meanwhile, the outcome is in the slot unless another one has been, and
  other calls and slots are left alone. -/
  released : w.hub.exchange.Sound → w.hub.exchange.Meddled t o.callId left.hub.exchange →
    left.hub.exchange.Released t o.callId p (delivered r) (Act.executeCall h o w).2.hub.exchange

/-- Noting what is performed changes nothing else. -/
theorem Act.executeCall_noting {h : Performer κ α β ω} {o : CallOrder} {w : World κ α β ω} {t : Nat} {p : Pending κ}
    (live : w.hub.exchange.tableOf? o.runId = some t) (found : (w.hub.exchange.table t).call? o.callId = some p)
    (noted : List (κ × Bool)) : executeCall h.noting o (w.noting noted) =
      ((executeCall h o w).1, (executeCall h o w).2.noting (noted ++ [(p.call, true)])) := by
  let performed := h.perform p.call (w.executing o)
  have performs : h.noting.perform p.call ((w.noting noted).executing o) =
      (performed.1, performed.2.noting (noted ++ [(p.call, true)])) := rfl
  have applied := executeCall_apply (h := h) live found (r := performed.1) rfl
  rw [executeCall_apply (w := w.noting noted) live found performs, applied]
  rfl

namespace Relay

/-- Whoever runs settles another call, forgets the run, and reports a failure further in. -/
def runner : Performer String Nat Unit Unit where
  perform _ := do
    let _ ← Act.onExchange fun e => e.settle 0 "b" (.ok 2)
    Act.dropRun "run-1"
    throw (.because (.callExecution "inner" "run-0" "x") (.of (.tool "broken")))
  text n := some (toString n)

/-- Three calls of one run are pending. -/
def before : World String Nat Unit Unit where
  hub := {
    exchange := ((((({} : Exchange String Nat).createRun "run-1").registered 0 "a" "first").registered 0 "b"
      "second").registered 0 "c" "third") }
  host := ()

/-- The first of them is ordered. -/
def order : CallOrder := { runId := "run-1", callId := "a", operation := "run" }

theorem arises_before : before.hub.exchange.Arises := by
  have opened : Exchange.Arises (({} : Exchange String Nat).createRun "run-1") := .tail .refl (.createRun "run-1")
  exact ((opened.registered rfl "first").registered rfl "second").registered rfl "third"

end Relay
end Rendezvous
