import Rendezvous.Proofs.Traffic.Calls

/-!
# What becomes of a call

A call that has been registered is in the table of its run, with its slot, until somebody takes it out: the
execution that has performed it, which then assigns the slot, or its caller, who could not raise the event and
then fails the slot (`Fate`).  Whoever takes it out is the only one who assigns the slot, so the caller finds
what the one performance of its own call has come to (`Moves.standing`), and what anybody does for one call
touches neither the entry nor the slot of another (`Moves.frame`).
-/

namespace Rendezvous

set_option autoImplicit false

variable {ι κ α : Type} {c : Caller κ} {text : α → Option String} {e e' : Exchange κ α} {x x' : Call κ α}
  {n slot : Nat}

/-! ## What is true of one call -/

/-- No table has the call. -/
def Absent (c : Caller κ) (e : Exchange κ α) : Prop := ∀ m, (e.table m).call? c.id = none

/-- One table has the call, with what was captured and with its slot. -/
structure Present (c : Caller κ) (n slot : Nat) (e : Exchange κ α) : Prop where
  here : (e.table n).call? c.id = some ⟨c.call.call, slot⟩
  elsewhere : ∀ m, m ≠ n → (e.table m).call? c.id = none

/-- An execution that has not come to the call yet, or is through with it. -/
def Resting : Option (Execution κ α) → Prop
  | none | some .finding | some (.holding _) | some (.missed _) | some (.ended _) => True
  | _ => False

/-- The call is not performed twice, and an execution that has performed it is about to take it out. -/
inductive Unsettled (c : Caller κ) (n slot : Nat) : Option (Execution κ α) → List (κ × Result α) → Prop
  | untouched {x : Option (Execution κ α)} (resting : Resting x) : Unsettled c n slot x []
  | performing : Unsettled c n slot (some (.performing n ⟨c.call.call, slot⟩)) []
  | settling (out : Result α) : Unsettled c n slot (some (.settling n out)) [(c.call.call, out)]

/-- The same once the call has been taken out by somebody else: then an execution may be through with it. -/
inductive Overtaken (c : Caller κ) (n slot : Nat) : Option (Execution κ α) → List (κ × Result α) → Prop
  | unsettled {x : Option (Execution κ α)} {done : List (κ × Result α)} (still : Unsettled c n slot x done) :
      Overtaken c n slot x done
  | late {x : Option (Execution κ α)} (out : Result α) (resting : Resting x) :
      Overtaken c n slot x [(c.call.call, out)]

/-- What has become of a call that has been registered. -/
inductive Fate (α : Type) where
  | entered
  /-- An execution has taken it out and has still to assign its slot. -/
  | taken
  | settled (out : Result α)
  /-- Its caller has taken it out and has still to fail its slot. -/
  | retracted
  | failed (f : Failure)

/-- Its entry, its slot, its execution and its performances then. -/
inductive Lot (c : Caller κ) (n slot : Nat) (e : Exchange κ α) :
    Fate α → Option (Execution κ α) → List (κ × Result α) → Prop
  | entered {x : Option (Execution κ α)} {done : List (κ × Result α)} (present : Present c n slot e)
      (pending : e.slot slot = .pending) (unsettled : Unsettled c n slot x done) : Lot c n slot e .entered x done
  | taken (out : Result α) (absent : Absent c e) (pending : e.slot slot = .pending) :
      Lot c n slot e .taken (some (.assigning slot out)) [(c.call.call, out)]
  | settled {x : Option (Execution κ α)} (out : Result α) (absent : Absent c e)
      (assigned : e.slot slot = .assigned (delivered out)) (resting : Resting x) :
      Lot c n slot e (.settled out) x [(c.call.call, out)]
  | retracted {x : Option (Execution κ α)} {done : List (κ × Result α)} (absent : Absent c e)
      (pending : e.slot slot = .pending) (overtaken : Overtaken c n slot x done) :
      Lot c n slot e .retracted x done
  | failed {x : Option (Execution κ α)} {done : List (κ × Result α)} (f : Failure) (absent : Absent c e)
      (assigned : e.slot slot = .assigned (.error f)) (overtaken : Overtaken c n slot x done) :
      Lot c n slot e (.failed f) x done

/-- What may have become of a call where its caller stands. -/
def Stage.Allows (slot : Nat) : Stage α → Fate α → Prop
  | .raising, fate | .failing _, fate | .waiting, fate =>
    fate = .entered ∨ fate = .taken ∨ ∃ out, fate = .settled out
  | .retracted own _, fate => own = slot ∧ fate = .retracted
  | .gaveUp f, fate => fate = .taken ∨ (∃ out, fate = .settled out) ∨ fate = .failed f
  | .returned r, fate => ∃ out, fate = .settled out ∧ r = delivered out

/-- What has come of raising the event where a caller stands. -/
def Stage.raised : Stage α → Option (Result Unit)
  | .raising => none
  | .waiting | .returned _ => some (.ok ())
  | .failing f | .retracted _ f | .gaveUp f => some (.error f)

/-- A call before it is registered. -/
structure Early (c : Caller κ) (e : Exchange κ α) (x : Call κ α) : Prop where
  absent : Absent c e
  unraised : x.raised = none
  free : x.execution = none
  unperformed : x.performances = []

theorem Early.moved (early : Early c e x) {phase : Phase α} : Early c e { x with phase } :=
  ⟨early.absent, early.unraised, early.free, early.unperformed⟩

/-- All there is to a call is as it should be. -/
def InOrder (c : Caller κ) (e : Exchange κ α) (x : Call κ α) : Prop :=
  match x.phase with
  | .idle | .onSpot => Early c e x
  | .holding n => n < e.tables.length ∧ Early c e x
  | .refused _ => False
  | .performed r => Absent c e ∧ x.execution = none ∧ x.performances = [(c.call.call, r)]
  | .registered n slot stage => slot < e.slots.length ∧ x.raised = stage.raised ∧
      ∃ fate, stage.Allows slot fate ∧ Lot c n slot e fate x.execution x.performances

/-! ## What a step does to its own call -/

/-- Only the table of the call itself is to be looked at. -/
theorem Present.call?_eq {p : Pending κ} (present : Present c n slot e) {m : Nat}
    (found : (e.table m).call? c.id = some p) : m = n ∧ p = ⟨c.call.call, slot⟩ := by
  by_cases same : m = n
  · rw [same, present.here] at found
    exact ⟨same, (Option.some.inj found).symm⟩
  · rw [present.elsewhere m same] at found
    cases found

theorem Present.takeOut (present : Present c n slot e) : Absent c (e.takeOut n c.id) := by
  intro m
  by_cases same : m = n
  · rw [same]
    exact Exchange.call?_takeOut_self
  · rw [Exchange.call?_takeOut_elsewhere same]
    exact present.elsewhere m same

theorem Absent.assign (absent : Absent c e) (k : Nat) (outcome : Result α) : Absent c (e.assign k outcome).2 :=
  absent

theorem Absent.register (absent : Absent c e) (inside : n < e.tables.length) :
    Present c n e.slots.length (e.registered n c.id c.call.call) where
  here := Exchange.call?_registered inside c.id c.call.call
  elsewhere m other := (Exchange.call?_registered_elsewhere other _).trans (absent m)

/-- How an execution may change what has become of a call. -/
inductive Fate.Next : Fate α → Fate α → Prop
  | same (fate : Fate α) : Next fate fate
  | take : Next .entered .taken
  | settle (out : Result α) : Next .taken (.settled out)

theorem Stage.Allows.next {stage : Stage α} {fate fate' : Fate α} (allows : stage.Allows slot fate)
    (next : fate.Next fate') : stage.Allows slot fate' := by
  cases next with
  | same => exact allows
  | take => cases stage <;> simp_all [Stage.Allows]
  | settle out => cases stage <;> simp_all [Stage.Allows]

/-- Only calls that have been registered are executed. -/
theorem InOrder.registered (standing : InOrder c e x) {y : Execution κ α} (busy : x.execution = some y) :
    ∃ n slot stage, x.phase = .registered n slot stage := by
  unfold InOrder at standing
  split at standing
  · cases standing.free.symm.trans busy
  · cases standing.free.symm.trans busy
  · cases standing.2.free.symm.trans busy
  · cases standing
  · cases standing.2.1.symm.trans busy
  · exact ⟨_, _, _, ‹_›⟩

/-- An execution goes on as its call allows. -/
theorem InOrder.act (standing : InOrder c e x) {y : Execution κ α} (busy : x.execution = some y)
    (slots : e'.slots.length = e.slots.length) {y' : Execution κ α} {done : List (κ × Result α)}
    (acts : ∀ n slot fate, slot < e.slots.length → Lot c n slot e fate (some y) x.performances →
      ∃ fate', fate.Next fate' ∧ Lot c n slot e' fate' (some y') done) :
    InOrder c e' { x with execution := some y', performances := done } := by
  obtain ⟨n, slot, stage, at_⟩ := standing.registered busy
  simp only [InOrder, at_] at standing ⊢
  obtain ⟨inside, told, fate, allows, lot⟩ := standing
  rw [busy] at lot
  obtain ⟨fate', next, lot'⟩ := acts n slot fate inside lot
  exact ⟨slots ▸ inside, told, fate', allows.next next, lot'⟩

/-- An execution that has not come to the call goes on without it. -/
theorem Lot.rest {fate : Fate α} {y y' : Option (Execution κ α)} {done : List (κ × Result α)}
    (lot : Lot c n slot e fate y done) (before : Resting y) (after : Resting y') :
    Lot c n slot e fate y' done := by
  have unsettled {done : List (κ × Result α)} (still : Unsettled c n slot y done) :
      Unsettled c n slot y' done := by
    cases still with
    | untouched => exact .untouched after
    | performing => exact before.elim
    | settling out => exact before.elim
  have overtaken {done : List (κ × Result α)} (late : Overtaken c n slot y done) :
      Overtaken c n slot y' done := by
    cases late with
    | unsettled still => exact .unsettled (unsettled still)
    | late out => exact .late out after
  cases lot with
  | entered present pending still => exact .entered present pending (unsettled still)
  | taken out => exact before.elim
  | settled out absent assigned => exact .settled out absent assigned after
  | retracted absent pending late => exact .retracted absent pending (overtaken late)
  | failed f absent assigned late => exact .failed f absent assigned (overtaken late)

/-- A call that is not being executed may begin to be, or stop. -/
theorem InOrder.rest (standing : InOrder c e x) {stage : Stage α} (registered : x.phase = .registered n slot stage)
    {y : Option (Execution κ α)} (before : Resting x.execution) (after : Resting y) :
    InOrder c e { x with execution := y } := by
  simp only [InOrder, registered] at standing ⊢
  obtain ⟨inside, told, fate, allows, lot⟩ := standing
  exact ⟨inside, told, fate, allows, lot.rest before after⟩

theorem Execution.resting_of_report {y : Execution κ α} {r : Result CallReport} (past : y.report? = some r) :
    Resting (some y) := by
  cases y with
  | missed f => trivial
  | ended r => trivial
  | finding | holding | performing | settling | assigning => cases past

theorem Lot.performances_of_settled {y : Option (Execution κ α)} {done : List (κ × Result α)} {out : Result α}
    (lot : Lot c n slot e (.settled out) y done) : done = [(c.call.call, out)] := by
  cases lot with
  | settled => rfl

/-- Once an execution is through with the call that it has performed, the slot is assigned, unless the caller has
taken the call out. -/
theorem Lot.kept {fate : Fate α} {y : Option (Execution κ α)} {call : κ} {out : Result α}
    (lot : Lot c n slot e fate y [(call, out)]) (through : Resting y) :
    e.slot slot = .assigned (delivered out) ∨ fate = .retracted ∨ ∃ f, fate = .failed f := by
  cases lot with
  | entered present pending still =>
    cases still with
    | settling => exact through.elim
  | taken => exact through.elim
  | settled out absent assigned => exact .inl assigned
  | retracted => exact .inr (.inl rfl)
  | failed f => exact .inr (.inr ⟨f, rfl⟩)

theorem Unsettled.performed_once {y : Option (Execution κ α)} {done : List (κ × Result α)}
    (still : Unsettled c n slot y done) : done = [] ∨ ∃ out, done = [(c.call.call, out)] := by
  cases still with
  | untouched resting => exact .inl rfl
  | performing => exact .inl rfl
  | settling out => exact .inr ⟨out, rfl⟩

theorem Overtaken.performed_once {y : Option (Execution κ α)} {done : List (κ × Result α)}
    (late : Overtaken c n slot y done) : done = [] ∨ ∃ out, done = [(c.call.call, out)] := by
  cases late with
  | unsettled still => exact still.performed_once
  | late out resting => exact .inr ⟨out, rfl⟩

theorem Lot.performed_once {fate : Fate α} {y : Option (Execution κ α)} {done : List (κ × Result α)}
    (lot : Lot c n slot e fate y done) : done = [] ∨ ∃ out, done = [(c.call.call, out)] := by
  cases lot with
  | entered present pending still => exact still.performed_once
  | taken out => exact .inr ⟨out, rfl⟩
  | settled out => exact .inr ⟨out, rfl⟩
  | retracted absent pending late => exact late.performed_once
  | failed f absent assigned late => exact late.performed_once

theorem Overtaken.of_busy {y : Execution κ α} {done : List (κ × Result α)}
    (late : Overtaken c n slot (some y) done) (busy : ¬ Resting (some y)) : Unsettled c n slot (some y) done := by
  cases late with
  | unsettled still => exact still
  | late out resting => exact (busy resting).elim

/-- What is performed is what was captured, and it has not been performed before. -/
theorem Unsettled.execute {m : Nat} {p : Pending κ} {done : List (κ × Result α)}
    (still : Unsettled c n slot (some (.performing m p)) done) (out : Result α) :
    Unsettled c n slot (some (.settling m out)) (done ++ [(p.call, out)]) := by
  cases still with
  | untouched resting => exact resting.elim
  | performing => exact .settling out

theorem Unsettled.comeLate {m : Nat} {out : Result α} {report : Result CallReport} {done : List (κ × Result α)}
    (still : Unsettled c n slot (some (.settling m out)) done) :
    Overtaken c n slot (some (.ended report)) done := by
  cases still with
  | untouched resting => exact resting.elim
  | settling => exact .late out trivial

theorem Unsettled.not_assigning {own : Nat} {out : Result α} {done : List (κ × Result α)}
    (still : Unsettled c n slot (some (.assigning own out)) done) : False := by
  cases still with
  | untouched resting => exact resting

/-- Whoever finds the call finds what was captured; its slot is pending, and it is not through. -/
theorem Lot.of_found {fate : Fate α} {y : Option (Execution κ α)} {m : Nat} {p : Pending κ}
    {done : List (κ × Result α)} (lot : Lot c n slot e fate y done)
    (found : (e.table m).call? c.id = some p) : fate = .entered ∧ m = n ∧ p = ⟨c.call.call, slot⟩ ∧
      Present c n slot e ∧ e.slot slot = .pending ∧ Unsettled c n slot y done := by
  cases lot with
  | entered present pending still =>
    obtain ⟨same, captured⟩ := present.call?_eq found
    exact ⟨rfl, same, captured, present, pending, still⟩
  | taken out absent => cases (absent m).symm.trans found
  | settled out absent => cases (absent m).symm.trans found
  | retracted absent => cases (absent m).symm.trans found
  | failed f absent => cases (absent m).symm.trans found

theorem Lot.of_gone {fate : Fate α} {y : Option (Execution κ α)} {done : List (κ × Result α)}
    (lot : Lot c n slot e fate y done) (gone : (e.table n).call? c.id = none) : fate ≠ .entered := by
  rintro rfl
  cases lot with
  | entered present => cases gone.symm.trans present.here

theorem Lot.of_assigned {fate : Fate α} {y : Option (Execution κ α)} {done : List (κ × Result α)}
    {r : Result α} (lot : Lot c n slot e fate y done) (assigned : e.slot slot = .assigned r) :
    (∃ out, fate = .settled out ∧ r = delivered out) ∨ ∃ f, fate = .failed f ∧ r = .error f := by
  cases lot with
  | entered present pending => cases pending.symm.trans assigned
  | taken out absent pending => cases pending.symm.trans assigned
  | settled out absent first => exact .inl ⟨out, rfl, Slot.assigned.inj (assigned.symm.trans first)⟩
  | retracted absent pending => cases pending.symm.trans assigned
  | failed f absent first => exact .inr ⟨f, rfl, Slot.assigned.inj (assigned.symm.trans first)⟩

theorem Lot.fail {y : Option (Execution κ α)} {done : List (κ × Result α)}
    (lot : Lot c n slot e .retracted y done) (inside : slot < e.slots.length) (f : Failure) :
    Lot c n slot (e.assign slot (.error f)).2 (.failed f) y done := by
  cases lot with
  | retracted absent pending late =>
    exact .failed f (absent.assign _ _) (Exchange.slot_assign_self inside pending _) late

theorem Lot.find {fate : Fate α} {m : Nat} {p : Pending κ} {done : List (κ × Result α)}
    (lot : Lot c n slot e fate (some (.holding m)) done) (found : (e.table m).call? c.id = some p) :
    Lot c n slot e fate (some (.performing m p)) done := by
  obtain ⟨rfl, rfl, rfl, present, pending, still⟩ := lot.of_found found
  cases still with
  | untouched => exact .entered present pending .performing

theorem Lot.execute {fate : Fate α} {m : Nat} {p : Pending κ} {done : List (κ × Result α)}
    (lot : Lot c n slot e fate (some (.performing m p)) done) (out : Result α) :
    Lot c n slot e fate (some (.settling m out)) (done ++ [(p.call, out)]) := by
  cases lot with
  | entered present pending still => exact .entered present pending (still.execute out)
  | settled out' absent assigned resting => exact resting.elim
  | retracted absent pending late => exact .retracted absent pending (.unsettled ((late.of_busy id).execute out))
  | failed f absent assigned late => exact .failed f absent assigned (.unsettled ((late.of_busy id).execute out))

/-- Once performed, the call is taken out with its own slot. -/
theorem Lot.takeOut {fate : Fate α} {m : Nat} {p : Pending κ} {out : Result α} {done : List (κ × Result α)}
    (lot : Lot c n slot e fate (some (.settling m out)) done) (found : (e.table m).call? c.id = some p) :
    ∃ fate', fate.Next fate' ∧ Lot c n slot (e.takeOut m c.id) fate' (some (.assigning p.slot out)) done := by
  obtain ⟨rfl, rfl, rfl, present, pending, still⟩ := lot.of_found found
  cases still with
  | untouched resting => exact resting.elim
  | settling => exact ⟨.taken, .take, .taken out present.takeOut pending⟩

/-- Where the call has been taken out by its caller, the execution leaves it at that. -/
theorem Lot.comeLate {fate : Fate α} {m : Nat} {out : Result α} {report : Result CallReport}
    {done : List (κ × Result α)} (lot : Lot c n slot e fate (some (.settling m out)) done)
    (gone : (e.table m).call? c.id = none) : Lot c n slot e fate (some (.ended report)) done := by
  cases lot with
  | entered present pending still =>
    cases still with
    | untouched resting => exact resting.elim
    | settling => cases gone.symm.trans present.here
  | settled out' absent assigned resting => exact resting.elim
  | retracted absent pending late => exact .retracted absent pending (late.of_busy id).comeLate
  | failed f absent assigned late => exact .failed f absent assigned (late.of_busy id).comeLate

/-- Whoever assigns a slot has taken its call out, and assigns the slot that was captured. -/
theorem Lot.of_assigning {fate : Fate α} {own : Nat} {out : Result α} {done : List (κ × Result α)}
    (lot : Lot c n slot e fate (some (.assigning own out)) done) :
    fate = .taken ∧ own = slot ∧ Absent c e ∧ e.slot slot = .pending ∧ done = [(c.call.call, out)] := by
  cases lot with
  | entered present pending still => exact still.not_assigning.elim
  | taken out absent pending => exact ⟨rfl, rfl, absent, pending, rfl⟩
  | settled out' absent assigned resting => exact resting.elim
  | retracted absent pending late => exact (late.of_busy id).not_assigning.elim
  | failed f absent assigned late => exact (late.of_busy id).not_assigning.elim

/-- The slot of the caller is assigned what its call has come to. -/
theorem Lot.assign {fate : Fate α} {own : Nat} {out : Result α} {report : Result CallReport}
    {done : List (κ × Result α)} (lot : Lot c n slot e fate (some (.assigning own out)) done)
    (inside : slot < e.slots.length) : ∃ fate', fate.Next fate' ∧
      Lot c n slot (e.assign own (delivered out)).2 fate' (some (.ended report)) done := by
  obtain ⟨rfl, rfl, absent, pending, rfl⟩ := lot.of_assigning
  exact ⟨.settled out, .settle out, .settled out (absent.assign _ _)
    (Exchange.slot_assign_self inside pending _) trivial⟩

/-- Whoever leaves the entries and the slot of a call alone leaves its lot alone. -/
theorem Lot.frame {fate : Fate α} {y : Option (Execution κ α)} {done : List (κ × Result α)}
    (lot : Lot c n slot e fate y done) (entry : ∀ m, (e'.table m).call? c.id = (e.table m).call? c.id)
    (same : e'.slot slot = e.slot slot) : Lot c n slot e' fate y done := by
  have absent (absent : Absent c e) : Absent c e' := fun m => (entry m).trans (absent m)
  cases lot with
  | entered present pending still =>
    have present' : Present c n slot e' :=
      ⟨(entry n).trans present.here, fun m other => (entry m).trans (present.elsewhere m other)⟩
    exact .entered present' (same.trans pending) still
  | taken out gone pending => exact .taken out (absent gone) (same.trans pending)
  | settled out gone assigned resting => exact .settled out (absent gone) (same.trans assigned) resting
  | retracted gone pending late => exact .retracted (absent gone) (same.trans pending) late
  | failed f gone assigned late => exact .failed f (absent gone) (same.trans assigned) late

/-- Whatever is done for a call leaves it as it should be. -/
theorem Moves.standing (moves : Moves c text e x e' x') (live : ∀ run n, e.tableOf? run = some n → n < e.tables.length)
    (standing : InOrder c e x) : InOrder c e' x' := by
  cases moves with
  | leave at_ gone =>
    simp only [InOrder, at_] at standing ⊢
    exact standing.moved
  | perform r at_ =>
    simp only [InOrder, at_] at standing ⊢
    exact ⟨standing.absent, standing.free, by rw [standing.unperformed]; rfl⟩
  | hold at_ found =>
    simp only [InOrder, at_] at standing ⊢
    exact ⟨live _ _ found, standing.moved⟩
  | register at_ done =>
    simp only [InOrder, at_] at standing ⊢
    obtain ⟨inside, early⟩ := standing
    obtain ⟨rfl, rfl⟩ := Exchange.of_register done
    refine ⟨by simp [Exchange.registered], early.unraised, .entered, .inl rfl, ?_⟩
    rw [early.free, early.unperformed]
    exact .entered (early.absent.register inside) (Exchange.slot_registered_self _) (.untouched trivial)
  | refuse at_ failed =>
    simp only [InOrder, at_] at standing
    rw [Exchange.register_of_fresh (standing.2.absent _)] at failed
    cases failed
  | accept at_ =>
    simp only [InOrder, at_] at standing ⊢
    obtain ⟨inside, -, fate, allows, lot⟩ := standing
    exact ⟨inside, rfl, fate, allows, lot⟩
  | reject f at_ =>
    simp only [InOrder, at_] at standing ⊢
    obtain ⟨inside, -, fate, allows, lot⟩ := standing
    exact ⟨inside, rfl, fate, allows, lot⟩
  | retract at_ found =>
    simp only [InOrder, at_] at standing ⊢
    obtain ⟨inside, told, fate, allows, lot⟩ := standing
    obtain ⟨-, -, rfl, present, pending, still⟩ := lot.of_found found
    exact ⟨inside, told, .retracted, ⟨rfl, rfl⟩, .retracted present.takeOut pending (.unsettled still)⟩
  | fail at_ =>
    simp only [InOrder, at_] at standing ⊢
    obtain ⟨inside, told, fate, ⟨rfl, rfl⟩, lot⟩ := standing
    refine ⟨?_, told, .failed _, .inr (.inr rfl), lot.fail inside _⟩
    rwa [Exchange.assign, List.length_modify]
  | giveUp at_ gone =>
    simp only [InOrder, at_] at standing ⊢
    obtain ⟨inside, told, fate, allows, lot⟩ := standing
    refine ⟨inside, told, fate, ?_, lot⟩
    obtain taken | settled := allows.resolve_left (lot.of_gone gone)
    · exact .inl taken
    · exact .inr (.inl settled)
  | wake at_ assigned =>
    simp only [InOrder, at_] at standing ⊢
    obtain ⟨inside, told, fate, allows, lot⟩ := standing
    refine ⟨inside, told, fate, ?_, lot⟩
    obtain settled | ⟨f, rfl, -⟩ := lot.of_assigned assigned
    · exact settled
    · simp [Stage.Allows] at allows
  | missRun at_ gone => exact standing.act at_ rfl fun _ _ fate _ lot => ⟨fate, .same fate, lot.rest trivial trivial⟩
  | findRun at_ found => exact standing.act at_ rfl fun _ _ fate _ lot => ⟨fate, .same fate, lot.rest trivial trivial⟩
  | missCall at_ gone => exact standing.act at_ rfl fun _ _ fate _ lot => ⟨fate, .same fate, lot.rest trivial trivial⟩
  | findCall at_ found => exact standing.act at_ rfl fun _ _ fate _ lot => ⟨fate, .same fate, lot.find found⟩
  | execute out at_ => exact standing.act at_ rfl fun _ _ fate _ lot => ⟨fate, .same fate, lot.execute out⟩
  | takeOut at_ found =>
    refine standing.act at_ ?_ ?_
    · rfl
    · intro _ _ _ _ lot
      exact lot.takeOut found
  | comeLate at_ gone => exact standing.act at_ rfl fun _ _ fate _ lot => ⟨fate, .same fate, lot.comeLate gone⟩
  | assign at_ =>
    refine standing.act at_ ?_ ?_
    · exact List.length_modify ..
    · intro _ _ _ inside lot
      exact lot.assign inside

/-! ## What a step leaves alone -/

/-- Nothing that is done for a call touches the entry of another one. -/
theorem Moves.entry_frame (moves : Moves c text e x e' x') {other : String} (ne : other ≠ c.id) (m : Nat) :
    (e'.table m).call? other = (e.table m).call? other := by
  cases moves with
  | register at_ done =>
    obtain ⟨-, rfl⟩ := Exchange.of_register done
    exact Exchange.call?_registered_of_ne ne _
  | retract at_ found => exact Exchange.call?_takeOut_of_ne ne
  | takeOut at_ found => exact Exchange.call?_takeOut_of_ne ne
  | _ => rfl

/-- The slot that is assigned for a call is its own. -/
theorem Moves.slot_frame (moves : Moves c text e x e' x') (standing : InOrder c e x) {k : Nat}
    (inside : k < e.slots.length)
    (other : ∀ n slot stage, x.phase = .registered n slot stage → slot ≠ k) : e'.slot k = e.slot k := by
  cases moves with
  | register at_ done =>
    obtain ⟨-, rfl⟩ := Exchange.of_register done
    exact Exchange.slot_registered_of_lt inside _
  | fail at_ =>
    simp only [InOrder, at_] at standing
    obtain ⟨-, -, -, ⟨rfl, -⟩, -⟩ := standing
    exact Exchange.slot_assign_of_ne (Ne.symm (other _ _ _ at_)) _
  | assign at_ =>
    obtain ⟨n, slot, stage, registered⟩ := standing.registered at_
    simp only [InOrder, registered] at standing
    obtain ⟨-, -, fate, -, lot⟩ := standing
    rw [at_] at lot
    obtain ⟨-, rfl, -⟩ := lot.of_assigning
    exact Exchange.slot_assign_of_ne (Ne.symm (other _ _ _ registered)) _
  | _ => rfl

/-- Tables and slots are never taken away, and runs neither begin nor end. -/
theorem Moves.exchange_frame (moves : Moves c text e x e' x') :
    e'.live = e.live ∧ e'.tables.length = e.tables.length ∧ e.slots.length ≤ e'.slots.length := by
  cases moves with
  | register at_ done =>
    obtain ⟨-, rfl⟩ := Exchange.of_register done
    simp [Exchange.registered]
  | retract at_ found => exact ⟨rfl, List.length_modify .., Nat.le_refl _⟩
  | takeOut at_ found => exact ⟨rfl, List.length_modify .., Nat.le_refl _⟩
  | fail at_ => exact ⟨rfl, rfl, Nat.le_of_eq (List.length_modify ..).symm⟩
  | assign at_ => exact ⟨rfl, rfl, Nat.le_of_eq (List.length_modify ..).symm⟩
  | _ => exact ⟨rfl, rfl, Nat.le_refl _⟩

/-- A call keeps its table and its slot; a new one gets a slot that was not there. -/
theorem Moves.slot_new (moves : Moves c text e x e' x') {stage : Stage α}
    (registered : x'.phase = .registered n slot stage) :
    (∃ stage, x.phase = .registered n slot stage) ∨ slot = e.slots.length := by
  cases moves with
  | register at_ done =>
    obtain ⟨rfl, -⟩ := Exchange.of_register done
    obtain ⟨-, rfl, -⟩ := Phase.registered.inj registered
    exact .inr rfl
  | accept at_ | reject f at_ | retract at_ found | fail at_ | giveUp at_ gone | wake at_ assigned =>
    obtain ⟨rfl, rfl, -⟩ := Phase.registered.inj registered
    exact .inl ⟨_, at_⟩
  | missRun _ _ | findRun _ _ | missCall _ _ | findCall _ _ | execute _ _ | takeOut _ _ | comeLate _ _
  | assign _ => exact .inl ⟨_, registered⟩
  | leave | perform | hold | refuse => cases registered

theorem Moves.stays_registered (moves : Moves c text e x e' x') {stage : Stage α}
    (registered : x.phase = .registered n slot stage) : ∃ stage, x'.phase = .registered n slot stage := by
  cases moves with
  | leave at_ | perform _ at_ | hold at_ | register at_ | refuse at_ => cases registered.symm.trans at_
  | accept at_ | reject f at_ | retract at_ found | fail at_ | giveUp at_ gone | wake at_ assigned =>
    obtain ⟨rfl, rfl, -⟩ := Phase.registered.inj (registered.symm.trans at_)
    exact ⟨_, rfl⟩
  | missRun _ _ | findRun _ _ | missCall _ _ | findCall _ _ | execute _ _ | takeOut _ _ | comeLate _ _
  | assign _ => exact ⟨_, registered⟩

theorem Moves.missed (moves : Moves c text e x e' x') {f : Failure}
    (missed : x.execution = some (.missed f)) : x'.execution = some (.missed f) := by
  cases moves with
  | missRun at_ | findRun at_ | missCall at_ | findCall at_ | execute _ at_ | takeOut at_ | comeLate at_
  | assign at_ => cases missed.symm.trans at_
  | _ => exact missed

/-- Whoever leaves the entries and the slot of a call alone leaves it as it should be. -/
theorem InOrder.frame (standing : InOrder c e x) (tables : e.tables.length ≤ e'.tables.length)
    (slots : e.slots.length ≤ e'.slots.length)
    (entry : ∀ m, (e'.table m).call? c.id = (e.table m).call? c.id)
    (slot : ∀ n slot stage, x.phase = .registered n slot stage → e'.slot slot = e.slot slot) :
    InOrder c e' x := by
  have absent (absent : Absent c e) : Absent c e' := fun m => (entry m).trans (absent m)
  have early (early : Early c e x) : Early c e' x :=
    ⟨absent early.absent, early.unraised, early.free, early.unperformed⟩
  cases at_ : x.phase with
  | idle | onSpot =>
    simp only [InOrder, at_] at standing ⊢
    exact early standing
  | holding n =>
    simp only [InOrder, at_] at standing ⊢
    exact ⟨Nat.lt_of_lt_of_le standing.1 tables, early standing.2⟩
  | refused f =>
    simp only [InOrder, at_] at standing
  | performed r =>
    simp only [InOrder, at_] at standing ⊢
    exact ⟨absent standing.1, standing.2⟩
  | registered n k stage =>
    simp only [InOrder, at_] at standing ⊢
    obtain ⟨inside, told, fate, allows, lot⟩ := standing
    exact ⟨Nat.lt_of_lt_of_le inside slots, told, fate, allows, lot.frame entry (slot _ _ _ at_)⟩

end Rendezvous
