import Mathlib.Logic.Function.Basic
import Mathlib.Logic.Relation
import Rendezvous.Proofs.Routing.Transparency

/-!
# Calls in traffic

Many threads make routed calls at the same time, and many executions of the call activity serve them, while runs
come and go.  All of them share one exchange, and each does one thing to it at a time: a caller looks its run up,
registers its call, raises the event, and then waits for its slot, or takes its call out again if the event could
not be raised; an execution looks the run up, looks the call up, performs it, takes it out and assigns the slot
(`Moves`).  Between any two of these steps anybody else may take any number of steps (`Traffic.Step`).

An execution begins whenever the engine wants it to, once a call has been registered, and there is one at a time
for each call.  So an event may be delivered and executed over and over.
-/

namespace Rendezvous

set_option autoImplicit false

variable {ι κ α : Type}

/-! ## The exchange, one step at a time -/

namespace Exchange

/-- Take a call out of a table, and do no more. -/
def takeOut (n : Nat) (callId : String) (e : Exchange κ α) : Exchange κ α :=
  { e with tables := e.tables.modify n (CallTable.remove callId) }

/-- Settling is taking out and then assigning the slot. -/
theorem settle_eq (n : Nat) (callId : String) (outcome : Result α) (e : Exchange κ α) :
    e.settle n callId outcome = match (e.table n).call? callId with
      | none => (false, e)
      | some p => (e.takeOut n callId).assign p.slot outcome := rfl

variable {e : Exchange κ α} {n m k : Nat} {id other : String}

theorem table_takeOut_self : (e.takeOut n id).table n = (e.table n).remove id := by
  by_cases inside : n < e.tables.length
  · simp [takeOut, table, List.getD_eq_getElem?_getD, inside]
  · have outside : e.tables.length ≤ n := Nat.le_of_not_lt inside
    simp [takeOut, table, List.getD_eq_getElem?_getD, List.getElem?_eq_none outside, CallTable.remove, Entries.erase]

theorem table_takeOut_of_ne (ne : m ≠ n) : (e.takeOut n id).table m = e.table m := by
  simp [takeOut, table, List.getD_eq_getElem?_getD, Ne.symm ne]

theorem call?_takeOut_of_ne (ne : other ≠ id) :
    ((e.takeOut n id).table m).call? other = (e.table m).call? other := by
  by_cases same : m = n
  · rw [same, table_takeOut_self, CallTable.call?, CallTable.remove, Entries.get?_erase_of_ne ne, CallTable.call?]
  · rw [table_takeOut_of_ne same]

theorem call?_takeOut_self : ((e.takeOut n id).table n).call? id = none := by
  rw [table_takeOut_self, CallTable.call?, CallTable.remove, Entries.get?_erase_self]

theorem call?_takeOut_elsewhere (elsewhere : m ≠ n) :
    ((e.takeOut n id).table m).call? id = (e.table m).call? id := by
  rw [table_takeOut_of_ne elsewhere]

/-- A registration that succeeds adds a call that was not there, with a new slot. -/
theorem of_register {call : κ} {slot : Nat} {e' : Exchange κ α} (done : e.register n id call = .ok (slot, e')) :
    slot = e.slots.length ∧ e' = e.registered n id call := by
  cases known : (e.table n).call? id with
  | none =>
    rw [register_of_fresh known] at done
    cases done
    exact ⟨rfl, rfl⟩
  | some p =>
    rw [register_of_known known] at done
    cases done

theorem call?_registered_of_ne (ne : other ≠ id) (call : κ) :
    ((e.registered n id call).table m).call? other = (e.table m).call? other := by
  by_cases same : n = m
  · subst same
    by_cases inside : n < e.tables.length
    · rw [table_registered inside, CallTable.call?, Entries.get?_put_of_ne ne, CallTable.call?]
    · have outside : e.tables.length ≤ n := Nat.le_of_not_lt inside
      have beyond : (e.tables.set n { e.table n with
          calls := Entries.put id ⟨call, e.slots.length⟩ (e.table n).calls })[n]? = none :=
        List.getElem?_eq_none (by rwa [List.length_set])
      rw [registered, table, List.getD_eq_getElem?_getD, beyond, table, List.getD_eq_getElem?_getD,
        List.getElem?_eq_none outside]
  · simp [registered, table, List.getD_eq_getElem?_getD, same]

theorem call?_registered_elsewhere (elsewhere : m ≠ n) (call : κ) :
    ((e.registered n id call).table m).call? id = (e.table m).call? id := by
  simp [registered, table, List.getD_eq_getElem?_getD, Ne.symm elsewhere]

theorem call?_createRun (run : String) :
    ((e.createRun run).table m).call? id = (e.table m).call? id := by
  rcases Nat.lt_trichotomy m e.tables.length with inside | rfl | outside
  · simp [createRun, table, List.getD_eq_getElem?_getD, List.getElem?_append_left inside]
  · simp [createRun, table, List.getD_eq_getElem?_getD, CallTable.call?, Entries.get?]
  · have beyond : (e.createRun run).tables[m]? = none := by
      apply List.getElem?_eq_none
      rw [createRun, List.length_append]
      exact outside
    rw [table, List.getD_eq_getElem?_getD, beyond, table, List.getD_eq_getElem?_getD,
      List.getElem?_eq_none (Nat.le_of_lt outside)]

theorem slot_registered_of_lt (inside : k < e.slots.length) (call : κ) :
    (e.registered n id call).slot k = e.slot k := by
  simp [registered, slot, List.getD_eq_getElem?_getD, List.getElem?_append_left inside]

theorem slot_registered_self (call : κ) : (e.registered n id call).slot e.slots.length = .pending := by
  simp [registered, slot, List.getD_eq_getElem?_getD]

theorem slot_assign_of_ne (ne : k ≠ n) (outcome : Result α) : (e.assign n outcome).2.slot k = e.slot k := by
  simp [assign, slot, List.getD_eq_getElem?_getD, Ne.symm ne]

theorem slot_assign_self (inside : n < e.slots.length) (pending : e.slot n = .pending) (outcome : Result α) :
    (e.assign n outcome).2.slot n = .assigned outcome := by
  have there : e.slots[n] = .pending := by
    simpa [slot, List.getD_eq_getElem?_getD, inside] using pending
  simp [assign, slot, List.getD_eq_getElem?_getD, inside, there, Slot.assign]

end Exchange

/-! ## One call -/

/-- A routed call: the run that its thread belongs to, the id that it has drawn, and what is captured. -/
structure Caller (κ : Type) where
  run : String
  id : String
  call : RoutedCall κ

namespace Caller

/-- The event that the caller raises. -/
def event (c : Caller κ) : RunEvent := .call c.call.kind c.id c.call.operation c.call.payload

/-- The order that the event becomes. -/
def order (c : Caller κ) : CallOrder where
  runId := c.run
  callId := c.id
  operation := c.call.operation
  payload := c.call.payload

/-- The workflow of the run orders what the event says. -/
theorem toResult_ofEvent_event (c : Caller κ) : (CallOrder.ofEvent c.run c.event).toResult = .ok c.order :=
  CallOrder.ofEvent_call ..

end Caller

/-- What reaches the caller of an outcome: failures without the reports around them. -/
def delivered (out : Result α) : Result α := out.mapError Failure.rootCause

/-- Where a caller stands whose call has been registered. -/
inductive Stage (α : Type) where
  /-- The event is being raised. -/
  | raising
  /-- The event could not be raised. -/
  | failing (f : Failure)
  /-- Then the call has been taken out again, and its slot is still to fail. -/
  | retracted (slot : Nat) (f : Failure)
  | gaveUp (f : Failure)
  | waiting
  | returned (r : Result α)

/-- Where a caller stands. -/
inductive Phase (α : Type) where
  | idle
  /-- The table of the run has been found. -/
  | holding (table : Nat)
  | registered (table slot : Nat) (stage : Stage α)
  | refused (f : Failure)
  /-- The run is not there, so the call is performed on the spot. -/
  | onSpot
  | performed (r : Result α)

/-- Where an execution of the call activity stands. -/
inductive Execution (κ α : Type) where
  | finding
  /-- The table of the run has been found. -/
  | holding (table : Nat)
  | performing (table : Nat) (p : Pending κ)
  /-- The call has been performed and is to be taken out. -/
  | settling (table : Nat) (out : Result α)
  | assigning (slot : Nat) (out : Result α)
  /-- The run or the call was not there. -/
  | missed (f : Failure)
  | ended (report : Result CallReport)

/-- All there is to a call. -/
structure Call (κ α : Type) where
  phase : Phase α := .idle
  /-- What came of raising the event. -/
  raised : Option (Result Unit) := none
  /-- The execution under way, or the last one if it has not been reported yet. -/
  execution : Option (Execution κ α) := none
  /-- Each performance of a captured operation on behalf of the call, and its outcome. -/
  performances : List (κ × Result α) := []

/-- What a caller comes back with. -/
def Phase.outcome? : Phase α → Option (Result α)
  | registered _ _ (.returned r) => some r
  | registered _ _ (.gaveUp f) => some (.error f)
  | refused f => some (.error f)
  | performed r => some r
  | _ => none

/-- What a finished execution reports. -/
def Execution.report? : Execution κ α → Option (Result CallReport)
  | missed f => some (.error f)
  | ended r => some r
  | _ => none

variable {c : Caller κ} {text : α → Option String} {e e' : Exchange κ α} {x x' : Call κ α}

/-- What a caller, or an execution of its call, does to the exchange at once. -/
inductive Moves (c : Caller κ) (text : α → Option String) :
    Exchange κ α → Call κ α → Exchange κ α → Call κ α → Prop
  | leave {e : Exchange κ α} {x : Call κ α} (at_ : x.phase = .idle) (gone : e.tableOf? c.run = none) :
      Moves c text e x e { x with phase := .onSpot }
  | perform {e : Exchange κ α} {x : Call κ α} (r : Result α) (at_ : x.phase = .onSpot) :
      Moves c text e x e
        { x with phase := .performed r, performances := x.performances ++ [(c.call.call, r)] }
  | hold {e : Exchange κ α} {x : Call κ α} {n : Nat} (at_ : x.phase = .idle)
      (found : e.tableOf? c.run = some n) : Moves c text e x e { x with phase := .holding n }
  | register {e e' : Exchange κ α} {x : Call κ α} {n slot : Nat} (at_ : x.phase = .holding n)
      (done : e.register n c.id c.call.call = .ok (slot, e')) :
      Moves c text e x e' { x with phase := .registered n slot .raising }
  | refuse {e : Exchange κ α} {x : Call κ α} {n : Nat} {f : Failure} (at_ : x.phase = .holding n)
      (failed : e.register n c.id c.call.call = .error f) : Moves c text e x e { x with phase := .refused f }
  | accept {e : Exchange κ α} {x : Call κ α} {n slot : Nat} (at_ : x.phase = .registered n slot .raising) :
      Moves c text e x e { x with phase := .registered n slot .waiting, raised := some (.ok ()) }
  | reject {e : Exchange κ α} {x : Call κ α} {n slot : Nat} (f : Failure)
      (at_ : x.phase = .registered n slot .raising) :
      Moves c text e x e { x with phase := .registered n slot (.failing f), raised := some (.error f) }
  | retract {e : Exchange κ α} {x : Call κ α} {n slot : Nat} {f : Failure} {p : Pending κ}
      (at_ : x.phase = .registered n slot (.failing f)) (found : (e.table n).call? c.id = some p) :
      Moves c text e x (e.takeOut n c.id) { x with phase := .registered n slot (.retracted p.slot f) }
  | fail {e : Exchange κ α} {x : Call κ α} {n slot own : Nat} {f : Failure}
      (at_ : x.phase = .registered n slot (.retracted own f)) :
      Moves c text e x (e.assign own (.error f)).2 { x with phase := .registered n slot (.gaveUp f) }
  | giveUp {e : Exchange κ α} {x : Call κ α} {n slot : Nat} {f : Failure}
      (at_ : x.phase = .registered n slot (.failing f)) (gone : (e.table n).call? c.id = none) :
      Moves c text e x e { x with phase := .registered n slot (.gaveUp f) }
  | wake {e : Exchange κ α} {x : Call κ α} {n slot : Nat} {r : Result α}
      (at_ : x.phase = .registered n slot .waiting) (assigned : e.slot slot = .assigned r) :
      Moves c text e x e { x with phase := .registered n slot (.returned r) }
  | missRun {e : Exchange κ α} {x : Call κ α} (at_ : x.execution = some .finding)
      (gone : e.tableOf? c.run = none) :
      Moves c text e x e { x with execution := some (.missed (Act.noRun c.run e.runIds)) }
  | findRun {e : Exchange κ α} {x : Call κ α} {n : Nat} (at_ : x.execution = some .finding)
      (found : e.tableOf? c.run = some n) : Moves c text e x e { x with execution := some (.holding n) }
  | missCall {e : Exchange κ α} {x : Call κ α} {n : Nat} (at_ : x.execution = some (.holding n))
      (gone : (e.table n).call? c.id = none) :
      Moves c text e x e { x with execution := some (.missed (Act.noCall c.run c.id)) }
  | findCall {e : Exchange κ α} {x : Call κ α} {n : Nat} {p : Pending κ}
      (at_ : x.execution = some (.holding n)) (found : (e.table n).call? c.id = some p) :
      Moves c text e x e { x with execution := some (.performing n p) }
  | execute {e : Exchange κ α} {x : Call κ α} {n : Nat} {p : Pending κ} (out : Result α)
      (at_ : x.execution = some (.performing n p)) :
      Moves c text e x e
        { x with execution := some (.settling n out), performances := x.performances ++ [(p.call, out)] }
  | takeOut {e : Exchange κ α} {x : Call κ α} {n : Nat} {p : Pending κ} {out : Result α}
      (at_ : x.execution = some (.settling n out)) (found : (e.table n).call? c.id = some p) :
      Moves c text e x (e.takeOut n c.id) { x with execution := some (.assigning p.slot out) }
  | comeLate {e : Exchange κ α} {x : Call κ α} {n : Nat} {out : Result α}
      (at_ : x.execution = some (.settling n out)) (gone : (e.table n).call? c.id = none) :
      Moves c text e x e { x with execution := some (.ended (c.order.report text (delivered out))) }
  | assign {e : Exchange κ α} {x : Call κ α} {slot : Nat} {out : Result α}
      (at_ : x.execution = some (.assigning slot out)) :
      Moves c text e x (e.assign slot (delivered out)).2 { x with execution := some (.ended (c.order.report text (delivered out))) }

/-! ## The call activity on its own -/

/-- What is done for one call with nobody in between. -/
def Goes (c : Caller κ) (text : α → Option String) (before after : Exchange κ α × Call κ α) : Prop :=
  Relation.ReflTransGen (fun a b => Moves c text a.1 a.2 b.1 b.2) before after

theorem Goes.move {before : Exchange κ α × Call κ α} (goes : Goes c text before (e, x))
    (moves : Moves c text e x e' x') : Goes c text before (e', x') :=
  goes.tail moves

/-- Where nobody interferes, and performing a call leaves the exchange alone, the call activity does what an
execution does, and reports what it reports. -/
theorem Act.executeCall_goes {β ω : Type} {h : Performer κ α β ω}
    (still : ∀ (k : κ) (w : World κ α β ω), (guarded (h.perform k) w).2.hub.exchange = w.hub.exchange)
    (c : Caller κ) (x : Call κ α) (w : World κ α β ω) : ∃ x',
      Goes c h.text (w.hub.exchange, { x with execution := some .finding })
        ((executeCall h c.order w).2.hub.exchange, x') ∧
      x'.execution.bind Execution.report? = some (executeCall h c.order w).1 := by
  cases live : w.hub.exchange.tableOf? c.run with
  | none =>
    have missed : executeCall h c.order w = (.error (noRun c.run w.hub.exchange.runIds), w) :=
      executeCall_of_noRun live h
    rw [missed]
    exact ⟨_, .single (.missRun rfl live), rfl⟩
  | some n =>
    have at_ : Goes c h.text (w.hub.exchange, { x with execution := some .finding })
        (w.hub.exchange, { x with execution := some (.holding n) }) := .single (.findRun rfl live)
    cases found : (w.hub.exchange.table n).call? c.id with
    | none =>
      have missed : executeCall h c.order w = (.error (noCall c.run c.id), w) := executeCall_of_noCall live found h
      rw [missed]
      exact ⟨_, at_.tail (.missCall rfl found), rfl⟩
    | some p =>
      rcases performs : h.perform p.call (w.executing c.order) with ⟨out, left⟩
      have same : (h.perform p.call (w.executing c.order)).2.hub.exchange = w.hub.exchange :=
        still p.call (w.traced (w.opened c.order).2.2 (w.opened c.order).2.1)
      rw [performs] at same
      have settled : (left.hub.exchange.settle n c.id (delivered out)).2 =
          ((w.hub.exchange.takeOut n c.id).assign p.slot (delivered out)).2 := by
        rw [show left.hub.exchange = w.hub.exchange from same, Exchange.settle_eq, found]
      have through : Goes c h.text (w.hub.exchange, { x with execution := some .finding })
          ((left.hub.exchange.settle n c.id (delivered out)).2,
            { x with
              execution := some (.ended (c.order.report h.text (delivered out)))
              performances := x.performances ++ [(p.call, out)] }) := by
        rw [settled]
        exact (((at_.move (.findCall rfl found)).move (.execute out rfl)).move (.takeOut rfl found)).move
          (.assign rfl)
      rw [executeCall_apply live found performs]
      exact ⟨_, through, rfl⟩

/-! ## All calls -/

/-- The calls of all threads; no id is drawn twice. -/
structure Traffic (ι κ α : Type) where
  caller : ι → Caller κ
  /-- The text that is kept of what comes of a call. -/
  text : α → Option String
  fresh : Function.Injective fun i => (caller i).id

namespace Traffic

variable {t : Traffic ι κ α}

/-- The exchange, and where all calls stand. -/
structure State (t : Traffic ι κ α) where
  exchange : Exchange κ α := {}
  calls : ι → Call κ α := fun _ => {}

variable [DecidableEq ι]

/-- The state once something has been done for a call. -/
def State.put (s : t.State) (i : ι) (e : Exchange κ α) (x : Call κ α) : t.State where
  exchange := e
  calls := Function.update s.calls i x

@[simp] theorem State.exchange_put (s : t.State) (i : ι) (e : Exchange κ α) (x : Call κ α) :
    (s.put i e x).exchange = e := rfl

@[simp] theorem State.calls_put_self (s : t.State) (i : ι) (e : Exchange κ α) (x : Call κ α) :
    (s.put i e x).calls i = x := Function.update_self ..

theorem State.calls_put_of_ne (s : t.State) {i j : ι} (ne : j ≠ i) (e : Exchange κ α) (x : Call κ α) :
    (s.put i e x).calls j = s.calls j := Function.update_of_ne ne ..

/-- A step that somebody takes on behalf of a call, or that begins or ends a run. -/
inductive Step : t.State → Option ι → t.State → Prop
  | move {s : t.State} {i : ι} {e : Exchange κ α} {x : Call κ α}
      (moves : Moves (t.caller i) t.text s.exchange (s.calls i) e x) : Step s (some i) (s.put i e x)
  /-- The engine begins an execution of a call whose event has been raised, whenever none is under way. -/
  | execute {s : t.State} {i : ι} {n slot : Nat} {stage : Stage α}
      (registered : (s.calls i).phase = .registered n slot stage) (free : (s.calls i).execution = none) :
      Step s (some i) (s.put i s.exchange { s.calls i with execution := some .finding })
  | report {s : t.State} {i : ι} {y : Execution κ α} {r : Result CallReport}
      (there : (s.calls i).execution = some y) (past : y.report? = some r) :
      Step s (some i) (s.put i s.exchange { s.calls i with execution := none })
  | createRun {s : t.State} (run : String) : Step s none { s with exchange := s.exchange.createRun run }
  | dropRun {s : t.State} (run : String) : Step s none { s with exchange := s.exchange.dropRun run }

/-- The states that all these steps lead to, in whatever order they are taken. -/
inductive Reachable : t.State → Prop
  | opening : Reachable {}
  | step {s s' : t.State} {who : Option ι} (reach : Reachable s) (step : Step s who s') : Reachable s'

end Traffic
end Rendezvous
