import Rendezvous.Call.Slot
import Rendezvous.Entries

/-!
# The exchange

Where callers and the executions of their calls meet.  Every live run has a table of its pending calls,
each with the captured call and the slot that its caller waits on.  A run is known by its id; its table
and the slots go on to exist when the run is forgotten, so whoever holds them still finds them.

Completing a call takes its entry out of the table and assigns its slot, so a second completion finds
nothing (`settle_settle`).
-/

namespace Rendezvous

/-- A captured call and the slot for its outcome. -/
structure Pending (κ : Type) where
  call : κ
  slot : Nat

/-- The pending calls of one run, in the order in which they were registered. -/
structure CallTable (κ : Type) where
  runId : String
  calls : Entries (Pending κ) := []

namespace CallTable

variable {κ : Type}

/-- The call with an id. -/
def call? (callId : String) (t : CallTable κ) : Option (Pending κ) := Entries.get? callId t.calls

/-- Add a call; its id must not be pending. -/
def add (callId : String) (p : Pending κ) (t : CallTable κ) : Result (CallTable κ) :=
  if Entries.has callId t.calls then
    .error (.of (.badValue
      ("Call id " ++ callId ++ " is already pending in run " ++ t.runId)))
  else .ok { t with calls := Entries.put callId p t.calls }

/-- Take a call out. -/
def remove (callId : String) (t : CallTable κ) : CallTable κ :=
  { t with calls := Entries.erase callId t.calls }

end CallTable

/-- The tables of all runs, the runs that are alive, and the slots of all calls.  Tables and slots are
known by the order in which they came. -/
structure Exchange (κ α : Type) where
  /-- The tables of the live runs, by run id. -/
  live : Entries Nat := []
  tables : List (CallTable κ) := []
  slots : List (Slot α) := []

namespace Exchange

variable {κ α : Type}

/-! ## Runs -/

/-- Begin a run with an empty table; a run of that id loses its table. -/
def createRun (runId : String) (e : Exchange κ α) : Exchange κ α :=
  { e with live := Entries.put runId e.tables.length e.live, tables := e.tables ++ [{ runId }] }

/-- Forget a run. -/
def dropRun (runId : String) (e : Exchange κ α) : Exchange κ α :=
  { e with live := Entries.erase runId e.live }

/-- The ids of the live runs, in order. -/
def runIds (e : Exchange κ α) : List String := e.live.keys

/-- The table of a live run. -/
def tableOf? (runId : String) (e : Exchange κ α) : Option Nat := Entries.get? runId e.live

/-- A table. -/
def table (n : Nat) (e : Exchange κ α) : CallTable κ := e.tables.getD n { runId := "" }

/-! ## Calls -/

/-- Register a call in a table, with a new slot. -/
def register (n : Nat) (callId : String) (call : κ) (e : Exchange κ α) :
    Result (Nat × Exchange κ α) := do
  let slot := e.slots.length
  let t ← (e.table n).add callId { call, slot }
  return (slot, { e with tables := e.tables.set n t, slots := e.slots ++ [.pending] })

/-- A slot. -/
def slot (n : Nat) (e : Exchange κ α) : Slot α := e.slots.getD n .pending

/-- Leave an outcome in a slot; whether it was the first. -/
def assign (n : Nat) (outcome : Result α) (e : Exchange κ α) : Bool × Exchange κ α :=
  (!(e.slot n).isDone, { e with slots := e.slots.modify n (Slot.assign outcome) })

/-- Take a call out of a table and leave an outcome in its slot; whether there was a call and the
outcome was the first. -/
def settle (n : Nat) (callId : String) (outcome : Result α) (e : Exchange κ α) :
    Bool × Exchange κ α :=
  match (e.table n).call? callId with
  | none => (false, e)
  | some p => { e with tables := e.tables.modify n (CallTable.remove callId) }.assign p.slot outcome

theorem tables_assign (n : Nat) (outcome : Result α) (e : Exchange κ α) :
    (e.assign n outcome).2.tables = e.tables := rfl

/-- A call that has been settled is no longer there. -/
theorem call?_settle (n : Nat) (callId : String) (outcome : Result α) (e : Exchange κ α) :
    ((e.settle n callId outcome).2.table n).call? callId = none := by
  unfold settle
  split
  · assumption
  · rename_i p h
    by_cases hn : n < e.tables.length
    · simp [table, tables_assign, List.getD_eq_getElem?_getD, hn, CallTable.call?,
        CallTable.remove]
    · simp [table, List.getD_eq_getElem?_getD, CallTable.call?, Entries.get?,
        List.getElem?_eq_none (Nat.le_of_not_lt hn)] at h

/-- Settling a call twice does no more than settling it once. -/
theorem settle_settle (n : Nat) (callId : String) (first second : Result α) (e : Exchange κ α) :
    (e.settle n callId first).2.settle n callId second
      = (false, (e.settle n callId first).2) := by
  generalize hs : (e.settle n callId first).2 = s
  have h : (s.table n).call? callId = none := hs ▸ call?_settle n callId first e
  unfold settle
  rw [h]

end Exchange
end Rendezvous
