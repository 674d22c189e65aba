import Mathlib.Data.List.Basic
import Rendezvous.Call.Exchange

/-!
# The history of a table

Threads handle a table of pending calls and the slots of its calls in whatever order they come (`Handling`).  What has
been handled, and how it was answered, is a history, and from a history alone one can say what the table must hold.

* The calls that stand are those that have been registered and that nobody has settled since (`standing`).
* Whoever assigns a slot, or settles a call that stands, makes an attempt at a slot, and the first attempt at a slot is
  its outcome (`first`).

`standing_append` and `first_append` say what one more event does to both.
-/

namespace Rendezvous

set_option autoImplicit false

variable {κ α : Type}

/-- What a thread does with a table of pending calls, or with a slot. -/
inductive Handling (κ α : Type) where
  | register (id : String) (call : κ)
  | look (id : String)
  /-- Complete a call with its result, or fail it. -/
  | settle (id : String) (outcome : Result α)
  | list
  /-- Assign a slot without its call. -/
  | assign (slot : Nat) (outcome : Result α)
  /-- Begin to wait for a slot. -/
  | wait (slot : Nat)
  /-- Let a reader that has begun to wait look whether it can go on. -/
  | wake (reader : Nat)

/-- What the thread gets in return. -/
inductive Response (κ α : Type) where
  | slot (n : Nat)
  | refused (f : Failure)
  | found (p : Option (Pending κ))
  /-- Whether this was the first assignment. -/
  | first (b : Bool)
  | ids (ids : List String)
  | reader (n : Nat)
  | blocked
  | outcome (r : Result α)

/-- Something that has been handled, and how it was answered. -/
abbrev Handled (κ α : Type) : Type := Handling κ α × Response κ α

namespace Handled

/-- The entry that has been made. -/
def entry? : Handled κ α → Option (String × Pending κ)
  | (.register id call, .slot n) => some (id, { call, slot := n })
  | _ => none

/-- The call that has been completed or failed, if it was there. -/
def settled? : Handled κ α → Option String
  | (.settle id _, _) => some id
  | _ => none

/-- The slot that somebody waits for from now on. -/
def awaited? : Handled κ α → Option Nat
  | (.wait slot, _) => some slot
  | _ => none

end Handled

/-! ## What stands -/

/-- The calls that have been registered and not been settled since, in the order in which they were registered. -/
def standing : List (Handled κ α) → Entries (Pending κ)
  | [] => []
  | h :: later =>
    match h.entry? with
    | some entry =>
      if later.any fun h => h.settled? = some entry.1 then standing later else entry :: standing later
    | none => standing later

/-- How many slots have been handed out. -/
def handedOut (events : List (Handled κ α)) : Nat := (events.filterMap Handled.entry?).length

/-- The slots that the readers wait for, in the order in which they have come. -/
def awaited (events : List (Handled κ α)) : List Nat := events.filterMap Handled.awaited?

theorem handedOut_append (events : List (Handled κ α)) (h : Handled κ α) :
    handedOut (events ++ [h]) = handedOut events + h.entry?.toList.length := by
  rw [handedOut, List.filterMap_append, List.length_append, handedOut]
  cases entry : h.entry? <;> simp [entry]

theorem awaited_append (events : List (Handled κ α)) (h : Handled κ α) :
    awaited (events ++ [h]) = awaited events ++ h.awaited?.toList := by
  rw [awaited, List.filterMap_append, awaited]
  cases waits : h.awaited? <;> simp [waits]

/-- One more event takes away the call that it settles, or adds the one that it registers. -/
theorem standing_append (events : List (Handled κ α)) (h : Handled κ α) :
    standing (events ++ [h]) =
      (h.settled?.elim (standing events) (Entries.erase · (standing events))) ++ h.entry?.toList := by
  induction events with
  | nil => cases h.settled? <;> cases entry : h.entry? <;> simp [standing, entry, Entries.erase]
  | cons e later ih =>
    cases entry : e.entry? with
    | none => simp only [List.cons_append, standing, entry, ih]
    | some entry' =>
      obtain ⟨id, p⟩ := entry'
      simp only [List.cons_append, standing, entry, ih, List.any_append, List.any_cons, List.any_nil, Bool.or_false]
      cases settled : later.any fun h => h.settled? = some id with
      | true => simp
      | false =>
        cases own : h.settled? with
        | none => simp
        | some other =>
          by_cases same : id = other
          · simp [same, Entries.erase]
          · simp [same, Ne.symm same, Entries.erase]

/-! ## First attempts -/

/-- The slot that a thread would assign, and the outcome. -/
def aimed (past : List (Handled κ α)) : Handling κ α → Option (Nat × Result α)
  | .assign slot outcome => some (slot, outcome)
  | .settle id outcome => (Entries.get? id (standing past)).map fun p => (p.slot, outcome)
  | _ => none

/-- All attempts to assign a slot, in order. -/
def attempts (past : List (Handled κ α)) : List (Handled κ α) → List (Nat × Result α)
  | [] => []
  | h :: later => (aimed past h.1).toList ++ attempts (past ++ [h]) later

/-- The outcome of the first attempt to assign a slot. -/
def first (slot : Nat) (events : List (Handled κ α)) : Option (Result α) :=
  ((attempts [] events).find? (·.1 = slot)).map Prod.snd

theorem attempts_append (past events : List (Handled κ α)) (h : Handled κ α) :
    attempts past (events ++ [h]) = attempts past events ++ (aimed (past ++ events) h.1).toList := by
  induction events generalizing past with
  | nil => simp [attempts]
  | cons e later ih => simp [attempts, ih]

/-- One more attempt counts if it is the first one. -/
theorem first_append (slot : Nat) (events : List (Handled κ α)) (h : Handled κ α) :
    first slot (events ++ [h]) =
      (first slot events).or (((aimed events h.1).toList.find? (·.1 = slot)).map Prod.snd) := by
  rw [first, attempts_append, List.find?_append, List.nil_append, Option.map_or, first]

theorem first_append_of_some {slot : Nat} {events : List (Handled κ α)} {r : Result α}
    (assigned : first slot events = some r) (later : List (Handled κ α)) : first slot (events ++ later) = some r := by
  induction later generalizing events with
  | nil => rwa [List.append_nil]
  | cons h later ih =>
    rw [List.append_cons]
    refine ih ?_
    rw [first_append, assigned, Option.some_or]

/-- Whoever has made an attempt at a slot finds it assigned. -/
theorem first_ne_none {slot : Nat} {past : List (Handled κ α)} {h : Handled κ α} {r : Result α}
    (aim : aimed past h.1 = some (slot, r)) (later : List (Handled κ α)) : first slot (past ++ h :: later) ≠ none := by
  have assigned : ∃ r, first slot (past ++ [h]) = some r := by
    rw [first_append, aim]
    cases first slot past <;> simp
  obtain ⟨r', assigned⟩ := assigned
  rw [List.append_cons, first_append_of_some assigned later]
  exact Option.some_ne_none r'

end Rendezvous
