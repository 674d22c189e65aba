import Rendezvous.Proofs.Tables.History
import Rendezvous.Proofs.Traffic.Calls

/-!
# A table recalls its history

A table of pending calls with its slots is handled by any number of threads, one operation at a time (`Runs`).  Whatever
they do, the table holds the calls that stand, each slot holds the outcome of the first attempt to assign it, and every
answer is the one that the history before it calls for (`Runs.recalled`).  So a slot is assigned once, and whoever reads
it, whenever he has begun to wait, finds that first outcome.
-/

namespace Rendezvous

set_option autoImplicit false

variable {κ α : Type}

/-! ## What readers of slots find -/

theorem Slot.not_isDone (s : Slot α) : (!s.isDone) = s.outcome?.isNone := by
  cases s <;> rfl

/-- What is found once one of the slots has been assigned, or once that has been tried. -/
theorem Exchange.outcome?_slot_assign {e : Exchange κ α} {n : Nat} (there : n < e.slots.length) (r : Result α)
    (k : Nat) : ((e.assign n r).2.slot k).outcome? =
      (e.slot k).outcome?.or (([(n, r)].find? (·.1 = k)).map Prod.snd) := by
  by_cases same : n = k
  · subst same
    have assigned : (e.assign n r).2.slot n = (e.slot n).assign r := by
      simp [assign, slot, List.getD_eq_getElem?_getD, there]
    rw [assigned, Slot.outcome?_assign]
    cases (e.slot n).outcome? <;> simp
  · rw [slot_assign_of_ne (Ne.symm same)]
    simp [same]

/-- A new slot reads as if it had been there. -/
theorem Exchange.outcome?_slot_registered (e : Exchange κ α) (n : Nat) (id : String) (call : κ) (k : Nat) :
    ((e.registered n id call).slot k).outcome? = (e.slot k).outcome? := by
  rcases Nat.lt_trichotomy k e.slots.length with inside | rfl | outside
  · rw [slot_registered_of_lt inside]
  · rw [slot_registered_self]
    simp [slot, List.getD_eq_getElem?_getD, Slot.outcome?]
  · have beyond : (e.slots ++ [Slot.pending])[k]? = none :=
      List.getElem?_eq_none (by rw [List.length_append]; exact outside)
    simp [registered, slot, List.getD_eq_getElem?_getD, beyond, List.getElem?_eq_none (Nat.le_of_lt outside)]

/-! ## Threads around a table -/

/-- A table, the slots of its calls, and the slots that readers wait for. -/
structure Counter (κ α : Type) where
  exchange : Exchange κ α
  readers : List Nat := []

namespace Handling

/-- Handle a table or a slot. -/
def perform (s : Counter κ α) : Handling κ α → Response κ α × Counter κ α
  | register id call =>
    match s.exchange.register 0 id call with
    | .ok (slot, exchange) => (.slot slot, { s with exchange })
    | .error f => (.refused f, s)
  | look id => (.found ((s.exchange.table 0).call? id), s)
  | settle id r =>
    let (b, exchange) := s.exchange.settle 0 id r
    (.first b, { s with exchange })
  | list => (.ids (s.exchange.table 0).calls.keys, s)
  | assign slot r =>
    let (b, exchange) := s.exchange.assign slot r
    (.first b, { s with exchange })
  | wait slot => (.reader s.readers.length, { s with readers := s.readers ++ [slot] })
  | wake reader => (((s.readers[reader]?).bind fun slot => (s.exchange.slot slot).outcome?).elim .blocked .outcome, s)

/-- Only slots that have been handed out are assigned or waited for. -/
def Fits (s : Counter κ α) : Handling κ α → Prop
  | assign slot _ | wait slot => slot < s.exchange.slots.length
  | register .. | look _ | settle .. | list | wake _ => True

instance (s : Counter κ α) : (h : Handling κ α) → Decidable (h.Fits s)
  | assign slot _ | wait slot => inferInstanceAs (Decidable (slot < s.exchange.slots.length))
  | register .. | look _ | settle .. | list | wake _ => .isTrue trivial

end Handling

/-- A table of a run is opened, and then handled by whoever comes. -/
inductive Runs (run : String) : List (Handled κ α) → Counter κ α → Prop
  | opening : Runs run [] { exchange := ({} : Exchange κ α).createRun run }
  | step {events : List (Handled κ α)} {s : Counter κ α} (runs : Runs run events s) (h : Handling κ α)
      (fits : h.Fits s) : Runs run (events ++ [(h, (h.perform s).1)]) (h.perform s).2

/-- The answer that a history calls for. -/
def expected (run : String) (past : List (Handled κ α)) : Handling κ α → Response κ α
  | .register id _ =>
    if id ∈ (standing past).keys then
      .refused (.of (.badValue ("Call id " ++ id ++ " is already pending in run " ++ run)))
    else .slot (handedOut past)
  | .look id => .found (Entries.get? id (standing past))
  | .settle id _ => .first ((Entries.get? id (standing past)).any fun p => (first p.slot past).isNone)
  | .list => .ids (standing past).keys
  | .assign slot _ => .first (first slot past).isNone
  | .wait _ => .reader (awaited past).length
  | .wake reader => (((awaited past)[reader]?).bind fun slot => first slot past).elim .blocked .outcome

/-! ## One operation -/

/-- A table and its slots are as a history says. -/
structure Agrees (run : String) (events : List (Handled κ α)) (s : Counter κ α) : Prop where
  tables : s.exchange.tables = [{ runId := run, calls := standing events }]
  slots : s.exchange.slots.length = handedOut events
  outcomes : ∀ k, (s.exchange.slot k).outcome? = first k events
  readers : s.readers = awaited events
  /-- The slots of calls that stand have been handed out. -/
  inside : ∀ id p, Entries.get? id (standing events) = some p → p.slot < handedOut events

namespace Agrees

variable {run : String} {events : List (Handled κ α)} {s : Counter κ α}

theorem opening : Agrees run [] ({ exchange := ({} : Exchange κ α).createRun run } : Counter κ α) where
  tables := rfl
  slots := rfl
  outcomes _ := rfl
  readers := rfl
  inside _ _ found := nomatch found

theorem table (agrees : Agrees run events s) : s.exchange.table 0 = { runId := run, calls := standing events } := by
  rw [Exchange.table, agrees.tables]
  rfl

theorem call? (agrees : Agrees run events s) (id : String) :
    (s.exchange.table 0).call? id = Entries.get? id (standing events) := by
  rw [agrees.table]
  rfl

theorem not_isDone (agrees : Agrees run events s) (k : Nat) :
    (!(s.exchange.slot k).isDone) = (first k events).isNone := by
  rw [Slot.not_isDone, agrees.outcomes]

/-- What is handled is answered as the history calls for. -/
theorem response (agrees : Agrees run events s) (h : Handling κ α) : (h.perform s).1 = expected run events h := by
  cases h with
  | register id call =>
    have looked := agrees.call? id
    rw [Handling.perform, expected]
    cases known : Entries.get? id (standing events) with
    | none =>
      rw [known] at looked
      rw [Exchange.register_of_fresh looked, if_neg ((Entries.get?_eq_none_iff _ _).mp known), ← agrees.slots]
    | some p =>
      rw [known] at looked
      have there : id ∈ (standing events).keys := by
        rw [← Entries.has_iff_mem_keys, Entries.has, known]
        rfl
      rw [Exchange.register_of_known looked, if_pos there, agrees.table]
  | look id => rw [Handling.perform, expected, agrees.call?]
  | settle id r =>
    rw [Handling.perform, expected, Exchange.settle_eq, agrees.call?]
    cases Entries.get? id (standing events) with
    | none => rfl
    | some p => exact congrArg Response.first (agrees.not_isDone p.slot)
  | list => rw [Handling.perform, expected, agrees.table]
  | assign slot r => exact congrArg Response.first (agrees.not_isDone slot)
  | wait slot => rw [Handling.perform, expected, agrees.readers]
  | wake reader => simp only [Handling.perform, expected, agrees.readers, agrees.outcomes]

/-- What is neither an entry nor an attempt leaves the table and its slots alone. -/
theorem idle (agrees : Agrees run events s) {h : Handled κ α} {s' : Counter κ α} (entry : h.entry? = none)
    (aim : aimed events h.1 = none) (settled : ∀ id, h.settled? = some id → Entries.get? id (standing events) = none)
    (exchange : s'.exchange = s.exchange) (readers : s'.readers = s.readers ++ h.awaited?.toList) :
    Agrees run (events ++ [h]) s' := by
  have same : standing (events ++ [h]) = standing events := by
    rw [standing_append, entry, Option.toList_none, List.append_nil]
    cases of : h.settled? with
    | none => rfl
    | some id => exact Entries.erase_eq_self_iff.mpr ((Entries.get?_eq_none_iff _ _).mp (settled id of))
  have count : handedOut (events ++ [h]) = handedOut events := by
    rw [handedOut_append, entry]
    rfl
  refine ⟨?_, ?_, fun k => ?_, ?_, ?_⟩
  · rw [exchange, same, agrees.tables]
  · rw [exchange, count, agrees.slots]
  · rw [exchange, first_append, aim, agrees.outcomes]
    exact (Option.or_none).symm
  · rw [readers, awaited_append, agrees.readers]
  · rw [same, count]
    exact agrees.inside

theorem register (agrees : Agrees run events s) {id : String} (unknown : Entries.get? id (standing events) = none)
    (call : κ) : Agrees run (events ++ [(.register id call, .slot s.exchange.slots.length)])
      { s with exchange := s.exchange.registered 0 id call } := by
  have next : standing (events ++ [(.register id call, .slot s.exchange.slots.length)]) =
      Entries.put id ⟨call, s.exchange.slots.length⟩ (standing events) := by
    rw [standing_append, Entries.put_of_absent ((Entries.get?_eq_none_iff _ _).mp unknown)]
    rfl
  have count : handedOut (events ++ [(Handling.register id call, Response.slot s.exchange.slots.length)]) =
      handedOut events + 1 := handedOut_append _ _
  refine ⟨?_, ?_, fun k => ?_, ?_, fun other p found => ?_⟩
  · rw [next, Exchange.registered, agrees.table, agrees.tables]
    rfl
  · rw [count, ← agrees.slots]
    exact List.length_append
  · rw [Exchange.outcome?_slot_registered, agrees.outcomes, first_append]
    exact (Option.or_none).symm
  · rw [awaited_append, agrees.readers]
    exact (List.append_nil _).symm
  · rw [count]
    rw [next] at found
    by_cases same : other = id
    · rw [same, Entries.get?_put_self] at found
      cases found
      rw [← agrees.slots]
      exact Nat.lt_succ_self _
    · rw [Entries.get?_put_of_ne same] at found
      exact Nat.lt_succ_of_lt (agrees.inside other p found)

theorem settle (agrees : Agrees run events s) {id : String} {p : Pending κ}
    (stands : Entries.get? id (standing events) = some p) (r : Result α) (b : Bool) :
    Agrees run (events ++ [(.settle id r, .first b)])
      { s with exchange := ((s.exchange.takeOut 0 id).assign p.slot r).2 } := by
  have next : standing (events ++ [(.settle id r, .first b)]) = Entries.erase id (standing events) := by
    rw [standing_append]
    exact List.append_nil _
  have count : handedOut (events ++ [(Handling.settle id r, Response.first b)]) = handedOut events :=
    handedOut_append _ _
  have aim : aimed events (.settle id r) = some (p.slot, r) := by
    rw [aimed, stands]
    rfl
  refine ⟨?_, ?_, fun k => ?_, ?_, fun other q found => ?_⟩
  · rw [next]
    show s.exchange.tables.modify 0 (CallTable.remove id) = _
    rw [agrees.tables]
    rfl
  · rw [count, ← agrees.slots]
    exact List.length_modify ..
  · have there : p.slot < (s.exchange.takeOut 0 id).slots.length := agrees.slots ▸ agrees.inside id p stands
    rw [first_append, aim, ← agrees.outcomes]
    exact Exchange.outcome?_slot_assign there r k
  · rw [awaited_append, agrees.readers]
    exact (List.append_nil _).symm
  · rw [next] at found
    rw [count]
    by_cases same : other = id
    · rw [same, Entries.get?_erase_self] at found
      cases found
    · rw [Entries.get?_erase_of_ne same] at found
      exact agrees.inside other q found

theorem assign (agrees : Agrees run events s) {slot : Nat} (there : slot < s.exchange.slots.length) (r : Result α)
    (b : Bool) : Agrees run (events ++ [(.assign slot r, .first b)])
      { s with exchange := (s.exchange.assign slot r).2 } := by
  have next : standing (events ++ [(.assign slot r, .first b)]) = standing events := by
    rw [standing_append]
    exact List.append_nil _
  have count : handedOut (events ++ [(Handling.assign slot r, Response.first b)]) = handedOut events :=
    handedOut_append _ _
  refine ⟨?_, ?_, fun k => ?_, ?_, ?_⟩
  · rw [next]
    exact agrees.tables
  · rw [count, ← agrees.slots]
    exact List.length_modify ..
  · rw [first_append, ← agrees.outcomes]
    exact Exchange.outcome?_slot_assign there r k
  · rw [awaited_append, agrees.readers]
    exact (List.append_nil _).symm
  · rw [next, count]
    exact agrees.inside

/-- What is handled becomes history. -/
theorem perform (agrees : Agrees run events s) {h : Handling κ α} (fits : h.Fits s) :
    Agrees run (events ++ [(h, (h.perform s).1)]) (h.perform s).2 := by
  cases h with
  | register id call =>
    have looked := agrees.call? id
    rw [Handling.perform]
    cases known : Entries.get? id (standing events) with
    | none =>
      rw [known] at looked
      rw [Exchange.register_of_fresh looked]
      exact agrees.register known call
    | some p =>
      rw [known] at looked
      rw [Exchange.register_of_known looked]
      exact agrees.idle rfl rfl nofun rfl (List.append_nil _).symm
  | look id => exact agrees.idle rfl rfl nofun rfl (List.append_nil _).symm
  | settle id r =>
    rw [Handling.perform, Exchange.settle_eq, agrees.call?]
    cases known : Entries.get? id (standing events) with
    | none =>
      refine agrees.idle rfl (by rw [aimed, known]; rfl) (fun other same => ?_) rfl (List.append_nil _).symm
      cases same
      exact known
    | some p => exact agrees.settle known r _
  | list => exact agrees.idle rfl rfl nofun rfl (List.append_nil _).symm
  | assign slot r => exact agrees.assign fits r _
  | wait slot => exact agrees.idle rfl rfl nofun rfl rfl
  | wake reader => exact agrees.idle rfl rfl nofun rfl (List.append_nil _).symm

end Agrees

/-! ## Whole runs -/

/-- An attempt succeeds if it is the first one. -/
theorem expected_of_aimed {run : String} {past : List (Handled κ α)} {h : Handling κ α} {slot : Nat} {r : Result α}
    (aim : aimed past h = some (slot, r)) : expected run past h = .first (first slot past).isNone := by
  cases h with
  | settle id outcome =>
    obtain ⟨p, stands, same⟩ := Option.map_eq_some_iff.mp aim
    cases same
    rw [expected, stands]
    rfl
  | assign other outcome =>
    cases aim
    rfl
  | register | look | list | wait | wake => cases aim

theorem Runs.agrees {run : String} {events : List (Handled κ α)} {s : Counter κ α} (runs : Runs run events s) :
    Agrees run events s := by
  induction runs with
  | opening => exact .opening
  | step _ h fits ih => exact ih.perform fits

/-- Every answer is the one that the history before it calls for. -/
theorem Runs.responses {run : String} {events : List (Handled κ α)} {s : Counter κ α} (runs : Runs run events s)
    (front back : List (Handled κ α)) (h : Handling κ α) (a : Response κ α) (split : events = front ++ (h, a) :: back) :
    a = expected run front h := by
  induction runs generalizing back with
  | opening => exact absurd split (by simp)
  | @step events s runs own fits ih =>
    rcases List.eq_nil_or_concat back with rfl | ⟨others, last, rfl⟩
    · obtain ⟨rfl, same⟩ := List.append_inj' split rfl
      cases List.singleton_inj.mp same
      exact runs.agrees.response h
    · rw [List.concat_eq_append, ← List.cons_append, ← List.append_assoc] at split
      exact ih others (List.append_inj' split rfl).1

/-- What is to be said of a table, its slots and its readers after a history. -/
structure Recalled (run : String) (events : List (Handled κ α)) (s : Counter κ α) : Prop where
  /-- The table holds the calls that stand, as they have been captured, in the order in which they were registered. -/
  calls : (s.exchange.table 0).calls = standing events
  /-- A slot holds the outcome of the first attempt to assign it. -/
  slots : ∀ k, (s.exchange.slot k).outcome? = first k events
  responses : ∀ front back h a, events = front ++ (h, a) :: back → a = expected run front h
  /-- No two attempts at one slot succeed. -/
  once : ∀ front middle back h h' k r r', events = front ++ (h, .first true) :: (middle ++ (h', .first true) :: back) →
    aimed front h = some (k, r) → aimed (front ++ (h, .first true) :: middle) h' ≠ some (k, r')
  /-- What a slot has held at some time, it still holds. -/
  kept : ∀ front back k r, events = front ++ back → first k front = some r → (s.exchange.slot k).outcome? = some r

/-- Whatever threads do with a table and its slots, in whatever order, the table recalls its history. -/
theorem Runs.recalled {run : String} {events : List (Handled κ α)} {s : Counter κ α} (runs : Runs run events s) :
    Recalled run events s := by
  refine ⟨?_, runs.agrees.outcomes, runs.responses, ?_, ?_⟩
  · rw [runs.agrees.table]
  · intro front middle back h h' k r r' split aim again
    rw [← List.cons_append, ← List.append_assoc] at split
    have answer := runs.responses _ back h' _ split
    rw [expected_of_aimed again] at answer
    have unassigned := Option.isNone_iff_eq_none.mp (Response.first.inj answer).symm
    exact first_ne_none (h := (h, .first true)) aim middle unassigned
  · intro front back k r split assigned
    rw [runs.agrees.outcomes, split, first_append_of_some assigned]

namespace Cloakroom

/-- A coat is handed in twice under one number, asked for early, given back twice and once more past the desk; then the
number is used again, and the coat is given back past the desk first. -/
def visits : List (Handling String Nat) := [
  .register "7" "coat", .register "7" "hat", .wait 0, .wake 0, .settle "7" (.ok 1), .settle "7" (.ok 2),
  .assign 0 (.error (.of (.tool "lost"))), .wake 0, .register "7" "hat", .assign 1 (.ok 3), .settle "7" (.ok 4),
  .wait 1, .wake 1, .wake 0]

/-- The first outcome counts, for those who have come early and for those who come late. -/
theorem recalled_visits : ∃ events s, Runs "desk" events s ∧ Recalled "desk" events s ∧
    events.map Prod.fst = visits ∧ events.map Prod.snd = [
      .slot 0, .refused (.of (.badValue "Call id 7 is already pending in run desk")), .reader 0, .blocked, .first true,
      .first false, .first false, .outcome (.ok 1), .slot 1, .first true, .first false, .reader 1, .outcome (.ok 3),
      .outcome (.ok 1)] := by
  have opened : Runs (κ := String) (α := Nat) "desk" [] _ := .opening
  have early := (((opened.step (.register "7" "coat") trivial).step (.register "7" "hat") trivial).step
    (.wait 0) (by decide)).step (.wake 0) trivial
  have given := (((early.step (.settle "7" (.ok 1)) trivial).step (.settle "7" (.ok 2)) trivial).step
    (.assign 0 (.error (.of (.tool "lost")))) (by decide)).step (.wake 0) trivial
  have again := ((given.step (.register "7" "hat") trivial).step (.assign 1 (.ok 3)) (by decide)).step
    (.settle "7" (.ok 4)) trivial
  have late := ((again.step (.wait 1) (by decide)).step (.wake 1) trivial).step (.wake 0) trivial
  exact ⟨_, _, late, late.recalled, rfl, by rfl⟩

end Cloakroom
end Rendezvous
