import Rendezvous.Proofs.FanOut.Census

/-!
# A planner and whoever comes to it

A loop calls its planner again and again: first to start the orchestration, then to acknowledge the agents that it has
been given, one with each call (`Desk.Move`).  Anybody may submit agents or leave the notice that the orchestration has
ended, between any two steps of such a call (`Desk.Step`).  In particular the loop takes the notices from the queue one
by one, so more may come while it does.

After some answers of the planner, some slots are owed: those of the last batch that have not been acknowledged
(`owed`).  Each call fits what is owed when it begins (`Answer.Fits`), and so the slots that have been assigned and those
that are owed make up what has been handed out, in order (`Follows.assigned_append_owed`).
-/

namespace Rendezvous

set_option autoImplicit false

namespace Desk

variable {α : Type}

/-- What a call of the loop has come to. -/
structure Answer (α : Type) where
  /-- The slots that the call has assigned. -/
  assigned : List Nat
  /-- Whether it has looked into the queue. -/
  looked : Bool
  action : LoopAction α
  /-- The run that the thread of the loop belongs to when the call is over. -/
  run : Option String

/-- Where the loop stands. -/
inductive Place (α : Type) where
  /-- It has not begun. -/
  | before
  /-- Between two calls. -/
  | idle
  /-- A turn has been acknowledged, and its slot is to be assigned. -/
  | assigning (slot : Option Nat)
  /-- One acknowledgement less is missing from here on. -/
  | counting (assigned : List Nat)
  /-- The call takes what it finds in the queue. -/
  | taking (assigned : List Nat) (taken : List (Notice α))
  | ended

namespace Place

/-- The slots that the call under way has assigned. -/
def assigned : Place α → List Nat
  | counting slots | taking slots _ => slots
  | _ => []

/-- What the call under way has taken from the queue. -/
def taken : Place α → List (Notice α)
  | taking _ notices => notices
  | _ => []

end Place
end Desk

/-- A planner, the slots of what has been submitted to it, and the loop that it answers. -/
structure Desk (α : Type) where
  planner : Planner α
  slots : List (Slot Unit) := []
  /-- The run that the thread of the loop belongs to. -/
  run : Option String := none
  place : Desk.Place α := .before
  /-- The submissions so far, in their order. -/
  submitted : List (Submission α) := []
  /-- What the calls of the loop have come to so far. -/
  answers : List (Desk.Answer α) := []

namespace Desk

variable {α : Type}

/-- A planner that has been initialized, and a loop that belongs to no run. -/
def opening (plan : PlannerPlan) (agents : List α) (scope : Nat) : Desk α :=
  { planner := ({ plan } : Planner α).init agents scope }

/-! ## Steps -/

/-- An agent is submitted. -/
def submit (agent : α) (run : Option String) (d : Desk α) : Desk α :=
  { d with
    planner := d.planner.submit { agent, slot := d.slots.length, run }
    slots := d.slots ++ [.pending]
    submitted := d.submitted ++ [{ agent, slot := d.slots.length, run }] }

/-- The run that the thread of the loop belongs to after an action. -/
def runAfter (run : Option String) (action : LoopAction α) : Option String :=
  if action.isDone then none else (Planner.boundRun action).or run

/-- A call is over. -/
def answer (assigned : List Nat) (looked : Bool) (action : LoopAction α) (d : Desk α) : Desk α :=
  { d with
    run := runAfter d.run action
    place := if action.isDone then .ended else .idle
    answers := d.answers ++ [{ assigned, looked, action, run := runAfter d.run action }] }

/-- One step of the loop. -/
inductive Move : Desk α → Desk α → Prop
  | start (d : Desk α) (at_ : d.place = .before) : Move d { d with place := .counting [] }
  /-- The orchestration cannot be started. -/
  | refuse (d : Desk α) (at_ : d.place = .before) : Move d { d with run := none, place := .ended }
  | acknowledge (d : Desk α) (at_ : d.place = .idle) :
      Move d { d with
        planner := d.planner.acknowledge.2, run := none, place := .assigning d.planner.acknowledge.1 }
  | assign (d : Desk α) (slot : Option Nat) (at_ : d.place = .assigning slot) :
      Move d { d with
        slots := slot.toList.foldl (fun slots k => slots.modify k (Slot.assign (.ok ()))) d.slots
        place := .counting slot.toList }
  | wait (d : Desk α) (assigned : List Nat) (at_ : d.place = .counting assigned)
      (waits : d.planner.countDown.isWaiting = true) :
      Move d ({ d with planner := d.planner.countDown }.answer assigned false .noOp)
  | look (d : Desk α) (assigned : List Nat) (at_ : d.place = .counting assigned)
      (free : d.planner.countDown.isWaiting = false) :
      Move d { d with planner := d.planner.countDown, place := .taking assigned [] }
  | take (d : Desk α) (assigned : List Nat) (taken rest : List (Notice α)) (n : Notice α)
      (at_ : d.place = .taking assigned taken) (queue : d.planner.queue = n :: rest) :
      Move d { d with
        planner := { d.planner with queue := rest }, place := .taking assigned (taken ++ [n]) }
  /-- Nothing more is in the queue; what has been taken is drained as if it had been there at one time. -/
  | conclude (d : Desk α) (assigned : List Nat) (taken : List (Notice α)) (action : LoopAction α) (p : Planner α)
      (at_ : d.place = .taking assigned taken) (empty : d.planner.queue = [])
      (drained : ({ d.planner with queue := taken } : Planner α).drain = some (action, p)) :
      Move d ({ d with planner := p }.answer assigned true action)

/-- One step of anybody. -/
inductive Step : Desk α → Desk α → Prop
  | move {d d' : Desk α} (move : Move d d') : Step d d'
  | submit (d : Desk α) (agent : α) (run : Option String) : Step d (d.submit agent run)
  | complete (d : Desk α) : Step d { d with planner := d.planner.complete }
  /-- Between two calls, an agent on the thread of the loop may leave it to any run. -/
  | wander (d : Desk α) (run : Option String) (at_ : d.place = .idle) : Step d { d with run }

/-- What any schedule can lead to. -/
inductive Reachable : Desk α → Prop
  | opening (plan : PlannerPlan) (agents : List α) (scope : Nat) : Reachable (opening plan agents scope)
  | step {d d' : Desk α} (reach : Reachable d) (step : Step d d') : Reachable d'

/-! ## What is owed -/

namespace Answer

/-- What is owed after a call, if some slots were owed before. -/
def owes (slots : List Nat) (a : Answer α) : List Nat :=
  match a.action with
  | .call batch => batch.map (·.slot)
  | .noOp | .done => slots.tail

/-- A call acknowledges the first of the slots that are owed, and looks into the queue only for the last of them. -/
structure Fits (slots : List Nat) (a : Answer α) : Prop where
  assigned : a.assigned = slots.head?.toList
  waits : 1 < slots.length → a.action = .noOp ∧ a.looked = false
  looks : slots.length ≤ 1 → a.action ≠ .noOp ∧ a.looked = true
  nonempty : a.action ≠ .call []

end Answer

/-- The slots that are owed after some answers. -/
def owed (answers : List (Answer α)) : List Nat := answers.foldl Answer.owes []

/-- The submissions that have been handed out. -/
def handedOut (answers : List (Answer α)) : List (Submission α) := answers.flatMap (·.action.batch)

/-- Each of some answers fits what is owed before it. -/
def Follows : List Nat → List (Answer α) → Prop
  | _, [] => True
  | slots, a :: rest => a.Fits slots ∧ Follows (a.owes slots) rest

theorem owed_concat (answers : List (Answer α)) (a : Answer α) : owed (answers ++ [a]) = a.owes (owed answers) := by
  simp [owed, List.foldl_append]

theorem handedOut_concat (answers : List (Answer α)) (a : Answer α) :
    handedOut (answers ++ [a]) = handedOut answers ++ a.action.batch := by
  simp [handedOut]

theorem Follows.append {slots : List Nat} {answers : List (Answer α)} {a : Answer α} (follows : Follows slots answers)
    (fits : a.Fits (answers.foldl Answer.owes slots)) : Follows slots (answers ++ [a]) := by
  induction answers generalizing slots with
  | nil => exact ⟨fits, trivial⟩
  | cons first rest ih => exact ⟨follows.1, ih follows.2 fits⟩

theorem head?_toList_of_short {slots : List Nat} (short : slots.length ≤ 1) : slots.head?.toList = slots := by
  match slots, short with
  | [], _ => rfl
  | [k], _ => rfl

/-- What a call assigns and what is owed after it is what was owed before it, and what it hands out. -/
theorem Answer.Fits.assigned_append_owes {slots : List Nat} {a : Answer α} (fits : a.Fits slots) :
    a.assigned ++ a.owes slots = slots ++ a.action.batch.map (·.slot) := by
  rw [fits.assigned, Answer.owes]
  cases action : a.action with
  | call batch =>
    have short : slots.length ≤ 1 := by
      by_contra several
      cases action.symm.trans (fits.waits (by omega)).1
    rw [head?_toList_of_short short]
    rfl
  | noOp | done => exact (Planner.head?_toList_append_tail slots).trans (List.append_nil slots).symm

theorem Follows.assigned_append {slots : List Nat} {answers : List (Answer α)} (follows : Follows slots answers) :
    answers.flatMap (·.assigned) ++ answers.foldl Answer.owes slots =
      slots ++ (handedOut answers).map (·.slot) := by
  induction answers generalizing slots with
  | nil => exact (List.append_nil slots).symm
  | cons a rest ih =>
    calc (a :: rest).flatMap (·.assigned) ++ (a :: rest).foldl Answer.owes slots
      _ = a.assigned ++ (rest.flatMap (·.assigned) ++ rest.foldl Answer.owes (a.owes slots)) := by
          rw [List.flatMap_cons, List.foldl_cons, List.append_assoc]
      _ = a.assigned ++ a.owes slots ++ (handedOut rest).map (·.slot) := by
          rw [ih follows.2, List.append_assoc]
      _ = slots ++ (handedOut (a :: rest)).map (·.slot) := by
          rw [follows.1.assigned_append_owes, handedOut, handedOut, List.flatMap_cons, List.map_append,
            List.append_assoc]

/-- The slots that have been assigned and those that are owed are those that have been handed out, in order. -/
theorem Follows.assigned_append_owed {answers : List (Answer α)} (follows : Follows [] answers) :
    answers.flatMap (·.assigned) ++ owed answers = (handedOut answers).map (·.slot) :=
  follows.assigned_append

/-! ## The calls one by one -/

theorem owed_take_succ {answers : List (Answer α)} {m : Nat} {a : Answer α} (there : answers[m]? = some a) :
    owed (answers.take (m + 1)) = a.owes (owed (answers.take m)) := by
  rw [List.take_add_one, there]
  exact owed_concat _ _

theorem Follows.fits {slots : List Nat} {answers : List (Answer α)} (follows : Follows slots answers) {m : Nat}
    {a : Answer α} (there : answers[m]? = some a) : a.Fits ((answers.take m).foldl Answer.owes slots) := by
  induction m generalizing slots answers with
  | zero =>
    cases answers with
    | nil => cases there
    | cons first rest =>
      obtain rfl : first = a := Option.some.inj there
      exact follows.1
  | succ m ih =>
    cases answers with
    | nil => cases there
    | cons first rest => exact ih follows.2 there

/-- Call number `m` is the one that ends the turn of number `k` of a batch: as many calls lie between it and the one that
has handed out the batch. -/
structure Closes (answers : List (Answer α)) (m : Nat) (batch : List (Submission α)) (k : Nat) : Prop where
  within : k < batch.length
  handed : ∃ i a, answers[i]? = some a ∧ a.action = .call batch ∧ m = i + 1 + k

/-- As long as anything is owed, the next call ends a turn. -/
theorem closes_of_owed {answers : List (Answer α)} {m : Nat} (known : m ≤ answers.length)
    (left : owed (answers.take m) ≠ []) : ∃ batch k, Closes answers m batch k ∧
      owed (answers.take m) = (batch.map (·.slot)).drop k := by
  induction m with
  | zero => exact absurd rfl left
  | succ m ih =>
    obtain ⟨a, there⟩ : ∃ a, answers[m]? = some a := ⟨_, List.getElem?_eq_getElem known⟩
    rw [owed_take_succ there] at left ⊢
    unfold Answer.owes at left ⊢
    cases action : a.action with
    | call batch =>
      rw [action] at left
      refine ⟨batch, 0, ⟨?_, m, a, there, action, rfl⟩, rfl⟩
      exact List.length_pos_iff.mpr fun empty => left (by rw [empty]; rfl)
    | noOp | done =>
      rw [action] at left
      have before : owed (answers.take m) ≠ [] := fun none => left (by rw [none]; rfl)
      obtain ⟨batch, k, ⟨within, i, c, handed, call, at_⟩, owes⟩ := ih (by omega) before
      have step : (owed (answers.take m)).tail = (batch.map (·.slot)).drop (k + 1) := by rw [owes, List.tail_drop]
      refine ⟨batch, k + 1, ⟨?_, i, c, handed, call, by omega⟩, step⟩
      by_contra beyond
      refine left (step.trans (List.drop_eq_nil_of_le ?_))
      rw [List.length_map]
      omega

/-- What is owed when a call ends a turn: that turn, and those behind it in the batch. -/
theorem Closes.owed {answers : List (Answer α)} {m : Nat} {batch : List (Submission α)} {k : Nat}
    (closes : Closes answers m batch k) (follows : Follows [] answers) (known : m ≤ answers.length) :
    owed (answers.take m) = (batch.map (·.slot)).drop k := by
  obtain ⟨within, i, c, handed, call, rfl⟩ := closes
  induction k with
  | zero =>
    rw [Nat.add_zero, owed_take_succ handed, Answer.owes, call]
    rfl
  | succ k ih =>
    obtain ⟨a, there⟩ : ∃ a, answers[i + 1 + k]? = some a := ⟨_, List.getElem?_eq_getElem (by omega)⟩
    have before := ih (by omega) (by omega)
    have fits : a.Fits (Desk.owed (answers.take (i + 1 + k))) := follows.fits there
    have waits := (fits.waits (by rw [before, List.length_drop, List.length_map]; omega)).1
    rw [← Nat.add_assoc, owed_take_succ there, Answer.owes, waits, before]
    exact List.tail_drop

end Desk
end Rendezvous
