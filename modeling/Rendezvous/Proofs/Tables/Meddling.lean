import Mathlib.Logic.Relation
import Rendezvous.Proofs.Tables.Recall

/-!
# Meddling with an exchange

Whatever a thread does with runs, calls and slots, it does to the exchange that all threads share, one thing at a time
(`Exchange.Touches`).

* An exchange that has come about like this is sound: live runs have tables and calls have slots that are there
  (`Exchange.Arises.sound`).
* Others may settle a call, forget its run, or assign its slot, while it is executed.  As long as nobody registers
  another call under its id, the call stands or its slot has been assigned (`Due.meddled`), so settling it then leaves
  its slot assigned, and touches nothing but its entry and that slot (`Due.released`).
-/

namespace Rendezvous

set_option autoImplicit false

variable {κ α : Type}

namespace Exchange

/-! ## One thing at a time -/

/-- One thing that a thread does to the exchange.  It registers calls only under ids that are free for it. -/
inductive Touches (free : Nat → String → Prop) : Exchange κ α → Exchange κ α → Prop
  | createRun {e : Exchange κ α} (run : String) : Touches free e (e.createRun run)
  | dropRun {e : Exchange κ α} (run : String) : Touches free e (e.dropRun run)
  | register {e e' : Exchange κ α} {n slot : Nat} {id : String} {call : κ} (isFree : free n id)
      (done : e.register n id call = .ok (slot, e')) : Touches free e e'
  | settle {e : Exchange κ α} (n : Nat) (id : String) (outcome : Result α) :
      Touches free e (e.settle n id outcome).2
  | assign {e : Exchange κ α} (slot : Nat) (outcome : Result α) : Touches free e (e.assign slot outcome).2

/-- An exchange that a process can come to. -/
def Arises (e : Exchange κ α) : Prop := Relation.ReflTransGen (Touches fun _ _ => True) {} e

/-- What others may do while a call is executed. -/
def Meddled (n : Nat) (id : String) : Exchange κ α → Exchange κ α → Prop :=
  Relation.ReflTransGen (Touches fun m other => m = n → other ≠ id)

/-- Live runs have tables, and calls have slots. -/
structure Sound (e : Exchange κ α) : Prop where
  live : ∀ entry ∈ e.live, entry.2 < e.tables.length
  slots : ∀ n id p, (e.table n).call? id = some p → p.slot < e.slots.length

variable {e e' : Exchange κ α} {free : Nat → String → Prop} {n m slot k : Nat} {id other : String} {p : Pending κ}
  {r first : Result α}

/-! ## Entries and slots from one step to the next -/

/-- A call that is taken out is the only one that goes. -/
theorem call?_of_call?_takeOut (found : ((e.takeOut n id).table m).call? other = some p) :
    (e.table m).call? other = some p := by
  by_cases same : other = id
  · subst same
    by_cases here : m = n
    · rw [here, call?_takeOut_self] at found
      cases found
    · rwa [call?_takeOut_elsewhere here] at found
  · rwa [call?_takeOut_of_ne same] at found

/-- A call that is registered is the only one that comes. -/
theorem call?_of_call?_registered {call : κ} (found : ((e.registered n id call).table m).call? other = some p) :
    (e.table m).call? other = some p ∨ p.slot = e.slots.length := by
  by_cases same : other = id
  · subst same
    by_cases here : m = n
    · subst here
      by_cases inside : m < e.tables.length
      · rw [call?_registered inside] at found
        cases found
        exact .inr rfl
      · have outside : e.tables.length ≤ m := Nat.le_of_not_lt inside
        simp [registered, table, List.getD_eq_getElem?_getD, outside, CallTable.call?, Entries.get?] at found
    · rw [call?_registered_elsewhere here] at found
      exact .inl found
  · rw [call?_registered_of_ne same] at found
    exact .inl found

/-- A call that others leave alone is neither found where it was not, nor the other way round. -/
theorem call?_registered_of_apart (apart : m = n → other ≠ id) (call : κ) :
    ((e.registered m other call).table n).call? id = (e.table n).call? id := by
  by_cases same : id = other
  · subst same
    have elsewhere : n ≠ m := fun here => apart here.symm rfl
    exact call?_registered_elsewhere elsewhere call
  · exact call?_registered_of_ne same call

theorem length_slots_registered {call : κ} : (e.registered n id call).slots.length = e.slots.length + 1 :=
  List.length_append

theorem length_slots_assign : (e.assign slot r).2.slots.length = e.slots.length := List.length_modify ..

/-- A slot keeps its outcome, whatever is assigned. -/
theorem outcome?_slot_assign_of_some (assigned : (e.slot k).outcome? = some first) :
    ((e.assign slot r).2.slot k).outcome? = some first := by
  by_cases there : slot < e.slots.length
  · rw [outcome?_slot_assign there, assigned, Option.some_or]
  · have same : (e.assign slot r).2.slots = e.slots :=
      List.modify_eq_self (Nat.le_of_not_lt there)
    rwa [Exchange.slot, same]

/-! ## Soundness -/

/-- The table of a live run is there. -/
theorem Sound.inside (sound : e.Sound) {run : String} (live : e.tableOf? run = some n) : n < e.tables.length :=
  sound.live (run, n) (Entries.mem_of_get? live)

theorem Sound.empty : Sound ({} : Exchange κ α) where
  live _ mem := nomatch mem
  slots _ _ _ found := nomatch found

/-- Whatever a thread does, the exchange stays sound. -/
theorem Sound.touches (sound : e.Sound) (touches : Touches free e e') : e'.Sound := by
  cases touches with
  | createRun run =>
    refine ⟨fun entry mem => ?_, fun n id p found => ?_⟩
    · have longer : (e.createRun run).tables.length = e.tables.length + 1 := List.length_append
      rw [longer]
      obtain old | new := Entries.mem_of_mem_put mem
      · exact Nat.lt_succ_of_lt (sound.live entry old)
      · rw [new]
        exact Nat.lt_succ_self _
    · rw [call?_createRun] at found
      exact sound.slots n id p found
  | dropRun run => exact ⟨fun entry mem => sound.live entry (Entries.mem_erase.mp mem).1, sound.slots⟩
  | @register _ n _ id call _ done =>
    obtain ⟨-, rfl⟩ := of_register done
    refine ⟨fun entry mem => ?_, fun m other p found => ?_⟩
    · have same : (e.registered n id call).tables.length = e.tables.length := List.length_set
      exact same ▸ sound.live entry mem
    · rw [length_slots_registered]
      obtain old | new := call?_of_call?_registered found
      · exact Nat.lt_succ_of_lt (sound.slots m other p old)
      · exact new ▸ Nat.lt_succ_self _
  | settle n id outcome =>
    rw [settle_eq]
    cases (e.table n).call? id with
    | none => exact sound
    | some q =>
      refine ⟨fun entry mem => ?_, fun m other p found => ?_⟩
      · have same : ((e.takeOut n id).assign q.slot outcome).2.tables.length = e.tables.length :=
          List.length_modify ..
        exact same ▸ sound.live entry mem
      · rw [length_slots_assign]
        exact sound.slots m other p (call?_of_call?_takeOut found)
  | assign slot outcome =>
    refine ⟨sound.live, fun n id p found => ?_⟩
    rw [length_slots_assign]
    exact sound.slots n id p found

theorem Arises.sound (arises : e.Arises) : e.Sound := by
  induction arises with
  | refl => exact .empty
  | tail _ touches ih => exact ih.touches touches

theorem Arises.registered (arises : e.Arises) (fresh : (e.table n).call? id = none) (call : κ) :
    (e.registered n id call).Arises :=
  arises.tail (.register trivial (register_of_fresh fresh call))

/-! ## A call among others -/

/-- A call stands, or its slot has been assigned. -/
structure Due (n : Nat) (id : String) (p : Pending κ) (e : Exchange κ α) : Prop where
  inside : p.slot < e.slots.length
  stands : (e.table n).call? id = some p ∨ (e.table n).call? id = none ∧ ∃ r, (e.slot p.slot).outcome? = some r

theorem Sound.due (sound : e.Sound) (found : (e.table n).call? id = some p) : Due n id p e :=
  ⟨sound.slots n id p found, .inl found⟩

/-- What leaves the entry alone, and keeps outcomes, keeps the call due. -/
theorem Due.frame (due : Due n id p e) (slots : e.slots.length ≤ e'.slots.length)
    (entry : (e'.table n).call? id = (e.table n).call? id)
    (kept : ∀ r, (e.slot p.slot).outcome? = some r → (e'.slot p.slot).outcome? = some r) : Due n id p e' := by
  refine ⟨Nat.lt_of_lt_of_le due.inside slots, ?_⟩
  rw [entry]
  exact due.stands.imp_right fun ⟨gone, r, assigned⟩ => ⟨gone, r, kept r assigned⟩

/-- A call is due until it is settled, and from then on its slot is assigned. -/
theorem Due.touches (due : Due n id p e) (touches : Touches (fun m other => m = n → other ≠ id) e e') :
    Due n id p e' := by
  cases touches with
  | createRun run => exact due.frame (Nat.le_refl _) (call?_createRun run) fun _ kept => kept
  | dropRun run => exact due.frame (Nat.le_refl _) rfl fun _ kept => kept
  | @register _ m _ other call apart done =>
    obtain ⟨-, rfl⟩ := of_register done
    refine due.frame ?_ (call?_registered_of_apart apart call) fun r kept => ?_
    · exact length_slots_registered.symm ▸ Nat.le_succ _
    · rwa [outcome?_slot_registered]
  | settle m other outcome =>
    rw [settle_eq]
    cases found : (e.table m).call? other with
    | none => exact due
    | some q =>
      have slots : ((e.takeOut m other).assign q.slot outcome).2.slots.length = e.slots.length := length_slots_assign
      by_cases own : m = n ∧ other = id
      · -- Somebody else settles the call, whose slot is assigned now if it has not been before.
        obtain ⟨rfl, rfl⟩ := own
        have same : q = p := by
          obtain stands | ⟨gone, -⟩ := due.stands
          · exact Option.some.inj (found.symm.trans stands)
          · exact nomatch found.symm.trans gone
        subst same
        refine ⟨slots.symm ▸ due.inside, .inr ⟨call?_takeOut_self, ?_⟩⟩
        have there : q.slot < (e.takeOut m other).slots.length := due.inside
        rw [outcome?_slot_assign there]
        cases ((e.takeOut m other).slot q.slot).outcome? <;> simp
      · refine due.frame (Nat.le_of_eq slots.symm) ?_ fun r kept => outcome?_slot_assign_of_some kept
        show ((e.takeOut m other).table n).call? id = _
        by_cases same : id = other
        · have elsewhere : n ≠ m := fun here => own ⟨here.symm, same.symm⟩
          rw [same, call?_takeOut_elsewhere elsewhere]
        · exact call?_takeOut_of_ne same
  | assign slot outcome =>
    exact due.frame (Nat.le_of_eq length_slots_assign.symm) rfl fun r kept => outcome?_slot_assign_of_some kept

theorem Due.meddled (due : Due n id p e) (meddled : Meddled n id e e') : Due n id p e' := by
  induction meddled with
  | refl => exact due
  | tail _ touches ih => exact ih.touches touches

/-- What becomes of an exchange when a call is released: its entry goes, its slot is assigned unless it has been
before, and all the rest stays. -/
structure Released (n : Nat) (id : String) (p : Pending κ) (r : Result α) (e e' : Exchange κ α) : Prop where
  slot : (e'.slot p.slot).outcome? = some ((e.slot p.slot).outcome?.getD r)
  slots : ∀ k, k ≠ p.slot → e'.slot k = e.slot k
  table : e'.table n = (e.table n).remove id
  tables : ∀ m, m ≠ n → e'.table m = e.table m
  live : e'.live = e.live

/-- Settling a call that is due releases it. -/
theorem Due.released (due : Due n id p e) (r : Result α) : Released n id p r e (e.settle n id r).2 := by
  rw [settle_eq]
  obtain stands | ⟨gone, first, assigned⟩ := due.stands
  · rw [stands]
    have there : p.slot < (e.takeOut n id).slots.length := due.inside
    refine ⟨?_, fun k ne => slot_assign_of_ne ne r, table_takeOut_self, fun m ne => table_takeOut_of_ne ne, rfl⟩
    rw [outcome?_slot_assign there]
    show (e.slot p.slot).outcome?.or _ = _
    cases (e.slot p.slot).outcome? <;> simp
  · rw [gone]
    refine ⟨by rw [assigned, Option.getD_some], fun _ _ => rfl, ?_, fun _ _ => rfl, rfl⟩
    rw [CallTable.remove, Entries.erase_eq_self_iff.mpr ((Entries.get?_eq_none_iff _ _).mp gone)]

end Exchange
end Rendezvous
