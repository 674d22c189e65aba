import Rendezvous.Failure

/-!
# Slots

A slot holds the outcome that one thread leaves for others.  It is assigned once: what comes later is
not taken, and every reader finds the first outcome, whenever it begins to wait.

`assign_assign` says that a second assignment changes nothing, `outcome?_assign` what readers find.
-/

namespace Rendezvous

/-- A place for one outcome. -/
inductive Slot (α : Type) where
  | pending
  | assigned (outcome : Result α)

instance {α : Type} : Inhabited (Slot α) := ⟨.pending⟩

namespace Slot

variable {α : Type}

/-- Whether the slot has been assigned. -/
def isDone : Slot α → Bool
  | pending => false
  | assigned _ => true

/-- What readers find; nothing while they have to wait. -/
def outcome? : Slot α → Option (Result α)
  | pending => none
  | assigned outcome => some outcome

/-- Leave an outcome, unless there is one. -/
def assign (outcome : Result α) : Slot α → Slot α
  | pending => assigned outcome
  | assigned first => assigned first

/-- How a slot shows itself. -/
def shown (s : Slot α) : String := if s.isDone then "ResultSlot(done)" else "ResultSlot(pending)"

theorem assign_assign (first second : Result α) (s : Slot α) :
    (s.assign first).assign second = s.assign first := by
  cases s <;> rfl

theorem outcome?_assign (outcome : Result α) (s : Slot α) :
    (s.assign outcome).outcome? = some (s.outcome?.getD outcome) := by
  cases s <;> rfl

end Slot
end Rendezvous
