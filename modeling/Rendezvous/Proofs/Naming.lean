import Mathlib.Data.List.Basic
import Rendezvous.Contract.Orchestration

/-!
# Names that tell things apart

Numbers are written with their digits, which say which number it is (`repr_injective`).  The run of a step is named for
the planner, the agent and, inside of a loop, the iteration; the name says which they are, as no colon is a digit
(`stepRunId_injective`).  It says which planner it is, too, where no planner has a colon in its id
(`planner_of_stepRunId`).
-/

namespace Rendezvous

set_option autoImplicit false

theorem repr_injective {m n : Nat} (same : m.repr = n.repr) : m = n := by
  have digits : Nat.toDigits 10 m = Nat.toDigits 10 n := by
    rw [← Nat.toList_repr, ← Nat.toList_repr, same]
  calc m
    _ = Nat.ofDigitChars 10 (Nat.toDigits 10 m) 0 := by
      rw [Nat.ofDigitChars_toDigits (by decide) (by decide)]
    _ = Nat.ofDigitChars 10 (Nat.toDigits 10 n) 0 := by rw [digits]
    _ = n := Nat.ofDigitChars_toDigits (by decide) (by decide)

theorem colon_notMem_repr (n : Nat) : ':' ∉ n.repr.toList := by
  rw [Nat.toList_repr]
  intro mem
  have digit := Nat.isDigit_of_mem_toDigits (by decide) (by decide) mem
  exact absurd digit (by decide)

theorem stepRunId_succ (id : String) (i n : Nat) :
    stepRunId id i ((n + 1 : Nat) : Int) = id ++ ":" ++ i.repr ++ ":" ++ (n + 1).repr := by
  have later : (0 : Int) < ((n + 1 : Nat) : Int) := by omega
  rw [stepRunId, if_pos later]
  rfl

/-- The run of a step says which agent it is for and in which iteration. -/
theorem stepRunId_injective {id : String} {i j n m : Nat} (same : stepRunId id i n = stepRunId id j m) :
    i = j ∧ n = m := by
  have rest {a b : String} (same : id ++ ":" ++ a = id ++ ":" ++ b) : a = b :=
    (String.append_right_inj (id ++ ":")).mp same
  have first (i n : Nat) : stepRunId id i ((n + 1 : Nat) : Int) = id ++ ":" ++ (i.repr ++ ":" ++ (n + 1).repr) := by
    simp only [stepRunId_succ, String.append_assoc]
  have colon (i n : Nat) : ':' ∈ (i.repr ++ ":" ++ n.repr).toList := by
    rw [String.toList_append, String.toList_append]
    exact List.mem_append_left _ (List.mem_append_right _ (List.mem_singleton.mpr rfl))
  cases n with
  | zero =>
    cases m with
    | zero => exact ⟨repr_injective (rest same), rfl⟩
    | succ m =>
      have name : i.repr = j.repr ++ ":" ++ (m + 1).repr := rest (same.trans (first j m))
      exact absurd (name ▸ colon j (m + 1)) (colon_notMem_repr i)
  | succ n =>
    cases m with
    | zero =>
      have name : j.repr = i.repr ++ ":" ++ (n + 1).repr := rest (same.symm.trans (first i n))
      exact absurd (name ▸ colon i (n + 1)) (colon_notMem_repr j)
    | succ m =>
      rw [first, first] at same
      have lists := congrArg String.toList (rest same)
      simp only [String.toList_append] at lists
      have colons : ":".toList = [':'] := rfl
      rw [colons, List.append_assoc, List.append_assoc, List.singleton_append, List.singleton_append,
        List.append_cons_inj_of_notMem (colon_notMem_repr i) (colon_notMem_repr (n + 1))] at lists
      exact ⟨repr_injective (String.toList_inj.mp lists.1), repr_injective (String.toList_inj.mp lists.2.2)⟩

/-- The run of a step is named for its planner first, and the rest is behind a colon. -/
theorem toList_stepRunId (id : String) (i n : Int) : ∃ rest, (stepRunId id i n).toList = id.toList ++ ':' :: rest := by
  unfold stepRunId
  split
  · exact ⟨(toString i).toList ++ ":".toList ++ (toString n).toList, by simp [String.toList_append]⟩
  · exact ⟨(toString i).toList, by simp [String.toList_append]⟩

/-- Where no planner has a colon in its id, the run of a step says which planner it is for. -/
theorem planner_of_stepRunId {id id' : String} {i j n m : Int} (plain : ':' ∉ id.toList) (plain' : ':' ∉ id'.toList)
    (same : stepRunId id i n = stepRunId id' j m) : id = id' := by
  -- the planner is what comes before the first colon
  have before {id : String} (plain : ':' ∉ id.toList) (i n : Int) :
      (stepRunId id i n).toList.takeWhile (· ≠ ':') = id.toList := by
    obtain ⟨rest, named⟩ := toList_stepRunId id i n
    have none : ∀ c ∈ id.toList, decide (c ≠ ':') = true := fun c mem =>
      decide_eq_true fun colon => plain (colon ▸ mem)
    rw [named, List.takeWhile_append_of_pos none, List.takeWhile_cons]
    simp
  exact String.toList_inj.mp (by rw [← before plain i n, same, before plain' j m])

theorem StepOrder.runId_injective {o o' : StepOrder} (planner : o.plannerId = o'.plannerId)
    (same : o.runId = o'.runId) : o = o' := by
  obtain ⟨id, i, n⟩ := o
  obtain ⟨id', j, m⟩ := o'
  cases planner
  obtain ⟨rfl, rfl⟩ := stepRunId_injective same
  rfl

/-- The run of a step is not its planner. -/
theorem StepOrder.runId_ne_plannerId (o : StepOrder) : o.runId ≠ o.plannerId := by
  intro same
  obtain ⟨rest, named⟩ := toList_stepRunId o.plannerId o.agentIndex o.iteration
  have length := congrArg List.length ((congrArg String.toList same).symm.trans named)
  rw [List.length_append, List.length_cons] at length
  omega

theorem StepOrder.runId_ne_empty (o : StepOrder) : o.runId ≠ "" := by
  unfold runId stepRunId
  split <;> simp

end Rendezvous
