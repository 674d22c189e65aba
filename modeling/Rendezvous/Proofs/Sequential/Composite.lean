import Rendezvous.Proofs.Sequential.Settled

/-!
# An orchestration as the work of one agent

Seen from outside, an orchestration that orders one step at a time does what its course means: every step of
every thread keeps what is going to come of it (`Step.onward`), and what its turns leave behind is counted
with it.  So it simulates its meaning (`Cast.orchestration`), as the agents that take part in it simulate
theirs.
-/

namespace Rendezvous

set_option autoImplicit false

namespace Ensemble

variable {β : Type} {e : Ensemble β Scope} {p : Play} {c : Cast e p}

/-- What has come of a loop that has ended; the value of the agent is not known yet. -/
def Loop.ending? : e.Loop → Option (Result Value)
  | .ended r => some (r.map fun _ => .null)
  | _ => none

/-- An orchestration, from the start of its loop on. -/
def orchestration (e : Ensemble β Scope) : Behaviour Scope where
  State := e.Stage
  start := e.opening
  Step := Step
  result? s := s.loop.ending?

theorem Loop.ending?_eq_some {loop : e.Loop} {r : Result Value} (ending : loop.ending? = some r) :
    ∃ r', loop = .ended r' ∧ r = r'.map fun _ => .null := by
  cases loop with
  | ended r' => exact ⟨r', rfl, (Option.some.inj ending).symm⟩
  | _ => cases ending

/-- What comes of a loop as what comes of an agent. -/
def valued (o : Scope × Result Unit) : Scope × Result Value := andThen o fun _ y => (y, .ok .null)

theorem valued_eq (x : Scope) (r : Result Unit) : valued (x, r) = (x, r.map fun _ => .null) := by
  cases r <;> rfl

/-! ## One step of any thread -/

theorem FlowStep.loop_frame {x : Scope} {s t : e.Stage} (moves : FlowStep x s t) : t.loop = s.loop := by
  cases moves <;> rfl

theorem ErrandStep.loop_frame {s t : e.Stage} {a b : Errand β} (moves : ErrandStep s a t b) :
    t.loop = s.loop := by
  cases moves <;> rfl

/-- A step that leaves the result certain. -/
theorem Onward.of_still {s t : e.Stage} {x : Scope} {r : Result Unit} {n : Nat}
    (still : t.retired = s.retired ∧ ∃ m < n, Settled t r m) : Onward c s t x (x, r) n := by
  obtain ⟨retired, m, less, settled⟩ := still
  exact .of_settled retired m less settled

/-- Whichever thread goes on, the future stays, and fewer steps are left, those of turns that are over
included. -/
theorem Step.onward {s t : e.Stage} {x y : Scope} {o : Scope × Result Unit} {l n : Nat}
    (moves : Step s x t y) (reach : Reachable s) (rested : Rested c s.retired l)
    (future : Future c s x o n) :
    ∃ l' n', Rested c t.retired l' ∧ Future c t y o n' ∧ n' + l' < n + l := by
  have count {t : e.Stage} {y : Scope} (onward : Onward c s t y o n) :
      ∃ l' n', Rested c t.retired l' ∧ Future c t y o n' ∧ n' + l' < n + l := by
    rcases onward with ⟨same, m, less, future'⟩ | ⟨turn, k, m, more, rest, future', less⟩
    · exact ⟨l, m, by rwa [same], future', by omega⟩
    · exact ⟨l + k, m, by rw [more]; exact rested.concat rest, future', by omega⟩
  cases moves with
  | loop moves =>
    refine count ?_
    rcases future with active | ⟨settled, rfl⟩
    · exact moves.onward reach active
    · exact .of_still (moves.settled settled)
  | flow moves =>
    refine count ?_
    rcases future with active | ⟨settled, rfl⟩
    · exact moves.onward reach active
    · exact .of_still (moves.settled settled)
  | errand i there moves =>
    refine count ?_
    rcases future with active | ⟨settled, rfl⟩
    · exact moves.onward there reach active
    · exact .of_still (moves.settled c there reach settled)
  | perform i at_ there moves =>
    rcases future with active | ⟨settled, -⟩
    · exact count (.of_perform at_ there moves active)
    · exact (settled.not_running at_).elim
  | @linger x y turn q i there moves =>
    obtain ⟨rfl, l', less, rested'⟩ := rested.linger there moves
    refine ⟨l', n, rested', ?_, by omega⟩
    rcases future with active | ⟨settled, same⟩
    · exact .inl (active.retire _)
    · exact .inr ⟨settled.retire _, same⟩

/-- Once the loop has ended, no step of any thread touches what is shared. -/
theorem Step.still {s t : e.Stage} {x y : Scope} {r : Result Unit} {l n : Nat} (moves : Step s x t y)
    (reach : Reachable s) (ended : s.loop = .ended r) (rested : Rested c s.retired l)
    (settled : Settled s r n) :
    y = x ∧ t.loop = s.loop ∧ ∃ l' n', Rested c t.retired l' ∧ Settled t r n' ∧ n' + l' < n + l := by
  have count {t : e.Stage} (still : t.retired = s.retired ∧ ∃ m < n, Settled t r m) :
      ∃ l' n', Rested c t.retired l' ∧ Settled t r n' ∧ n' + l' < n + l := by
    obtain ⟨same, m, less, settled'⟩ := still
    exact ⟨l, m, by rwa [same], settled', by omega⟩
  cases moves with
  | loop moves => cases moves <;> simp_all
  | flow moves => exact ⟨rfl, moves.loop_frame, count (moves.settled settled)⟩
  | errand i there moves => exact ⟨rfl, moves.loop_frame, count (moves.settled c there reach settled)⟩
  | perform i at_ there moves => cases ended.symm.trans at_
  | @linger x y turn q i there moves =>
    obtain ⟨rfl, l', less, rested'⟩ := rested.linger there moves
    exact ⟨rfl, rfl, l', n, rested', settled.retire _, by omega⟩

/-! ## The simulation -/

/-- An orchestration simulates what its course means. -/
def Cast.orchestration (c : Cast e p) :
    Simulation e.orchestration (fun x => valued (c.meaning x)) fun x => c.steps x + 3 where
  Busy s x o n := Reachable s ∧ ∃ o' l m, Rested c s.retired l ∧ Future c s x o' m ∧ o = valued o' ∧ m + l ≤ n
  Rest s n := Reachable s ∧
    ∃ r l m, s.loop = .ended r ∧ Rested c s.retired l ∧ Settled s r m ∧ m + l ≤ n
  start x := by
    have active : Active c e.opening x (c.meaning x) (c.steps x + 3) := .unnamed rfl rfl (Nat.le_refl _)
    exact ⟨.opening, c.meaning x, 0, _, .nil, .inl active, rfl, Nat.le_refl _⟩
  step := by
    rintro s t x y o n ⟨reach, o', l, m, rested, future, rfl, within⟩ moves
    obtain ⟨l', m', rested', future', less⟩ := Step.onward moves reach rested future
    exact ⟨m' + l', by omega, .step reach moves, o', l', m', rested', future', rfl, Nat.le_refl _⟩
  result := by
    rintro s x o n r ⟨reach, o', l, m, rested, future, rfl, within⟩ result
    obtain ⟨r', ended, rfl⟩ := Loop.ending?_eq_some result
    obtain ⟨settled, rfl⟩ := future.of_ended ended
    exact ⟨valued_eq x r', reach, r', l, m, ended, rested, settled, within⟩
  goesOn := by
    rintro s x o n ⟨reach, o', l, m, rested, future, rfl, within⟩ none
    refine future.goesOn reach fun r ended => ?_
    have some : s.loop.ending? = some (r.map fun _ => .null) := by rw [ended]; rfl
    cases none.symm.trans some
  linger := by
    rintro s t x y n ⟨reach, r, l, m, ended, rested, settled, within⟩ moves
    obtain ⟨same, loop, l', m', rested', settled', less⟩ := Step.still moves reach ended rested settled
    exact ⟨same, congrArg Loop.ending? loop, m' + l', by omega, .step reach moves, r, l', m',
      loop.trans ended, rested', settled', Nat.le_refl _⟩

end Ensemble
end Rendezvous
