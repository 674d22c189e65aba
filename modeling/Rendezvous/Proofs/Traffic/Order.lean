import Rendezvous.Proofs.Traffic.Fate

/-!
# All calls at once

No two calls share a slot, so every call stands as if it were alone (`Traffic.Reachable.orderly`).  From that
follow the three things that callers rely on, whatever the others do: a caller comes back with what its own call
has come to (`Reachable.answered`), no captured operation is performed twice (`Reachable.performed_once`), and a
step that is taken for one call leaves the entry and the slot of every other call alone
(`Reachable.apart_step`).
-/

namespace Rendezvous

set_option autoImplicit false

namespace Traffic

variable {ι κ α : Type} {t : Traffic ι κ α} {s s' : t.State}

/-- Every call stands as if it were alone. -/
structure Orderly (s : t.State) : Prop where
  /-- A run that is found has a table. -/
  live : ∀ run n, s.exchange.tableOf? run = some n → n < s.exchange.tables.length
  standing : ∀ i, InOrder (t.caller i) s.exchange (s.calls i)
  /-- No two calls share a slot. -/
  apart : ∀ i j n m k l stage stage', i ≠ j → (s.calls i).phase = .registered n k stage →
    (s.calls j).phase = .registered m l stage' → k ≠ l

theorem Orderly.inside (orderly : Orderly s) {i : ι} {n slot : Nat} {stage : Stage α}
    (registered : (s.calls i).phase = .registered n slot stage) : slot < s.exchange.slots.length := by
  have standing := orderly.standing i
  simp only [InOrder, registered] at standing
  exact standing.1

theorem Orderly.opening : Orderly ({} : t.State) where
  live run n found := by simp [Exchange.tableOf?, Entries.get?] at found
  standing i := ⟨fun m => rfl, rfl, rfl, rfl⟩
  apart i j n m k l stage stage' _ registered := nomatch registered

/-- Runs begin and end without touching a call. -/
theorem Orderly.runs (orderly : Orderly s) {e : Exchange κ α}
    (live : ∀ run n, e.tableOf? run = some n → n < e.tables.length)
    (tables : s.exchange.tables.length ≤ e.tables.length) (slots : e.slots = s.exchange.slots)
    (entry : ∀ m id, (e.table m).call? id = (s.exchange.table m).call? id) :
    Orderly ({ s with exchange := e } : t.State) := by
  have slot (k : Nat) : e.slot k = s.exchange.slot k := by rw [Exchange.slot, slots, Exchange.slot]
  exact ⟨live, fun i => (orderly.standing i).frame tables (slots ▸ Nat.le_refl _) (fun m => entry m _)
    fun _ k _ _ => slot k, orderly.apart⟩

variable [DecidableEq ι]

/-- What is done for one call leaves all others as they should be. -/
theorem Orderly.move (orderly : Orderly s) {i : ι} {e : Exchange κ α} {x : Call κ α}
    (moves : Moves (t.caller i) t.text s.exchange (s.calls i) e x) : Orderly (s.put i e x) := by
  obtain ⟨live, tables, slots⟩ := moves.exchange_frame
  have slot (j : ι) (ne : j ≠ i) (n k : Nat) (stage : Stage α)
      (registered : (s.calls j).phase = .registered n k stage) : e.slot k = s.exchange.slot k :=
    moves.slot_frame (orderly.standing i) (orderly.inside registered) fun m l stage' own =>
      orderly.apart i j m n l k stage' stage (Ne.symm ne) own registered
  have new (j : ι) (ne : j ≠ i) {n m k l : Nat} {stage stage' : Stage α} (own : x.phase = .registered n k stage)
      (registered : (s.calls j).phase = .registered m l stage') : k ≠ l := by
    rcases moves.slot_new own with ⟨before, there⟩ | rfl
    · exact orderly.apart i j n m k l before stage' (Ne.symm ne) there registered
    · exact Nat.ne_of_gt (orderly.inside registered)
  refine ⟨fun run n found => ?_, fun j => ?_, fun j k n m a b stage stage' ne here there => ?_⟩
  · have found : s.exchange.tableOf? run = some n := by
      rw [Exchange.tableOf?, ← live]
      exact found
    exact tables ▸ orderly.live run n found
  · by_cases same : j = i
    · subst same
      rw [State.calls_put_self]
      exact moves.standing orderly.live (orderly.standing j)
    · rw [State.calls_put_of_ne s same]
      have other : (t.caller j).id ≠ (t.caller i).id := fun equal => same (t.fresh equal)
      exact (orderly.standing j).frame (Nat.le_of_eq tables.symm) slots (moves.entry_frame other) (slot j same)
  · by_cases own : j = i
    · subst own
      rw [State.calls_put_self] at here
      rw [State.calls_put_of_ne s (Ne.symm ne)] at there
      exact new k (Ne.symm ne) here there
    · rw [State.calls_put_of_ne s own] at here
      by_cases own' : k = i
      · subst own'
        rw [State.calls_put_self] at there
        exact (new j own there here).symm
      · rw [State.calls_put_of_ne s own'] at there
        exact orderly.apart j k n m a b stage stage' ne here there

/-- Beginning an execution and reporting it is a matter of the engine alone. -/
theorem Orderly.engine (orderly : Orderly s) {i : ι} {y : Option (Execution κ α)}
    (standing : InOrder (t.caller i) s.exchange { s.calls i with execution := y }) :
    Orderly (s.put i s.exchange { s.calls i with execution := y }) := by
  have phase (j : ι) :
      ((s.put i s.exchange { s.calls i with execution := y }).calls j).phase = (s.calls j).phase := by
    by_cases same : j = i
    · rw [same, State.calls_put_self]
    · rw [State.calls_put_of_ne s same]
  refine ⟨orderly.live, fun j => ?_, fun j k n m a b stage stage' ne here there => ?_⟩
  · by_cases same : j = i
    · subst same
      rw [State.calls_put_self]
      exact standing
    · rw [State.calls_put_of_ne s same]
      exact orderly.standing j
  · rw [phase] at here there
    exact orderly.apart j k n m a b stage stage' ne here there

theorem Step.orderly {who : Option ι} (step : Step s who s') (orderly : Orderly s) : Orderly s' := by
  cases step with
  | move moves => exact orderly.move moves
  | execute registered free =>
    refine orderly.engine ((orderly.standing _).rest registered ?_ trivial)
    rw [free]
    trivial
  | report there past =>
    obtain ⟨n, slot, stage, registered⟩ := (orderly.standing _).registered there
    refine orderly.engine ((orderly.standing _).rest registered ?_ trivial)
    rw [there]
    exact Execution.resting_of_report past
  | createRun run =>
    refine orderly.runs (fun other n found => ?_) ?_ rfl fun m id => Exchange.call?_createRun run
    · rw [Exchange.createRun, Exchange.tableOf?] at found
      rw [Exchange.createRun, List.length_append, List.length_singleton]
      by_cases same : other = run
      · rw [same, Entries.get?_put_self] at found
        cases found
        exact Nat.lt_succ_self _
      · rw [Entries.get?_put_of_ne same] at found
        exact Nat.lt_succ_of_lt (orderly.live other n found)
    · simp [Exchange.createRun]
  | dropRun run =>
    refine orderly.runs (fun other n found => ?_) (Nat.le_refl _) rfl fun _ _ => rfl
    rw [Exchange.dropRun, Exchange.tableOf?] at found
    by_cases same : other = run
    · rw [same, Entries.get?_erase_self] at found
      cases found
    · rw [Entries.get?_erase_of_ne same] at found
      exact orderly.live other n found

theorem Reachable.orderly (reach : Reachable s) : Orderly s := by
  induction reach with
  | opening => exact .opening
  | step _ step ih => exact step.orderly ih

/-! ## What callers rely on -/

/-- A caller comes back with what the one performance of its own call has come to, without the reports around a
failure, or with the failure of raising its own event.  A caller whose run was not there has performed its call
itself and comes back with what that has come to. -/
theorem Reachable.answered (reach : Reachable s) {i : ι} {r : Result α}
    (back : (s.calls i).phase.outcome? = some r) :
    (∃ out, (s.calls i).performances = [((t.caller i).call.call, out)] ∧
      (r = delivered out ∨ (s.calls i).phase = .performed r ∧ r = out)) ∨
    ∃ f, (s.calls i).raised = some (.error f) ∧ r = .error f := by
  have standing := reach.orderly.standing i
  cases at_ : (s.calls i).phase with
  | idle | holding n | onSpot =>
    rw [at_] at back
    cases back
  | refused f => simp only [InOrder, at_] at standing
  | performed own =>
    rw [at_] at back
    obtain rfl : own = r := Option.some.inj back
    simp only [InOrder, at_] at standing
    exact .inl ⟨own, standing.2.2, .inr ⟨rfl, rfl⟩⟩
  | registered n slot stage =>
    simp only [InOrder, at_] at standing
    obtain ⟨-, told, fate, allows, lot⟩ := standing
    rw [at_] at back
    cases stage with
    | raising | failing f | retracted own f | waiting => cases back
    | gaveUp f =>
      cases back
      exact .inr ⟨f, told, rfl⟩
    | returned own =>
      obtain rfl : own = r := Option.some.inj back
      obtain ⟨out, rfl, rfl⟩ := allows
      exact .inl ⟨out, lot.performances_of_settled, .inl rfl⟩

/-- What is performed on behalf of a call is what was captured, and it is performed at most once. -/
theorem Reachable.performed_once (reach : Reachable s) (i : ι) :
    (s.calls i).performances = [] ∨ ∃ out, (s.calls i).performances = [((t.caller i).call.call, out)] := by
  have standing := reach.orderly.standing i
  cases at_ : (s.calls i).phase with
  | idle | onSpot =>
    simp only [InOrder, at_] at standing
    exact .inl standing.unperformed
  | holding n =>
    simp only [InOrder, at_] at standing
    exact .inl standing.2.unperformed
  | refused f => simp only [InOrder, at_] at standing
  | performed r =>
    simp only [InOrder, at_] at standing
    exact .inr ⟨r, standing.2.2⟩
  | registered n slot stage =>
    simp only [InOrder, at_] at standing
    obtain ⟨-, -, fate, -, lot⟩ := standing
    exact lot.performed_once

/-- What a call has come to is in its slot once its execution is through, unless its caller could not raise its
event. -/
theorem Reachable.kept (reach : Reachable s) {i : ι} {n slot : Nat} {stage : Stage α} {call : κ} {out : Result α}
    (registered : (s.calls i).phase = .registered n slot stage)
    (performed : (s.calls i).performances = [(call, out)]) (through : Resting (s.calls i).execution) :
    s.exchange.slot slot = .assigned (delivered out) ∨ ∃ f, (s.calls i).raised = some (.error f) := by
  have inOrder := reach.orderly.standing i
  simp only [InOrder, registered] at inOrder
  obtain ⟨-, told, fate, allows, lot⟩ := inOrder
  rw [performed] at lot
  rcases lot.kept through with assigned | rfl | ⟨f, rfl⟩
  · exact .inl assigned
  · cases stage with
    | retracted own f => exact .inr ⟨f, told⟩
    | _ => simp [Stage.Allows] at allows
  · cases stage with
    | gaveUp f => exact .inr ⟨f, told⟩
    | _ => simp [Stage.Allows] at allows

/-- A step leaves the entry and the slot of a call alone unless it is taken for that call. -/
theorem Reachable.apart_step (reach : Reachable s) {who : Option ι} (step : Step s who s') {j : ι}
    (other : who ≠ some j) :
    (∀ m, (s'.exchange.table m).call? (t.caller j).id = (s.exchange.table m).call? (t.caller j).id) ∧
    ∀ n slot stage, (s.calls j).phase = .registered n slot stage →
      s'.exchange.slot slot = s.exchange.slot slot := by
  have orderly := reach.orderly
  cases step with
  | move moves =>
    rename_i i e x
    have ne : j ≠ i := fun same => other (congrArg some same.symm)
    have ids : (t.caller j).id ≠ (t.caller i).id := fun equal => ne (t.fresh equal)
    refine ⟨moves.entry_frame ids, fun n slot stage registered => ?_⟩
    exact moves.slot_frame (orderly.standing i) (orderly.inside registered) fun m l stage' own =>
      orderly.apart i j m n l slot stage' stage (Ne.symm ne) own registered
  | execute registered free => exact ⟨fun _ => rfl, fun _ _ _ _ => rfl⟩
  | report there past => exact ⟨fun _ => rfl, fun _ _ _ _ => rfl⟩
  | createRun run => exact ⟨fun _ => Exchange.call?_createRun run, fun _ _ _ _ => rfl⟩
  | dropRun run => exact ⟨fun _ => rfl, fun _ _ _ _ => rfl⟩

end Traffic
end Rendezvous
