import Mathlib.Logic.Function.Basic
import Rendezvous.Proofs.Sequential.Reference

/-!
# Agents that keep out of each other's way

The footprint of an agent are the keys that it reads and those that it writes.  If no agent writes what another one
reads or writes, then nothing that the others do makes a difference to it: what is going to come of it agrees, on its
footprint, with what comes of it on its own (`Woven.settled`).  So it does not matter in which way the steps of the
agents are woven into each other; under every key there is what is there when the agents run in order
(`Woven.agrees`).
-/

namespace Rendezvous

set_option autoImplicit false

namespace Scope

/-- What is under a key. -/
def at? (x : Scope) (key : String) : Option Value := Entries.get? key x.state

theorem at?_write_self (x : Scope) (key : String) (v : Value) : (x.write key v).at? key = some v :=
  Entries.get?_put_self ..

theorem at?_write_of_ne (x : Scope) {key other : String} (ne : other ≠ key) (v : Value) :
    (x.write key v).at? other = x.at? other := Entries.get?_put_of_ne ne ..

end Scope

/-! ## Footprints -/

/-- The keys that an agent reads and those that it writes. -/
structure Footprint where
  reads : String → Prop
  writes : String → Prop

namespace Footprint

variable (f : Footprint)

/-- Whoever looks at the footprint alone cannot tell one shared state from the other. -/
def Agree (x y : Scope) : Prop :=
  x.metadata = y.metadata ∧ ∀ key, f.reads key ∨ f.writes key → x.at? key = y.at? key

/-- One shared state comes of another by writing keys of the footprint. -/
def Within (x y : Scope) : Prop :=
  y.metadata = x.metadata ∧ ∀ key, ¬ f.writes key → y.at? key = x.at? key

/-- One agent writes nothing that another one reads or writes. -/
def Spares (g : Footprint) : Prop := ∀ key, f.writes key → ¬ g.reads key ∧ ¬ g.writes key

variable {f} {g : Footprint} {x y z : Scope}

theorem Agree.refl : f.Agree x x := ⟨rfl, fun _ _ => rfl⟩

theorem Agree.symm (agree : f.Agree x y) : f.Agree y x :=
  ⟨agree.1.symm, fun key mine => (agree.2 key mine).symm⟩

theorem Agree.trans (first : f.Agree x y) (second : f.Agree y z) : f.Agree x z :=
  ⟨first.1.trans second.1, fun key mine => (first.2 key mine).trans (second.2 key mine)⟩

theorem Within.refl : f.Within x x := ⟨rfl, fun _ _ => rfl⟩

theorem Within.trans (first : f.Within x y) (second : f.Within y z) : f.Within x z :=
  ⟨second.1.trans first.1, fun key other => (second.2 key other).trans (first.2 key other)⟩

/-- What one agent writes is outside of the footprint of another. -/
theorem Within.agree (within : f.Within x y) (spares : f.Spares g) : g.Agree y x := by
  refine ⟨within.1, ?_⟩
  intro key mine
  apply within.2
  intro written
  obtain ⟨unread, unwritten⟩ := spares key written
  rcases mine with read | own
  · exact unread read
  · exact unwritten own

end Footprint

namespace Work

/-- Work that keeps to a footprint: it writes nothing else, and what it writes and how it goes on depends on nothing
else. -/
def Keeps (f : Footprint) : Work → Prop
  | done _ => True
  | step write next =>
    (∀ x, f.Within x (write x)) ∧
      (∀ x y, f.Agree x y → f.Agree (write x) (write y) ∧ next x = next y) ∧ ∀ x, Keeps f (next x)

/-- Work that never fails. -/
def Succeeds : Work → Prop
  | done r => ∃ v, r = .ok v
  | step _ next => ∀ x, Succeeds (next x)

variable {f : Footprint}

theorem Keeps.within {w : Work} (keeps : w.Keeps f) (x : Scope) : f.Within x (w.meaning x).1 := by
  induction w generalizing x with
  | done r => exact .refl
  | step write next ih =>
    obtain ⟨writes, -, rest⟩ := keeps
    exact (writes x).trans (ih x (rest x) (write x))

/-- Work comes to the same where it cannot tell the difference. -/
theorem Keeps.congr {w : Work} (keeps : w.Keeps f) {x y : Scope} (agree : f.Agree x y) :
    f.Agree (w.meaning x).1 (w.meaning y).1 ∧ (w.meaning x).2 = (w.meaning y).2 := by
  induction w generalizing x y with
  | done r => exact ⟨agree, rfl⟩
  | step write next ih =>
    obtain ⟨-, same, rest⟩ := keeps
    obtain ⟨agree', next'⟩ := same x y agree
    have onward := ih x (rest x) agree'
    rw [meaning, meaning, ← next']
    exact onward

theorem Succeeds.meaning {w : Work} (succeeds : w.Succeeds) (x : Scope) : ∃ v, (w.meaning x).2 = .ok v := by
  induction w generalizing x with
  | done r => exact succeeds
  | step write next ih => exact ih x (succeeds x) (write x)

end Work

/-! ## Leaves -/

/-- An agent that does work of its own. -/
structure Leaf where
  profile : Profile
  work : Work

namespace Leaf

/-- What the agent does, step by step: its result is stored under its output key. -/
def behaviour (l : Leaf) : Behaviour Scope := l.work.behaviour.closing l.profile fun v _ => v

/-- What the agent makes of the shared state if nobody interferes. -/
def reference (l : Leaf) : Meaning Value := (Tree.leaf l.profile l.work).reference

theorem reference_eq (l : Leaf) (x : Scope) :
    l.reference x = l.profile.closed (fun v _ => v) (l.work.meaning x) := by
  rw [reference, Tree.reference]

/-- The agent does what it means. -/
def simulation (l : Leaf) : Simulation l.behaviour (fun x => l.profile.closed (fun v _ => v) (l.work.meaning x))
    (fun x => l.work.length x + 2) := l.work.simulation.closing l.profile fun v _ => v

/-- The agent keeps to a footprint. -/
structure Keeps (l : Leaf) (f : Footprint) : Prop where
  work : l.work.Keeps f
  output : ∀ key, Text.given? l.profile.outputKey = some key → f.writes key

variable {l : Leaf} {f : Footprint} {x y : Scope}

theorem Keeps.store (keeps : l.Keeps f) (v : Value) (x : Scope) : f.Within x (l.profile.store v x) := by
  unfold Profile.store
  cases given : Text.given? l.profile.outputKey with
  | none => exact .refl
  | some key =>
    refine ⟨rfl, ?_⟩
    intro other outside
    apply Scope.at?_write_of_ne
    rintro rfl
    exact outside (keeps.output other given)

theorem store_congr (l : Leaf) (v : Value) (agree : f.Agree x y) :
    f.Agree (l.profile.store v x) (l.profile.store v y) := by
  unfold Profile.store
  cases given : Text.given? l.profile.outputKey with
  | none => exact agree
  | some key =>
    refine ⟨agree.1, ?_⟩
    intro other mine
    by_cases same : other = key
    · subst same
      exact (Scope.at?_write_self ..).trans (Scope.at?_write_self ..).symm
    · exact (Scope.at?_write_of_ne x same v).trans ((agree.2 other mine).trans (Scope.at?_write_of_ne y same v).symm)

theorem Keeps.closed_within (keeps : l.Keeps f) {o : Scope × Result Value} (within : f.Within x o.1) :
    f.Within x (l.profile.closed (fun v _ => v) o).1 := by
  obtain ⟨y, r⟩ := o
  cases r with
  | ok v => exact within.trans (keeps.store v y)
  | error failure => exact within

theorem closed_congr (l : Leaf) {o o' : Scope × Result Value} (agree : f.Agree o.1 o'.1) (same : o.2 = o'.2) :
    f.Agree (l.profile.closed (fun v _ => v) o).1 (l.profile.closed (fun v _ => v) o').1 := by
  obtain ⟨y, r⟩ := o
  obtain ⟨y', r'⟩ := o'
  obtain rfl : r = r' := same
  cases r with
  | ok v => exact l.store_congr v agree
  | error failure => exact agree

theorem Keeps.within (keeps : l.Keeps f) (x : Scope) : f.Within x (l.reference x).1 := by
  rw [reference_eq]
  exact keeps.closed_within (keeps.work.within x)

theorem Keeps.congr (keeps : l.Keeps f) (agree : f.Agree x y) : f.Agree (l.reference x).1 (l.reference y).1 := by
  rw [reference_eq, reference_eq]
  obtain ⟨agree', same⟩ := keeps.work.congr agree
  exact l.closed_congr agree' same

theorem reference_succeeds (succeeds : l.work.Succeeds) (x : Scope) : ∃ v, (l.reference x).2 = .ok v := by
  rw [reference_eq]
  obtain ⟨v, ok⟩ := succeeds.meaning x
  refine ⟨v, ?_⟩
  rcases o : l.work.meaning x with ⟨y, r⟩
  rw [o] at ok
  obtain rfl : r = .ok v := ok
  rfl

/-! ### On the way -/

/-- What an agent has still to do keeps to a footprint. -/
def Tidy (f : Footprint) : Closing Work → Prop
  | .inside w => w.Keeps f
  | .storing _ _ | .finished _ _ => True

/-- A step of an agent stays within its footprint. -/
theorem Keeps.step (keeps : l.Keeps f) {q q' : l.behaviour.State} {o : Scope × Result Value} {n : Nat}
    (tidy : Tidy f q) (busy : l.simulation.Busy q x o n) (step : l.behaviour.Step q x q' y) :
    f.Within x y ∧ Tidy f q' := by
  cases step with
  | inside step =>
    cases step with
    | step write next x =>
      obtain ⟨writes, -, rest⟩ := tidy
      exact ⟨writes x, rest x⟩
  | answer result | raise result => exact ⟨.refl, trivial⟩
  | store => exact ⟨keeps.store _ x, trivial⟩
  | lingerStoring step | lingerFinished step =>
    -- the work has come to its end
    obtain ⟨k, rest, -⟩ := busy
    obtain ⟨rfl, -⟩ := l.work.simulation.linger rest step
    exact ⟨.refl, trivial⟩

/-- What is going to come of an agent does not depend on what is outside of its footprint. -/
theorem busy_congr {q : l.behaviour.State} {o : Scope × Result Value} {n : Nat} (tidy : Tidy f q)
    (busy : l.simulation.Busy q x o n) (agree : f.Agree x y) :
    ∃ o' n', l.simulation.Busy q y o' n' ∧ f.Agree o.1 o'.1 := by
  rcases q with w | ⟨w, v⟩ | ⟨w, r⟩
  · obtain ⟨o', k, ⟨rfl, -⟩, rfl, -⟩ := busy
    obtain ⟨agree', same⟩ := Work.Keeps.congr tidy agree
    exact ⟨_, _, ⟨_, _, ⟨rfl, Nat.le_refl _⟩, rfl, Nat.le_refl _⟩, l.closed_congr agree' same⟩
  · obtain ⟨k, rest, rfl, enough⟩ := busy
    exact ⟨_, n, ⟨k, rest, rfl, enough⟩, l.store_congr v agree⟩
  · obtain ⟨k, rest, rfl, enough⟩ := busy
    exact ⟨_, n, ⟨k, rest, rfl, enough⟩, agree⟩

end Leaf

/-! ## Steps woven into each other -/

/-- The steps of so many behaviours, woven into each other in some way. -/
inductive Woven {σ : Type} (count : Nat) (B : Nat → Behaviour σ) (x₀ : σ) : (∀ i, (B i).State) → σ → Prop
  | start : Woven count B x₀ (fun i => (B i).start) x₀
  | step {q : ∀ i, (B i).State} {x y : σ} {i : Nat} {s : (B i).State} (woven : Woven count B x₀ q x)
      (within : i < count) (moves : (B i).Step (q i) x s y) : Woven count B x₀ (Function.update q i s) y

section

variable {count : Nat} {leaf : Nat → Leaf} {f : Nat → Footprint} {x₀ x : Scope}

/-- Each of so many agents keeps to its footprint, and none of them writes what another one reads or writes. -/
structure Apart (count : Nat) (leaf : Nat → Leaf) (f : Nat → Footprint) : Prop where
  keeps : ∀ i < count, (leaf i).Keeps (f i)
  spares : ∀ i < count, ∀ j < count, i ≠ j → (f i).Spares (f j)

/-- What is going to come of each agent is what comes of it on its own, as far as its footprint goes; and what no
agent writes is as it was. -/
structure Settled (count : Nat) (leaf : Nat → Leaf) (f : Nat → Footprint) (x₀ x : Scope)
    (q : ∀ i, (leaf i).behaviour.State) : Prop where
  ahead : ∀ i < count, ∃ o n, (leaf i).simulation.Busy (q i) x o n ∧ (f i).Agree o.1 ((leaf i).reference x₀).1
  tidy : ∀ i < count, Leaf.Tidy (f i) (q i)
  metadata : x.metadata = x₀.metadata
  untouched : ∀ key, (∀ i < count, ¬ (f i).writes key) → x.at? key = x₀.at? key

theorem Woven.settled (apart : Apart count leaf f) {q : ∀ i, (leaf i).behaviour.State}
    (woven : Woven count (fun i => (leaf i).behaviour) x₀ q x) : Settled count leaf f x₀ x q := by
  induction woven with
  | start =>
    refine ⟨?_, ?_, rfl, fun _ _ => rfl⟩
    · intro i within
      refine ⟨_, _, (leaf i).simulation.start x₀, ?_⟩
      rw [Leaf.reference_eq]
      exact .refl
    · intro i within
      exact (apart.keeps i within).work
  | step woven within moves ih =>
    rename_i q x y i s
    obtain ⟨ahead, tidy, metadata, untouched⟩ := ih
    have keeps := apart.keeps i within
    obtain ⟨o, n, busy, agree⟩ := ahead i within
    obtain ⟨inside, tidy'⟩ := keeps.step (tidy i within) busy moves
    refine ⟨?_, ?_, inside.1.trans metadata, ?_⟩
    · intro j within'
      by_cases same : j = i
      · subst same
        obtain ⟨k, -, busy'⟩ := (leaf j).simulation.step busy moves
        rw [Function.update_self]
        exact ⟨o, k, busy', agree⟩
      · obtain ⟨o', n', busy', agree'⟩ := ahead j within'
        have unseen := (inside.agree (apart.spares i within j within' (Ne.symm same))).symm
        obtain ⟨o'', n'', busy'', agree''⟩ := Leaf.busy_congr (tidy j within') busy' unseen
        rw [Function.update_of_ne same]
        exact ⟨o'', n'', busy'', agree''.symm.trans agree'⟩
    · intro j within'
      by_cases same : j = i
      · subst same
        rw [Function.update_self]
        exact tidy'
      · rw [Function.update_of_ne same]
        exact tidy j within'
    · intro key unwritten
      exact (inside.2 key (unwritten i within)).trans (untouched key unwritten)

/-! ### In order -/

theorem Apart.tail (apart : Apart (count + 1) leaf f) :
    Apart count (fun i => leaf (i + 1)) (fun i => f (i + 1)) := by
  constructor
  · intro i within
    exact apart.keeps (i + 1) (Nat.succ_lt_succ within)
  · intro i within j within' ne
    apply apart.spares (i + 1) (Nat.succ_lt_succ within) (j + 1) (Nat.succ_lt_succ within')
    intro same
    exact ne (Nat.succ.inj same)

/-- When the agents run in order, each of them leaves under its keys what it leaves there on its own. -/
theorem inOrder_settled (apart : Apart count leaf f) (succeeds : ∀ i < count, (leaf i).work.Succeeds) {x z : Scope}
    (ran : (Shape.inOrder ((List.range count).map fun i => (leaf i).reference) x).1 = z) :
    (∀ i < count, ∀ key, (f i).writes key → z.at? key = ((leaf i).reference x).1.at? key) ∧
      z.metadata = x.metadata ∧ ∀ key, (∀ i < count, ¬ (f i).writes key) → z.at? key = x.at? key := by
  induction count generalizing leaf f x with
  | zero =>
    obtain rfl : x = z := ran
    exact ⟨nofun, rfl, fun _ _ => rfl⟩
  | succ count ih =>
    have here : 0 < count + 1 := Nat.succ_pos count
    obtain ⟨v, ok⟩ := Leaf.reference_succeeds (succeeds 0 here) x
    have inside := (apart.keeps 0 here).within x
    rcases o : (leaf 0).reference x with ⟨y, r⟩
    rw [o] at ok inside
    obtain rfl : r = .ok v := ok
    rw [List.range_succ_eq_map, List.map_cons, List.map_map, Shape.inOrder, o] at ran
    obtain ⟨written, metadata, unwritten⟩ :=
      ih apart.tail (fun i within => succeeds (i + 1) (Nat.succ_lt_succ within)) ran
    refine ⟨?_, metadata.trans inside.1, ?_⟩
    · intro i within key mine
      cases i with
      | zero =>
        rw [o]
        apply unwritten
        intro j within' other
        exact ((apart.spares 0 here (j + 1) (Nat.succ_lt_succ within') (Nat.succ_ne_zero j).symm) key mine).2 other
      | succ i =>
        have unseen := inside.agree (apart.spares 0 here (i + 1) within (Nat.succ_ne_zero i).symm)
        have same := (apart.keeps (i + 1) within).congr unseen
        exact (written i (Nat.lt_of_succ_lt_succ within) key mine).trans (same.2 key (.inr mine))
    · intro key nobody
      have later := unwritten key fun i within => nobody (i + 1) (Nat.succ_lt_succ within)
      exact later.trans (inside.2 key (nobody 0 here))

/-- In whichever way the steps of agents are woven into each other that keep out of each other's way: once all of
them have come to their ends, the shared state is, key by key, what it is when they run in order. -/
theorem Woven.agrees (apart : Apart count leaf f) (succeeds : ∀ i < count, (leaf i).work.Succeeds)
    {q : ∀ i, (leaf i).behaviour.State} (woven : Woven count (fun i => (leaf i).behaviour) x₀ q x)
    (past : ∀ i < count, ∃ r, (leaf i).behaviour.result? (q i) = some r) {z : Scope}
    (ran : (Shape.inOrder ((List.range count).map fun i => (leaf i).reference) x₀).1 = z) :
    x.metadata = z.metadata ∧ ∀ key, x.at? key = z.at? key := by
  obtain ⟨ahead, -, metadata, untouched⟩ := woven.settled apart
  obtain ⟨written, metadata', unwritten⟩ := inOrder_settled apart succeeds ran
  refine ⟨metadata.trans metadata'.symm, ?_⟩
  intro key
  by_cases somebody : ∃ i < count, (f i).writes key
  · obtain ⟨i, within, mine⟩ := somebody
    obtain ⟨o, n, busy, agree⟩ := ahead i within
    obtain ⟨r, result⟩ := past i within
    obtain ⟨rfl, -⟩ := (leaf i).simulation.result busy result
    exact (agree.2 key (.inr mine)).trans (written i within key mine).symm
  · have nobody : ∀ i < count, ¬ (f i).writes key := fun i within mine => somebody ⟨i, within, mine⟩
    exact (untouched key nobody).trans (unwritten key nobody).symm

end
end Rendezvous
