import Rendezvous.Proofs.Interleaving.Stage

/-!
# Behaviours that come to an end

A behaviour `Ends` with an outcome if every run of it is finite, it never gets stuck without a result, and
whenever it has a result, the result and the shared state are those of the outcome.  A `Simulation` shows
this (`Simulation.ends`): it knows at every state what is going to come of it and how many steps are left,
and what goes on after the result does not touch the shared state any more.

`Work` is an agent that does what it likes in atomic steps, and `Behaviour.closing` an agent that stores its
result under the output key of its profile.
-/

namespace Rendezvous

set_option autoImplicit false

/-- What is made of the shared state, and what comes of it. -/
abbrev Meaning (α : Type) : Type := Scope → Scope × Result α

namespace Behaviour

variable {σ : Type} (B : Behaviour σ)

/-- The runs of so many steps. -/
inductive Runs (from_ : B.State) (x : σ) : Nat → B.State → σ → Prop
  | here : Runs from_ x 0 from_ x
  | step {n : Nat} {q q' : B.State} {y z : σ} :
      Runs from_ x n q y → B.Step q y q' z → Runs from_ x (n + 1) q' z

/-- Whatever the schedule, this is what comes of it. -/
structure Ends (x : σ) (o : σ × Result Value) : Prop where
  finite : ∃ n, ∀ k q y, B.Runs B.start x k q y → k ≤ n
  goesOn : ∀ k q y, B.Runs B.start x k q y → B.result? q = none → ∃ q' z, B.Step q y q' z
  outcome : ∀ k q y r, B.Runs B.start x k q y → B.result? q = some r → (y, r) = o

end Behaviour

/-- Why a behaviour does what it is meant to do, and in how many steps. -/
structure Simulation (B : Behaviour Scope) (m : Meaning Value) (effort : Scope → Nat) where
  /-- What is going to come of it, and a bound on the steps that are left. -/
  Busy : B.State → Scope → Scope × Result Value → Nat → Prop
  /-- There is a result, and so many steps may be left. -/
  Rest : B.State → Nat → Prop
  start : ∀ x, Busy B.start x (m x) (effort x)
  step : ∀ {q q' x y o n}, Busy q x o n → B.Step q x q' y → ∃ k < n, Busy q' y o k
  result : ∀ {q x o n r}, Busy q x o n → B.result? q = some r → o = (x, r) ∧ Rest q n
  goesOn : ∀ {q x o n}, Busy q x o n → B.result? q = none → ∃ q' y, B.Step q x q' y
  linger : ∀ {q q' x y n}, Rest q n → B.Step q x q' y →
    y = x ∧ B.result? q' = B.result? q ∧ ∃ k < n, Rest q' k

namespace Simulation

variable {B : Behaviour Scope} {m : Meaning Value} {effort : Scope → Nat}

/-- A run keeps to its outcome, and its steps are counted. -/
theorem of_runs (S : Simulation B m effort) {x y : Scope} {k : Nat} {q : B.State}
    (runs : B.Runs B.start x k q y) : ∃ n, S.Busy q y (m x) n ∧ n + k ≤ effort x := by
  induction runs with
  | here => exact ⟨effort x, S.start x, Nat.le_refl _⟩
  | step _ step ih =>
    obtain ⟨n, busy, within⟩ := ih
    obtain ⟨n', less, busy'⟩ := S.step busy step
    exact ⟨n', busy', by omega⟩

theorem ends (S : Simulation B m effort) (x : Scope) : B.Ends x (m x) := by
  refine ⟨⟨effort x, fun k q y runs => ?_⟩, fun k q y runs none => ?_, fun k q y r runs result => ?_⟩
  · obtain ⟨n, -, within⟩ := S.of_runs runs
    omega
  · obtain ⟨n, busy, -⟩ := S.of_runs runs
    exact S.goesOn busy none
  · obtain ⟨n, busy, -⟩ := S.of_runs runs
    exact (S.result busy result).1.symm

end Simulation

/-! ## Work on the shared state -/

/-- What an agent does, in atomic steps: each of them reads and changes the shared state. -/
inductive Work where
  | done (r : Result Value)
  | step (write : Scope → Scope) (next : Scope → Work)

namespace Work

/-- All steps in a row. -/
def meaning : Work → Meaning Value
  | done r, x => (x, r)
  | step write next, x => meaning (next x) (write x)

/-- How many steps there are. -/
def length : Work → Scope → Nat
  | done _, _ => 0
  | step write next, x => length (next x) (write x) + 1

/-- What has come of it. -/
def result? : Work → Option (Result Value)
  | done r => some r
  | step _ _ => none

/-- One atomic step. -/
inductive Step : Work → Scope → Work → Scope → Prop
  | step (write : Scope → Scope) (next : Scope → Work) (x : Scope) :
      Step (.step write next) x (next x) (write x)

/-- Work that others may interrupt. -/
def behaviour (w : Work) : Behaviour Scope where
  State := Work
  start := w
  Step := Step
  result? := result?

/-- Work does what it means. -/
def simulation (w : Work) : Simulation w.behaviour w.meaning w.length where
  Busy q x o n := o = q.meaning x ∧ q.length x ≤ n
  Rest q n := q.result?.isSome = true
  start x := ⟨rfl, Nat.le_refl _⟩
  step := by
    rintro q q' x y o n ⟨rfl, within⟩ ⟨write, next⟩
    exact ⟨length (next x) (write x), within, rfl, Nat.le_refl _⟩
  result := by
    rintro q x o n r ⟨rfl, -⟩ result
    cases q with
    | done r' =>
      obtain rfl : r' = r := Option.some.inj result
      exact ⟨rfl, rfl⟩
    | step write next => cases result
  goesOn := by
    rintro q x o n - none
    cases q with
    | done r => cases none
    | step write next => exact ⟨_, _, .step write next x⟩
  linger := by
    rintro q q' x y n rest ⟨write, next⟩
    cases rest

end Work

/-! ## The result of an agent -/

/-- Store a result under the output key, if there is one. -/
def Profile.store (p : Profile) (v : Value) (x : Scope) : Scope :=
  match Text.given? p.outputKey with
  | some key => x.write key v
  | none => x

/-- What is left to do once the work of an agent has come to an end: its answer is stored and returned. -/
def Profile.closed (p : Profile) (answer : Value → Scope → Value) (o : Scope × Result Value) :
    Scope × Result Value :=
  match o with
  | (x, .ok v) => (p.store (answer v x) x, .ok (answer v x))
  | (x, .error f) => (x, .error f)

/-- Where an agent stands that closes its work. -/
inductive Closing (S : Type) where
  | inside (q : S)
  /-- The answer is to be stored. -/
  | storing (q : S) (v : Value)
  | finished (q : S) (r : Result Value)

/-- One step of an agent that closes its work.  What the work has left behind may go on. -/
inductive ClosingStep (p : Profile) (answer : Value → Scope → Value) (B : Behaviour Scope) :
    Closing B.State → Scope → Closing B.State → Scope → Prop
  | inside {q q' : B.State} {x y : Scope} (step : B.Step q x q' y) :
      ClosingStep p answer B (.inside q) x (.inside q') y
  | answer {q : B.State} {x : Scope} {v : Value} (result : B.result? q = some (.ok v)) :
      ClosingStep p answer B (.inside q) x (.storing q (answer v x)) x
  | raise {q : B.State} {x : Scope} {f : Failure} (result : B.result? q = some (.error f)) :
      ClosingStep p answer B (.inside q) x (.finished q (.error f)) x
  | store {q : B.State} {x : Scope} {v : Value} :
      ClosingStep p answer B (.storing q v) x (.finished q (.ok v)) (p.store v x)
  | lingerStoring {q q' : B.State} {x y : Scope} {v : Value} (step : B.Step q x q' y) :
      ClosingStep p answer B (.storing q v) x (.storing q' v) y
  | lingerFinished {q q' : B.State} {x y : Scope} {r : Result Value} (step : B.Step q x q' y) :
      ClosingStep p answer B (.finished q r) x (.finished q' r) y

/-- What has come of an agent that closes its work. -/
def Closing.result? {S : Type} : Closing S → Option (Result Value)
  | .finished _ r => some r
  | _ => none

/-- An agent that stores the answer of its work. -/
def Behaviour.closing (p : Profile) (answer : Value → Scope → Value) (B : Behaviour Scope) :
    Behaviour Scope where
  State := Closing B.State
  start := .inside B.start
  Step := ClosingStep p answer B
  result? := Closing.result?

namespace Simulation

variable {B : Behaviour Scope} {m : Meaning Value} {effort : Scope → Nat}

/-- What is going to come of an agent that closes its work. -/
def ClosingBusy (S : Simulation B m effort) (p : Profile) (answer : Value → Scope → Value) :
    Closing B.State → Scope → Scope × Result Value → Nat → Prop
  | .inside q, x, o, n => ∃ o' k, S.Busy q x o' k ∧ o = p.closed answer o' ∧ k + 2 ≤ n
  | .storing q v, x, o, n => ∃ k, S.Rest q k ∧ o = (p.store v x, .ok v) ∧ k + 1 ≤ n
  | .finished q r, x, o, n => ∃ k, S.Rest q k ∧ o = (x, r) ∧ k ≤ n

/-- What may go on once an agent has closed its work. -/
def ClosingRest (S : Simulation B m effort) : Closing B.State → Nat → Prop
  | .finished q _, n => ∃ k, S.Rest q k ∧ k ≤ n
  | _, _ => False

/-- Storing the answer takes at most two steps more. -/
def closing (S : Simulation B m effort) (p : Profile) (answer : Value → Scope → Value) :
    Simulation (B.closing p answer) (fun x => p.closed answer (m x)) (fun x => effort x + 2) where
  Busy := S.ClosingBusy p answer
  Rest := S.ClosingRest
  start x := ⟨m x, effort x, S.start x, rfl, Nat.le_refl _⟩
  step := by
    rintro q q' x y o n busy step
    cases step with
    | inside step =>
      obtain ⟨o', k, busy, rfl, within⟩ := busy
      obtain ⟨k', less, busy'⟩ := S.step busy step
      exact ⟨n - 1, by omega, o', k', busy', rfl, by omega⟩
    | answer result =>
      obtain ⟨o', k, busy, rfl, within⟩ := busy
      obtain ⟨rfl, rest⟩ := S.result busy result
      exact ⟨n - 1, by omega, k, rest, rfl, by omega⟩
    | raise result =>
      obtain ⟨o', k, busy, rfl, within⟩ := busy
      obtain ⟨rfl, rest⟩ := S.result busy result
      exact ⟨n - 1, by omega, k, rest, rfl, by omega⟩
    | store =>
      obtain ⟨k, rest, rfl, within⟩ := busy
      exact ⟨n - 1, by omega, k, rest, rfl, by omega⟩
    | lingerStoring step =>
      obtain ⟨k, rest, rfl, within⟩ := busy
      obtain ⟨rfl, -, k', less, rest'⟩ := S.linger rest step
      exact ⟨n - 1, by omega, k', rest', rfl, by omega⟩
    | lingerFinished step =>
      obtain ⟨k, rest, rfl, within⟩ := busy
      obtain ⟨rfl, -, k', less, rest'⟩ := S.linger rest step
      exact ⟨n - 1, by omega, k', rest', rfl, by omega⟩
  result := by
    rintro (q | ⟨q, v⟩ | ⟨q, r'⟩) x o n r busy result
    · cases result
    · cases result
    · obtain ⟨k, rest, rfl, within⟩ := busy
      obtain rfl : r' = r := Option.some.inj result
      exact ⟨rfl, k, rest, within⟩
  goesOn := by
    rintro (q | ⟨q, v⟩ | ⟨q, r⟩) x o n busy none
    · obtain ⟨o', k, busy, -, -⟩ := busy
      cases result : B.result? q with
      | none =>
        obtain ⟨q', y, step⟩ := S.goesOn busy result
        exact ⟨_, _, .inside step⟩
      | some r =>
        cases r with
        | ok v => exact ⟨_, _, .answer result⟩
        | error f => exact ⟨_, _, .raise result⟩
    · exact ⟨_, _, .store⟩
    · cases none
  linger := by
    rintro q q' x y n rest step
    cases step with
    | lingerFinished step =>
      obtain ⟨k, rest, within⟩ := rest
      obtain ⟨rfl, -, k', less, rest'⟩ := S.linger rest step
      exact ⟨rfl, rfl, k', by omega, k', rest', Nat.le_refl _⟩
    | _ => exact rest.elim

end Simulation
end Rendezvous
