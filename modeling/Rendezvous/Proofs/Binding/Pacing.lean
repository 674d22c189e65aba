import Rendezvous.Proofs.Binding.Sight
import Rendezvous.Proofs.Interleaving.Course

/-!
# What an orchestration does to the run of its caller

The loop of an orchestration works on the thread of its caller.  It binds the run of an agent that has a turn
on its own, and clears the binding after each turn; when it ends, be it that it was told so or that it gives
up, it clears the binding once more.  What was bound before is kept only by a loop that cannot let its first
batch run, for want of a pool (`Runner.pace_unbinds`).

The planner is `Going` until the loop has left it.  Each activity leads from there to there, whatever the
agents do, as long as they spare the planners of others.
-/

namespace Rendezvous

set_option autoImplicit false

namespace Act

variable {κ α β ω γ δ : Type}

/-- The failure of a pool that has a negative size. -/
def noPool : Failure := .of (.badValue "max_workers must be greater than 0")

/-- The agents of a loop spare the planners of others. -/
def Runner.Spares (r : Runner κ α β ω) : Prop :=
  ∀ (agent : β) (w : World κ α β ω), w.sight.Spares (r.run agent w).2.sight

/-! ## Where the planner of a loop stands -/

/-- The loop has left its planner, and bound no run. -/
structure Left (start : Sight β) (k m : Nat) (v : Sight β) : Prop where
  seated : start.Seated k m none (· = []) v
  unbound : v.run = none

/-- The planner is found, or the loop has left it. -/
def Going (start : Sight β) (k m : Nat) (holds : List (Notice β) → Prop) (v : Sight β) : Prop :=
  start.Seated k m (some k) holds v ∨ Left start k m v

/-- There are only turns in a queue. -/
def TurnsOnly (q : List (Notice β)) : Prop := .complete ∉ q

variable {start : Sight β} {k m : Nat} {run : Option String} {holds : List (Notice β) → Prop}

theorem Going.spares {v : Sight β} (going : Going start k m holds v) : start.Spares v :=
  going.elim (·.spares) (·.seated.spares)

theorem Going.imp {holds' : List (Notice β) → Prop} {v : Sight β} (going : Going start k m holds v)
    (weaker : ∀ q, holds q → holds' q) : Going start k m holds' v :=
  going.imp_left fun seated => seated.imp weaker

/-! ## The side of the loop -/

/-- Whoever leaves a planner belongs to no run from then on. -/
theorem leaves (found : Option Nat) (empty : ∀ q, holds q → q = []) :
    Succeeds (start.Seated k m found holds) (leavePlanner k : Act κ α β ω Unit)
      fun _ => Left start k m := by
  refine Succeeds.setRun.bind fun _ => Ensures.planner_bind fun p => ?_
  rintro w ⟨⟨u, seated, same⟩, named⟩
  subst named
  refine ⟨(), rfl, ?_, congrArg Sight.run same⟩
  have cleared : start.Seated k m found holds w.sight := same ▸ seated.of_run none
  have gone := cleared.erase.imp empty
  rwa [← cleared.named] at gone

/-- Where nothing is in the queue, a look finds nothing. -/
theorem look_of_empty {P : Sight β → Prop} (empty : ∀ v, P v → (v.planner k).queue = []) :
    Succeeds P (look k : Act κ α β ω (Option (LoopAction β))) fun a v => a = none ∧ P v := by
  refine Ensures.planner_bind fun p => ?_
  rintro w ⟨before, rfl⟩
  have nothing := (Planner.drain_eq_none_iff _).mpr (empty _ before)
  rw [nothing]
  exact ⟨none, rfl, rfl, before⟩

/-- What a look finds, and what it binds.  It does not touch the binding for a batch of several. -/
inductive Looked (start : Sight β) (k m : Nat) (run : Option String) (holds : List (Notice β) → Prop) :
    Option (LoopAction β) → Sight β → Prop
  | nothing {v : Sight β} (seated : start.Seated k m (some k) (fun q => holds q ∧ q = []) v)
      (same : v.run = run) : Looked start k m run holds none v
  | batch {v : Sight β} {batch : List (Submission β)} {q : List (Notice β)} (held : holds q)
      (turns : Planner.turns? q = some batch) (seated : start.Seated k m (some k) (· = []) v)
      (same : batch.length ≠ 1 → v.run = run) : Looked start k m run holds (some (.call batch)) v
  | done {v : Sight β} {q : List (Notice β)} (held : holds q) (told : .complete ∈ q)
      (left : Left start k m v) : Looked start k m run holds (some .done) v

theorem boundRun_eq_none {batch : List (Submission β)} (several : batch.length ≠ 1) :
    Planner.boundRun (.call batch) = none := by
  match batch, several with
  | [], _ => rfl
  | [_], several => exact absurd rfl several
  | _ :: _ :: _, _ => rfl

theorem looks : Succeeds (fun v => start.Seated k m (some k) holds v ∧ v.run = run)
    (look k : Act κ α β ω (Option (LoopAction β))) (Looked start k m run holds) := by
  refine Ensures.planner_bind fun p => ?_
  cases drained : p.drain with
  | none =>
    rintro w ⟨⟨seated, same⟩, rfl⟩
    have empty := (Planner.drain_eq_none_iff _).mp drained
    exact ⟨none, rfl, .nothing { seated with holds := ⟨seated.holds, empty⟩ } same⟩
  | some found =>
    obtain ⟨action, p'⟩ := found
    cases action with
    | noOp => exact absurd drained Planner.drain_ne_noOp
    | call batch =>
      obtain ⟨-, turns, rfl⟩ := Planner.drain_call drained
      have emptied {u : Sight β} (seated : start.Seated k m (some k) holds u) (here : u.planner k = p) :
          start.Seated k m (some k) (· = []) { u with
            planners := u.planners.set k (({ p with queue := [] } : Planner β).dispatch batch) } :=
        seated.set (here ▸ seated.named) rfl
      refine Succeeds.setPlanner.bind fun _ => ?_
      cases bound : Planner.boundRun (.call batch) with
      | none =>
        refine Succeeds.pure ?_
        rintro _ ⟨u, ⟨⟨seated, same⟩, here⟩, rfl⟩
        exact .batch (here ▸ seated.holds) turns (emptied seated here) fun _ => same
      | some own =>
        refine Succeeds.setRun.bind fun _ => Succeeds.pure ?_
        rintro _ ⟨_, ⟨u, ⟨⟨seated, -⟩, here⟩, rfl⟩, rfl⟩
        refine .batch (here ▸ seated.holds) turns ((emptied seated here).of_run _) fun several => ?_
        rw [boundRun_eq_none several] at bound
        cases bound
    | done =>
      obtain ⟨told, rfl⟩ := Planner.drain_done drained
      refine Succeeds.setPlanner.bind fun _ => ?_
      have left : Succeeds
          (fun v => start.Seated k m (some k) (· = []) v ∧ ∃ q : List (Notice β), holds q ∧ .complete ∈ q)
          (leavePlanner k : Act κ α β ω Unit)
          fun _ v => Left start k m v ∧ ∃ q : List (Notice β), holds q ∧ .complete ∈ q := by
        rintro w ⟨seated, q⟩
        obtain ⟨a, ok, left⟩ := leaves (some k) (fun _ => id) w seated
        exact ⟨a, ok, left, q⟩
      refine (left.imp ?_ fun _ _ => id).bind fun _ => Succeeds.pure ?_
      · rintro _ ⟨u, ⟨⟨seated, -⟩, here⟩, rfl⟩
        exact ⟨seated.set (here ▸ seated.named) rfl, p.queue, here ▸ seated.holds, told⟩
      · rintro v ⟨left, q, held, told⟩
        exact .done held told left

/-- What spares the planners of others keeps this one. -/
theorem spared {x : Act κ α β ω γ} (spares : ∀ (w : World κ α β ω), w.sight.Spares (x w).2.sight)
    (found : Option Nat) : Ensures (start.Seated k m found holds) x fun _ => start.Seated k m found holds :=
  fun w seated => seated.of_spares (spares w)

theorem turns : Succeeds (fun v => start.Seated k m (some k) (· = []) v ∧ v.run = run)
    (turn k : Act κ α β ω (Option (LoopAction β)))
    fun _ v => start.Seated k m (some k) (· = []) v ∧ v.run = run := by
  refine Ensures.planner_bind fun p => Succeeds.setPlanner.bind fun _ => ?_
  have counted (v : Sight β) : (∃ u : Sight β,
      ((start.Seated k m (some k) (· = []) u ∧ u.run = run) ∧ u.planner k = p) ∧
      v = { u with planners := u.planners.set k p.countDown }) →
      start.Seated k m (some k) (· = []) v ∧ v.run = run := by
    rintro ⟨u, ⟨⟨seated, same⟩, here⟩, rfl⟩
    exact ⟨seated.set (here ▸ seated.named) (here ▸ seated.holds), same⟩
  cases p.countDown.isWaiting with
  | true => exact Succeeds.pure counted
  | false => exact (look_of_empty fun v before => before.1.holds).imp counted fun a v => And.right

/-- Slots are out of sight. -/
theorem aloof_assignTurns (r : Result Unit) (slots : List Nat) :
    Aloof (changeHub fun h => slots.foldl (Hub.assignTurn r) h : Act κ α β ω Unit) := by
  have only (h : Hub κ α β) : ∃ turns, slots.foldl (Hub.assignTurn r) h = { h with turns } := by
    induction slots generalizing h with
    | nil => exact ⟨h.turns, rfl⟩
    | cons slot rest ih =>
      obtain ⟨turns, same⟩ := ih (h.assignTurn r slot)
      exact ⟨turns, same⟩
  refine .changeHub ?_ ?_ ?_
  all_goals
    intro h
    obtain ⟨turns, same⟩ := only h
    rw [same]

/-- An acknowledgement clears the binding and leaves the planner where it is. -/
theorem acknowledges : Succeeds (start.Seated k m (some k) (· = []))
    (nextAction k : Act κ α β ω (Option (LoopAction β))) fun _ => start.Seated k m (some k) (· = []) := by
  refine Succeeds.setRun.bind fun _ => Ensures.planner_bind fun p => ?_
  dsimp only
  refine Succeeds.setPlanner.bind fun _ => ?_
  refine Succeeds.bind (Q := fun _ v => start.Seated k m (some k) (· = []) v ∧ v.run = none) ?_ fun _ =>
    turns.imp (fun _ => id) fun _ _ => And.left
  rintro w ⟨_, ⟨⟨u, seated, rfl⟩, here⟩, same⟩
  refine ⟨(), rfl, ?_⟩
  rw [aloof_assignTurns, same]
  have cleared := seated.of_run none
  exact ⟨cleared.set (here ▸ cleared.named) (here ▸ cleared.holds), rfl⟩

/-- Whoever gives up leaves. -/
theorem abandons (f : Failure) : Succeeds (start.Seated k m (some k) (· = []))
    (abort k f : Act κ α β ω Unit) fun _ => Left start k m := by
  refine Ensures.planner_bind fun p => ?_
  dsimp only
  refine Succeeds.setPlanner.bind fun _ => ?_
  refine Succeeds.bind (Q := fun _ => start.Seated k m (some k) (· = [])) ?_ fun _ =>
    leaves (some k) fun _ => id
  rintro w ⟨u, ⟨seated, here⟩, same⟩
  refine ⟨(), rfl, ?_⟩
  rw [aloof_assignTurns, same]
  exact seated.set (here ▸ seated.named) rfl

/-! ## Batches -/

/-- A batch could not be run at all: nothing has been bound for it. -/
structure Refused (r : Runner κ α β ω) (start : Sight β) (run : Option String) (e : Failure) (v : Sight β) :
    Prop where
  failure : e = noPool
  workers : r.workers.any (· < 0) = true
  same : v.run = run
  spares : start.Spares v

variable {r : Runner κ α β ω}

/-- A batch is run, or it is one of several agents and refused. -/
theorem runs (spares : r.Spares) (batch : List (Submission β)) : Leads
    (fun v => start.Seated k m (some k) (· = []) v ∧ (batch.length ≠ 1 → v.run = run)) (runBatch r batch)
    (fun _ => start.Seated k m (some k) (· = []))
    fun e v => batch.length ≠ 1 ∧ Refused r start run e v := by
  unfold runBatch
  split
  · rename_i s
    have ran : Succeeds (start.Seated k m (some k) (· = [])) (attempt (r.run s.agent))
        fun _ => start.Seated k m (some k) (· = []) := Succeeds.attempt (spared (spares s.agent) (some k))
    exact .of_succeeds ((ran.imp (fun _ => And.left) fun _ _ => id).bind fun _ => .pure fun _ => id)
  · rename_i several
    have several : batch.length ≠ 1 := fun alone => by
      obtain ⟨s, rfl⟩ := List.length_eq_one_iff.mp alone
      exact several s rfl
    split
    · rename_i negative
      exact .throw fun v ⟨seated, same⟩ => ⟨several, rfl, negative, same several, seated.spares⟩
    · have ran (s : Submission β) : Ensures (start.Seated k m (some k) (· = []))
          (onThread { run := s.run } (r.run s.agent)) fun _ => start.Seated k m (some k) (· = []) := by
        refine .onThread _ fun outside w seated => ?_
        exact ((seated.of_run w.sight.run).of_spares (spares s.agent w)).of_run outside
      have all : Succeeds (start.Seated k m (some k) (· = []))
          (batch.mapM fun s => attempt (onThread { run := s.run } (r.run s.agent)))
          fun _ => start.Seated k m (some k) (· = []) := .mapM fun s _ => .attempt (ran s)
      exact .of_succeeds (all.imp (fun _ => And.left) fun _ _ => id)

/-- A batch that has been run is acknowledged, or the loop gives up. -/
theorem serves (spares : r.Spares) (batch : List (Submission β)) (own : r.planner = k) : Leads
    (fun v => start.Seated k m (some k) (· = []) v ∧ (batch.length ≠ 1 → v.run = run)) (serveBatch r batch)
    (fun _ => Going start k m (· = [])) fun e v => batch.length ≠ 1 ∧ Refused r start run e v := by
  subst own
  refine (runs spares batch).bind fun outcomes => ?_
  cases outcomes.findSome? failure? with
  | some f => exact .of_succeeds ((abandons f).bind fun _ => .pure fun _ => .inr)
  | none =>
    refine .of_succeeds (Succeeds.bind (Succeeds.forM fun _ _ => ?_) fun _ => .pure fun _ => .inl)
    exact acknowledges.bind fun _ => .pure fun _ => id

/-! ## The side of the activities -/

theorem finds {id : String} (own : id = drawnId m) : Succeeds (start.Seated k m (some k) holds)
    (findPlanner id : Act κ α β ω Nat) fun n v => n = k ∧ start.Seated k m (some k) holds v := by
  subst own
  refine Ensures.hub_bind fun h => ?_
  rintro w ⟨seated, -, live⟩
  dsimp only
  rw [live, seated.found]
  exact ⟨k, rfl, rfl, seated⟩

theorem misses {id : String} (own : id = drawnId m) {Q : Nat → Sight β → Prop} :
    Leads (start.Seated k m none holds) (findPlanner id : Act κ α β ω Nat) Q
      fun _ => start.Seated k m none holds := by
  subst own
  refine Ensures.hub_bind fun h => ?_
  rintro w ⟨seated, -, live⟩
  dsimp only
  rw [live, seated.found]
  exact seated

/-- A queue in which there is one turn more. -/
def OneMore (holds : List (Notice β) → Prop) (q : List (Notice β)) : Prop :=
  ∃ q' s, holds q' ∧ q = q' ++ [.turn s]

theorem submits (agent : β) (own : Option String) : Succeeds (start.Seated k m (some k) holds)
    (submit k agent own : Act κ α β ω Nat) fun _ => start.Seated k m (some k) (OneMore holds) := by
  refine Ensures.hub_bind fun h => ?_
  dsimp only
  refine Succeeds.bind (Q := fun _ => start.Seated k m (some k) holds) ?_ fun _ => ?_
  · rintro w ⟨seated, -⟩
    exact ⟨(), rfl, seated⟩
  refine Ensures.planner_bind fun p => Succeeds.setPlanner.bind fun _ => .pure ?_
  rintro _ ⟨u, ⟨seated, rfl⟩, rfl⟩
  exact seated.set seated.named ⟨_, _, seated.holds, rfl⟩

theorem begins (profile : β → Profile) {o : StepOrder} (own : o.plannerId = drawnId m) :
    Leads (start.Seated k m (some k) holds) (beginStep profile o : Act κ α β ω OpenStep)
      (fun _ => start.Seated k m (some k) (OneMore holds)) fun _ => start.Seated k m (some k) holds := by
  refine .known_bind (finds own) (Ensures.planner_bind fun p => ?_)
  cases p.agentAt o.agentIndex with
  | error f => exact .throw fun _ before => before.1
  | ok agent =>
    have started (own : Option String) : Leads (start.Seated k m (some k) holds)
        (startRun (profile agent).name (profile agent).userMessage (profile agent).systemMessage own :
          Act κ α β ω String)
        (fun _ => start.Seated k m (some k) holds) fun _ => start.Seated k m (some k) holds := by
      refine Ensures.imp (.aloof (.startRun _ _ _ _)) (fun _ => id) fun r v seated => ?_
      cases r <;> exact seated
    refine Leads.imp ((started _).bind fun _ => ?_) (fun _ => And.left) fun _ _ => id
    exact .of_succeeds ((submits agent _).bind fun _ => .pure fun _ => id)

theorem notes {P : Sight β → Prop} (record : Nat) (f : OrchestrationRecord → OrchestrationRecord) :
    Succeeds P (noteOrchestration record f : Act κ α β ω Unit) fun _ => P :=
  fun _ before => ⟨(), rfl, before⟩

/-- What a thread of its own does, the caller's binding apart. -/
theorem apart {x : Act κ α β ω γ} {found : Option Nat} {holds' : Result γ → List (Notice β) → Prop}
    (inside : Ensures (start.Seated k m found holds) x fun r => start.Seated k m found (holds' r)) :
    Succeeds (fun v => start.Seated k m found holds v ∧ v.run = run) (attempt (onThread {} x))
      fun r v => start.Seated k m found (holds' r) v ∧ v.run = run := by
  refine .attempt (.onThread _ fun outside w ⟨seated, same⟩ => ?_)
  exact ⟨(inside w (seated.of_run w.sight.run)).of_run outside, same⟩

/-- What is in a queue after a step has begun, or failed to. -/
def After (holds : List (Notice β) → Prop) : Result OpenStep → List (Notice β) → Prop
  | .ok _ => OneMore holds
  | .error _ => holds

/-- A step begins on a thread of its own, or fails to. -/
theorem opens (record : Nat) {o : StepOrder} (own : o.plannerId = drawnId m) :
    Succeeds (fun v => start.Seated k m (some k) holds v ∧ v.run = run) (openStep r record o)
      fun opened v => start.Seated k m (some k) (After holds opened) v ∧ v.run = run := by
  have begun : Ensures (start.Seated k m (some k) holds) (beginStep r.profile o : Act κ α β ω OpenStep)
      fun opened => start.Seated k m (some k) (After holds opened) := by
    refine Ensures.imp (begins r.profile own) (fun _ => id) fun opened v => ?_
    cases opened <;> exact id
  refine Succeeds.bind (notes record _) fun _ => Succeeds.bind (apart begun) fun opened => ?_
  cases opened with
  | ok s => exact (notes record _).bind fun _ => .pure fun _ => id
  | error f => exact .pure fun _ => id

/-- Where the planner has been left, no step begins. -/
theorem opens_left (record : Nat) {o : StepOrder} (own : o.plannerId = drawnId m) :
    Succeeds (Left start k m) (openStep r record o)
      fun opened v => (∃ f, opened = .error f) ∧ Left start k m v := by
  have missed : Ensures (start.Seated k m none (· = [])) (beginStep r.profile o : Act κ α β ω OpenStep)
      fun opened => start.Seated k m none fun q => (∃ f, opened = .error f) ∧ q = [] := by
    refine Ensures.bind (misses own (Q := fun _ _ => False)) (fun _ _ no => no.elim) fun f v seated => ?_
    exact seated.imp fun _ empty => ⟨⟨f, rfl⟩, empty⟩
  refine Succeeds.bind (notes record _) fun _ =>
    Succeeds.bind ((apart missed).imp (fun v left => ⟨left.seated, left.unbound⟩) fun _ _ => id) fun opened => ?_
  cases opened with
  | ok s =>
    refine fun w before => ?_
    obtain ⟨⟨f, no⟩, -⟩ := before.1.holds
    cases no
  | error f => exact .pure fun v after => ⟨after.1.holds.1, after.1.imp fun _ => And.right, after.2⟩

/-! ## The course -/

/-- What an activity beside a loop leads to, whether the loop has failed or not. -/
def Paces {γ : Type} (P : Sight β → Prop) (y : Paced κ α β ω γ) (Q : γ → Sight β → Prop)
    (E : Failure → Sight β → Prop) : Prop :=
  ∀ failure, Leads P (y.run failure) (fun done => Q done.1) E

namespace Paces

variable {P P' : Sight β → Prop} {y : Paced κ α β ω γ} {f : γ → Paced κ α β ω δ} {Q Q' : γ → Sight β → Prop}
  {S : δ → Sight β → Prop} {E : Failure → Sight β → Prop}

theorem beside {x : Act κ α β ω γ} (leads : Leads P x Q E) : Paces P (Act.beside x) Q E :=
  fun _ => leads.bind fun _ => .pure fun _ => id

theorem bind (first : Paces P y Q E) (rest : ∀ a, Paces (Q a) (f a) S E) : Paces P (y >>= f) S E :=
  fun failure => (first failure).bind fun done => rest done.1 done.2

theorem pure {a : γ} (holds : ∀ v, P v → Q a v) : Paces P (Pure.pure a : Paced κ α β ω γ) Q E :=
  fun _ => .pure holds

theorem set {failure : Option Failure} {R : Sight β → Prop} :
    Paces R (MonadStateOf.set failure : Paced κ α β ω PUnit) (fun _ => R) E :=
  fun _ => .pure fun _ => id

theorem imp (paces : Paces P y Q E) (stronger : ∀ v, P' v → P v) (weaker : ∀ a v, Q a v → Q' a v) :
    Paces P' y Q' E :=
  fun failure => (paces failure).imp stronger fun done => weaker done.1

theorem weaken {E' : Failure → Sight β → Prop} (paces : Paces P y Q E) (weaker : ∀ e v, E e v → E' e v) :
    Paces P y Q E' :=
  fun failure => (paces failure).weaken weaker

theorem of_run (paces : ∀ run, Paces (fun v => P v ∧ v.run = run) y Q E) : Paces P y Q E :=
  fun failure => .of_run fun run => paces run failure

theorem or (left : Paces P y Q E) (right : Paces P' y Q E) : Paces (fun v => P v ∨ P' v) y Q E :=
  fun failure => (left failure).or (right failure)

end Paces

/-- There may be several turns in a queue. -/
def Several (holds : List (Notice β) → Prop) : Prop :=
  ∃ q batch, holds q ∧ Planner.turns? q = some batch ∧ batch.length ≠ 1

/-- The loop runs what it finds, or it is refused a pool for the several agents that it finds. -/
theorem serves_found (spares : r.Spares) (own : r.planner = k) :
    Paces (fun v => start.Seated k m (some k) holds v ∧ v.run = run) (serveLoop r)
      (fun _ => Going start k m (· = [])) fun e v => Several holds ∧ Refused r start run e v := by
  refine Paces.bind (Q := Looked start k m run holds) (.beside (own ▸ .of_succeeds looks)) fun found => ?_
  cases found with
  | none =>
    refine .pure fun v looked => ?_
    cases looked with
    | nothing seated same => exact .inl (seated.imp fun _ => And.right)
  | some action =>
    cases action with
    | noOp => exact fun _ w looked => nomatch looked
    | done =>
      refine .pure fun v looked => ?_
      cases looked with
      | done held told left => exact .inr left
    | call batch =>
      refine Paces.bind (Q := fun _ => Going start k m (· = [])) (.beside ?_) fun _ => .set
      intro w looked
      cases looked with
      | batch held turns seated same =>
        have served := serves spares batch own w ⟨seated, same⟩
        revert served
        rcases serveBatch r batch w with ⟨_ | _, w'⟩
        · exact fun ⟨several, refused⟩ => ⟨⟨_, _, held, turns, several⟩, refused⟩
        · exact id

theorem closes {P : Sight β → Prop} (record : Nat) (s : OpenStep) :
    Succeeds P (closeStep record s : Act κ α β ω (Result StepReport)) fun _ => P :=
  (notes record _).bind fun _ => .attempt (.aloof (.onThread _ (.endStep s)))

theorem not_several : ¬ Several (OneMore (· = []) : List (Notice β) → Prop) := by
  rintro ⟨_, batch, ⟨_, s, rfl, rfl⟩, turns, several⟩
  cases turns
  exact absurd rfl several

/-- A step finds its planner where it was, or finds it left. -/
theorem paces_step (spares : r.Spares) (own : r.planner = k) (record : Nat) (progress : Progress)
    {o : StepOrder} (mine : o.plannerId = drawnId m) {E : Failure → Sight β → Prop} :
    Paces (Going start k m (· = [])) ((pacedActivities r record).step progress o)
      (fun _ => Going start k m (· = [])) E := by
  refine .or (.of_run fun run => ?_) ?_
  · refine Paces.bind (.beside (.of_succeeds (opens record mine))) fun opened => ?_
    cases opened with
    | error f => exact .pure fun v => .inl ∘ And.left
    | ok s =>
      have served : Paces (fun v => start.Seated k m (some k) (OneMore (· = [])) v ∧ v.run = run) (serveLoop r)
          (fun _ => Going start k m (· = [])) E :=
        (serves_found spares own).weaken fun e v no => (not_several no.1).elim
      exact Paces.bind served fun _ => .beside (.of_succeeds (closes record s))
  · refine Paces.bind (.beside (.of_succeeds (opens_left record mine))) fun opened => ?_
    rintro failure w ⟨⟨f, rfl⟩, left⟩
    exact .inr left

theorem Going.told {v : Sight β} (going : Going start k m (· = []) v) : Going start k m TurnsOnly v :=
  going.imp fun q empty => by
    rw [TurnsOnly, empty]
    exact List.not_mem_nil

/-- Steps that are asked for at once are served as one batch. -/
theorem paces_steps (spares : r.Spares) (own : r.planner = k) (record : Nat) (progress : Progress)
    {os : List StepOrder} (mine : ∀ o ∈ os, o.plannerId = drawnId m) :
    Paces (fun v => start.Seated k m (some k) TurnsOnly v ∧ v.run = run)
      ((pacedActivities r record).steps progress os)
      (fun _ => Going start k m TurnsOnly) (Refused r start run) := by
  have opened : Succeeds (fun v => start.Seated k m (some k) TurnsOnly v ∧ v.run = run)
      (os.mapM (openStep r record)) fun _ v => start.Seated k m (some k) TurnsOnly v ∧ v.run = run := by
    refine .mapM fun o member => (opens record (mine o member)).imp (fun _ => id) fun opened v after => ?_
    refine ⟨after.1.imp fun q held => ?_, after.2⟩
    cases opened with
    | error f => exact held
    | ok s =>
      obtain ⟨q', s, before, rfl⟩ := held
      rw [TurnsOnly, List.mem_append, List.mem_singleton]
      rintro (told | ⟨⟨⟩⟩)
      exact before told
  refine Paces.bind (.beside (.of_succeeds opened)) fun opened => ?_
  cases allOpened opened with
  | error failures => exact .pure fun v before => .inl before.1
  | ok steps =>
    have served : Paces (fun v => start.Seated k m (some k) TurnsOnly v ∧ v.run = run) (serveLoop r)
        (fun _ => Going start k m (· = [])) (Refused r start run) :=
      (serves_found spares own).weaken fun e v => And.right
    have closed : Succeeds (Going start k m (· = [])) (steps.mapM (closeStep record) : Act κ α β ω _)
        fun _ => Going start k m (· = []) := .mapM fun s _ => closes record s
    exact Paces.bind served fun _ => .beside (.of_succeeds (closed.imp (fun _ => id) fun _ _ => Going.told))

/-- A question is out of sight. -/
theorem paces_question {P : Sight β → Prop} {E : Failure → Sight β → Prop} {x : Act κ α β ω γ}
    (aloof : Aloof x) (record : Nat) (q : OrchestrationRequest) :
    Paces P (beside do
      noteRequest record q
      attempt (onThread {} x)) (fun _ => P) E :=
  .beside (.of_succeeds ((notes record _).bind fun _ => .attempt (.aloof (.onThread _ aloof))))

/-- A course that asks for one step at a time is served to its end, or left on the way. -/
theorem paces_single (spares : r.Spares) (own : r.planner = k) (record : Nat) {width : Nat} (d : Drive)
    (single : d.Single (drawnId m) width) (progress : Progress) {E : Failure → Sight β → Prop} :
    Paces (Going start k m (· = [])) (d.run (pacedActivities r record) progress)
      (fun _ => Going start k m (· = [])) E := by
  induction d generalizing progress with
  | finish => exact .pure fun _ => id
  | iteration i next ih => exact ih () single _
  | skip i next ih => exact ih single _
  | steps os next ih => exact single.elim
  | step o next ih =>
    refine (paces_step spares own record progress single.1).bind fun done => ?_
    cases done with
    | ok report => exact ih single.2.2 _
    | error f => exact .pure fun _ => id
  | checkExit o next ih =>
    rw [Drive.run]
    refine Paces.bind (paces_question (.askExit o) record (.checkExit o)) fun answer => ?_
    cases answer with
    | ok holds => exact ih holds (single.2 holds) _
    | error f => exact .pure fun _ => id
  | checkCondition o next ih =>
    rw [Drive.run]
    refine Paces.bind (paces_question (.askCondition o) record (.checkCondition o)) fun answer => ?_
    cases answer with
    | ok holds => exact ih holds (single.2 holds) _
    | error f => exact .pure fun _ => id

/-- The course of every topology. -/
theorem paces_course (spares : r.Spares) (own : r.planner = k) (record : Nat) {started : OrchestrationStart}
    (mine : started.plannerId = drawnId m) :
    Paces (fun v => start.Seated k m (some k) (· = []) v ∧ v.run = run)
      ((Drive.of started).run (pacedActivities r record) {})
      (fun _ => Going start k m TurnsOnly) (Refused r start run) := by
  by_cases topology : started.topology = .parallel
  · have parallel : Drive.of started = .parallel started.plannerId (List.range started.agentCount) := by
      rw [Drive.of, topology]
    rw [parallel]
    have steps : Paces (fun v => start.Seated k m (some k) TurnsOnly v ∧ v.run = run)
        ((pacedActivities r record).steps {} ((List.range started.agentCount).map fun i =>
          { plannerId := started.plannerId, agentIndex := i }))
        (fun _ => Going start k m TurnsOnly) (Refused r start run) := paces_steps spares own record {} (by simp [mine])
    refine Paces.bind (steps.imp (fun v before => ⟨?_, before.2⟩) fun _ _ => id) fun outcomes => ?_
    · exact before.1.imp fun q empty => by simp [TurnsOnly, empty]
    · rcases Progress.reportAll {} outcomes with ⟨progress, _ | f⟩
      · exact .pure fun _ => id
      · exact .pure fun _ => id
  · have single := Drive.single_of topology
    rw [mine] at single
    exact (paces_single spares own record _ single {}).imp (fun v before => .inl before.1)
      fun _ _ => Going.told

/-- The planner is told that its orchestration has ended, unless the loop has left it. -/
theorem completes {id : String} (own : id = drawnId m) :
    Succeeds (Going start k m holds) (completePlanner id : Act κ α β ω Unit)
      fun _ => Going start k m (.complete ∈ ·) := by
  subst own
  refine Ensures.hub_bind fun h => ?_
  rintro w ⟨seated | left, -, live⟩
  · dsimp only
    rw [live, seated.found]
    exact ⟨(), rfl, .inl (seated.set seated.named (List.mem_append_right _ (List.mem_singleton_self _)))⟩
  · dsimp only
    rw [live, left.seated.found]
    exact ⟨(), rfl, .inr left⟩

/-- The orchestration ends by telling the planner so. -/
theorem paces_orchestrate (spares : r.Spares) (own : r.planner = k) (record : Nat)
    {started : OrchestrationStart} (mine : started.plannerId = drawnId m) :
    Paces (fun v => start.Seated k m (some k) (· = []) v ∧ v.run = run)
      (orchestrate (pacedActivities r record) started)
      (fun _ => Going start k m (.complete ∈ ·)) (Refused r start run) := by
  refine Paces.bind (paces_course spares own record mine) fun (progress, failure) => ?_
  have told (status : OrchestrationStatus) (named : status.plannerId = drawnId m) :
      Paces (Going start k m TurnsOnly) ((pacedActivities r record).complete status)
        (fun _ => Going start k m (.complete ∈ ·)) (Refused r start run) :=
    .beside (.of_succeeds ((notes record _).bind fun _ => (completes named).bind fun _ => .pure fun _ => id))
  cases failure with
  | none => exact (told _ mine).bind fun done => by cases done <;> exact .pure fun _ => id
  | some f => exact (told _ mine).bind fun done => by cases done <;> exact .pure fun _ => id

/-- A loop that has been told that all is over leaves. -/
theorem looks_told : Succeeds (Going start k m (.complete ∈ ·))
    (look k : Act κ α β ω (Option (LoopAction β))) fun _ => Left start k m := by
  rintro w (seated | left)
  · obtain ⟨a, ok, looked⟩ := looks w ⟨seated, rfl⟩
    refine ⟨a, ok, ?_⟩
    cases looked with
    | nothing seated same =>
      have empty := seated.holds.2
      have told := seated.holds.1
      rw [empty] at told
      cases told
    | batch held turns seated same => exact absurd held (Planner.complete_notMem_of_turns? turns)
    | done held told left => exact left
  · obtain ⟨a, ok, -, left⟩ := look_of_empty (fun v (left : Left start k m v) => left.seated.holds) w left
    exact ⟨a, ok, left⟩

/-- An orchestration is started, or the loop leaves at once. -/
theorem begins_orchestration (p : Planner β) :
    Leads (fun v => (start.Seated k m (some k) (· = []) v ∧ v.run = run) ∧ v.planner k = p)
      (firstAction k : Act κ α β ω (Option (LoopAction β)))
      (fun _ v => (start.Seated k m (some k) (· = []) v ∧ v.run = run) ∧
        ∃ started, p.start = .ok started ∧ started.plannerId = drawnId m)
      fun _ => Left start k m := by
  have known : Succeeds
      (fun v => (start.Seated k m (some k) (· = []) v ∧ v.run = run) ∧ v.planner k = p)
      (planner k : Act κ α β ω (Planner β)) fun p' v => p' = p ∧
        (start.Seated k m (some k) (· = []) v ∧ v.run = run) ∧ v.planner k = p :=
    fun w before => ⟨_, rfl, before.2, before⟩
  have gives (f : Failure) : Leads (start.Seated k m (some k) (· = []))
      (do leavePlanner k; throw f : Act κ α β ω (Option (LoopAction β))) (fun _ _ => False)
        fun _ => Left start k m :=
    (Leads.of_succeeds (leaves (some k) fun _ => id)).bind fun _ => .throw fun _ => id
  refine .known_bind known ?_
  cases valid : p.start with
  | error f =>
    refine Leads.bind (Q := fun tried v => start.Seated k m (some k) (· = []) v ∧ tried = .error f) ?_ ?_
    · exact fun w before => ⟨before.1.1, rfl⟩
    · rintro _ w ⟨seated, rfl⟩
      exact gives f w seated
  | ok started =>
    have mine (v : Sight β) (seated : start.Seated k m (some k) (· = []) v) (here : v.planner k = p) :
        started.plannerId = drawnId m := by
      rw [(Planner.of_start valid).1, ← here, seated.named]
    refine Leads.bind (.of_succeeds (.attempt (.aloof (.bind (.ofResult _) fun _ => .onEngine _)))) ?_
    rintro (f | _) w ⟨⟨seated, same⟩, here⟩
    · exact gives f w seated
    · refine Leads.imp (.of_succeeds turns) (fun _ => id) (fun _ v after => ⟨after, started, rfl, ?_⟩) w
        ⟨seated, same⟩
      exact mine _ seated here

/-- A loop that works for an orchestration leaves its planner and binds no run, unless it is refused a pool
for its first batch. -/
theorem pace_leaves (spares : r.Spares) (own : r.planner = k) :
    Leads (fun v => start.Seated k m (some k) (· = []) v ∧ v.run = run) (pace r) (fun _ => Left start k m)
      fun e v => Left start k m v ∨ Refused r start run e v := by
  subst own
  refine Ensures.planner_bind fun p => ?_
  refine Leads.bind ((begins_orchestration p).weaken fun _ _ => .inl) fun action => ?_
  refine Leads.bind (Q := fun _ v => (start.Seated r.planner m (some r.planner) (· = []) v ∧ v.run = run) ∧
    ∃ started, p.start = .ok started ∧ started.plannerId = drawnId m) ?_ fun record => ?_
  · exact fun w before => before
  rintro w ⟨before, started, valid, mine⟩
  rw [valid]
  have orchestrated : Leads (fun v => start.Seated r.planner m (some r.planner) (· = []) v ∧ v.run = run)
      (orchestrate (pacedActivities r record) started none)
      (fun done => Going start r.planner m (.complete ∈ ·))
      (fun e v => Left start r.planner m v ∨ Refused r start run e v) :=
    (paces_orchestrate spares rfl record mine none).weaken fun _ _ => .inr
  refine Leads.bind orchestrated (fun (ending, failure) => ?_) w before
  refine Leads.bind (.of_succeeds (notes record _)) fun _ => Leads.bind (.of_succeeds looks_told) fun _ => ?_
  cases failure with
  | none => exact .pure fun _ => id
  | some f => exact .throw fun _ => .inl

end Act
end Rendezvous
