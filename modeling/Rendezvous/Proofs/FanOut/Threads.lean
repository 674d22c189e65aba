import Rendezvous.Proofs.FanOut.Census

/-!
# The threads that run agents

An agent that is a batch of its own runs on the thread of the loop, which has been bound to the agent's run.  The
agents of a larger batch run on the threads of a pool: there are no more of them than the limit allows, each takes up
one turn after the other, binds the run of the agent while it is at a turn, and puts back what was bound before.
The loop goes on when all turns have been taken up and put down again (`Site.Step`).

Whatever the schedule, a turn only goes on in a context that is bound to its own run (`Site.Reaches.bound`); the
pool never gets stuck, and it does not keep an orchestration going for good (`Site.Reaches.goesOn`,
`Site.wellFounded_step`).
-/

namespace Rendezvous

set_option autoImplicit false

namespace Ensemble

variable {β σ : Type}

/-- A thread of the pool. -/
structure Hand where
  /-- The run that its calls belong to. -/
  run : Option String := none
  /-- The turn that it is at, by its position in the batch, and the run that was bound before. -/
  job : Option (Nat × Option String) := none

/-- The stage, and the contexts of the threads that run agents. -/
structure Site (e : Ensemble β σ) where
  stage : e.Stage
  /-- The run that calls on the thread of the loop belong to. -/
  run : Option String := none
  hands : List Hand := []
  /-- How many turns of the batch have been taken up. -/
  begun : Nat := 0

/-- How many threads the pool for a batch may have; zero stands for no limit. -/
def limit (e : Ensemble β σ) (size : Nat) : Nat :=
  match e.workers with
  | some n => if n = 0 then size else n.toNat
  | none => size

variable {e : Ensemble β σ}

/-- The run of the loop's thread after a step of the loop: that of an agent that is a batch of its own, and none
after a turn and at the end. -/
def rebound (run : Option String) : (before after : e.Loop) → Option String
  | .looking, .running [t] => t.submission.run.or run
  | .acknowledging _, _ | .leaving _, _ => none
  | _, _ => run

/-- A batch runs only after the loop has found it in the queue. -/
theorem LoopStep.looking_of_running {s t : e.Stage} (step : LoopStep s t) {batch : List e.Turn}
    (running : t.loop = .running batch) : s.loop = .looking := by
  cases step with
  | call batch p at_ drained _ => exact at_
  | count left at_ =>
    simp only at running
    split at running <;> cases running
  | _ => cases running

/-- The loop ends after it has left its planner. -/
theorem LoopStep.leaving_of_ended {s t : e.Stage} (step : LoopStep s t) {r : Result Unit}
    (ended : t.loop = .ended r) : s.loop = .leaving r := by
  cases step with
  | leave r' at_ =>
    cases ended
    exact at_
  | count left at_ =>
    simp only at ended
    split at ended <;> cases ended
  | _ => cases ended

namespace Site

/-- The context of a turn of the batch, if some thread is at it. -/
inductive Hosts (s : e.Site) : Option String → Nat → e.Turn → Prop
  | loop {t : e.Turn} (at_ : s.stage.loop = .running [t]) : Hosts s s.run 0 t
  | hand {batch : List e.Turn} {t : e.Turn} {h : Hand} {j : Nat} {outer : Option String}
      (at_ : s.stage.loop = .running batch) (several : batch.length ≠ 1) (mem : h ∈ s.hands)
      (job : h.job = some (j, outer)) (there : batch[j]? = some t) : Hosts s h.run j t

/-- Whoever is hosted has a turn. -/
theorem Hosts.mem {s : e.Site} {own : Option String} {j : Nat} {t : e.Turn} (hosts : s.Hosts own j t) :
    t ∈ s.stage.turns := by
  cases hosts with
  | loop at_ =>
    rw [Stage.turns, at_]
    exact List.mem_append_left _ (List.mem_singleton_self t)
  | hand at_ several mem job there =>
    rw [Stage.turns, at_]
    exact List.mem_append_left _ (List.mem_of_getElem? there)

/-- No turn of the batch is left to the pool. -/
def Quiet (s : e.Site) : Prop :=
  ∀ batch, s.stage.loop = .running batch → batch.length ≠ 1 →
    s.begun = batch.length ∧ ∀ h ∈ s.hands, h.job = none

/-- One step of any thread. -/
inductive Step : e.Site → σ → e.Site → σ → Prop
  | loop {s : e.Site} {t : e.Stage} {x : σ} (quiet : s.Quiet) (step : LoopStep s.stage t) :
      Step s x { stage := t, run := rebound s.run s.stage.loop t.loop } x
  | flow {s : e.Site} {t : e.Stage} {x : σ} (step : FlowStep x s.stage t) : Step s x { s with stage := t } x
  | errand {s : e.Site} {t : e.Stage} {x : σ} {before after : Errand β} (i : Nat)
      (there : s.stage.errands[i]? = some before) (moves : ErrandStep s.stage before t after) :
      Step s x { s with stage := { t with errands := t.errands.set i after } } x
  /-- The pool gets a thread more. -/
  | hire {s : e.Site} {x : σ} {batch : List e.Turn} (at_ : s.stage.loop = .running batch)
      (several : batch.length ≠ 1) (room : s.hands.length < e.limit batch.length) :
      Step s x { s with hands := s.hands ++ [{}] } x
  | takeUp {s : e.Site} {x : σ} {batch : List e.Turn} {t : e.Turn} {h : Hand} (i : Nat)
      (at_ : s.stage.loop = .running batch) (several : batch.length ≠ 1) (hand : s.hands[i]? = some h)
      (free : h.job = none) (there : batch[s.begun]? = some t) :
      Step s x { s with
        hands := s.hands.set i { run := t.submission.run, job := some (s.begun, h.run) }
        begun := s.begun + 1 } x
  | perform {s : e.Site} {x y : σ} {batch : List e.Turn} {t : e.Turn} {run : Option String}
      {q : (e.behaviour t.submission.agent).State} (j : Nat) (at_ : s.stage.loop = .running batch)
      (there : batch[j]? = some t) (hosts : s.Hosts run j t)
      (moves : (e.behaviour t.submission.agent).Step t.state x q y) :
      Step s x { s with stage := { s.stage with loop := .running (batch.set j ⟨t.submission, q⟩) } } y
  | putDown {s : e.Site} {x : σ} {batch : List e.Turn} {t : e.Turn} {h : Hand} {j : Nat} {outer : Option String}
      {r : Result Value} (i : Nat) (at_ : s.stage.loop = .running batch) (hand : s.hands[i]? = some h)
      (job : h.job = some (j, outer)) (there : batch[j]? = some t) (past : t.result? = some r) :
      Step s x { s with hands := s.hands.set i { run := outer } } x
  | linger {s : e.Site} {x y : σ} {t : e.Turn} {q : (e.behaviour t.submission.agent).State} (i : Nat)
      (there : s.stage.retired[i]? = some t) (moves : (e.behaviour t.submission.agent).Step t.state x q y) :
      Step s x { s with stage := { s.stage with retired := s.stage.retired.set i ⟨t.submission, q⟩ } } y

/-- The sites and shared states that any schedule can lead to, if the thread of the loop belongs to some run at
first. -/
inductive Reaches (e : Ensemble β σ) (run : Option String) (x₀ : σ) : e.Site → σ → Prop
  | opening : Reaches e run x₀ { stage := e.opening, run } x₀
  | step {s t : e.Site} {x y : σ} (reaches : Reaches e run x₀ s x) (step : Step s x t y) : Reaches e run x₀ t y

variable {s t : e.Site} {x y x₀ : σ} {run : Option String}

/-- How much is left to do in the pool. -/
def burden (s : e.Site) : Nat :=
  (e.limit s.stage.loop.turns.length - s.hands.length) + 2 * (s.stage.loop.turns.length - s.begun) +
    s.hands.countP (·.job.isSome)

/-- A step of any thread is a step on the stage, or leaves it alone and does something in the pool. -/
theorem Step.on_stage (step : Step s x t y) :
    Ensemble.Step s.stage x t.stage y ∨ t.stage = s.stage ∧ y = x ∧ t.burden < s.burden := by
  cases step with
  | loop quiet step => exact .inl (.loop step)
  | flow step => exact .inl (.flow step)
  | errand i there moves => exact .inl (.errand i there moves)
  | perform j at_ there hosts moves => exact .inl (.perform j at_ there moves)
  | linger i there moves => exact .inl (.linger i there moves)
  | hire at_ several room =>
    refine .inr ⟨rfl, rfl, ?_⟩
    simp only [burden, at_, Loop.turns, List.length_append, List.length_singleton, List.countP_append,
      List.countP_singleton, Option.isSome_none]
    simp only [Bool.false_eq_true, if_false]
    omega
  | takeUp i at_ several hand free there =>
    rename_i batch t h
    refine .inr ⟨rfl, rfl, ?_⟩
    have inside := (List.getElem?_eq_some_iff.mp there).1
    obtain ⟨old, new⟩ := perm_of_getElem? hand { run := t.submission.run, job := some (s.begun, h.run) }
    simp only [burden, at_, Loop.turns, List.length_set, old.countP_eq, new.countP_eq, List.countP_cons, free]
    simp only [Option.isSome_some, Option.isSome_none, Bool.false_eq_true, if_true, if_false]
    omega
  | putDown i at_ hand job there past =>
    rename_i batch t h j outer r
    refine .inr ⟨rfl, rfl, ?_⟩
    obtain ⟨old, new⟩ := perm_of_getElem? hand { run := outer }
    simp only [burden, at_, Loop.turns, List.length_set, old.countP_eq, new.countP_eq, List.countP_cons, job]
    simp only [Option.isSome_some, Option.isSome_none, Bool.false_eq_true, if_true, if_false]
    omega

theorem Reaches.on_stage (reaches : Reaches e run x₀ s x) : Reachable s.stage := by
  induction reaches with
  | opening => exact .opening
  | step _ step ih =>
    rcases step.on_stage with taken | ⟨same, -⟩
    · exact ih.step taken
    · rwa [same]

/-- If no agent can be kept going for good, no schedule goes on for good. -/
theorem wellFounded_step (finite : ∀ agent, (e.behaviour agent).Finite) :
    WellFounded fun after before : e.Site => Reachable before.stage ∧ ∃ x y, Step before x after y := by
  have less := WellFounded.prod_lex (Ensemble.wellFounded_step finite) Nat.lt_wfRel.wf
  have rests := InvImage.wf (fun s : e.Site => (s.stage, s.burden)) less
  refine Subrelation.wf ?_ rests
  rintro after before ⟨reach, x, y, step⟩
  rcases step.on_stage with taken | ⟨same, -, less⟩
  · exact .left _ _ ⟨reach, x, y, taken⟩
  · show Prod.Lex _ _ (after.stage, after.burden) (before.stage, before.burden)
    rw [same]
    exact .right _ less

/-! ## What the threads are bound to -/

/-- Each thread is bound to the run of the turn that it is at, and to none between turns; whoever has taken up a turn
puts it down when it is over. -/
structure Bound (s : e.Site) : Prop where
  alone : ∀ t r, s.stage.loop = .running [t] → t.submission.run = some r → s.run = some r
  ended : ∀ r, s.stage.loop = .ended r → s.run = none
  idle : ∀ h ∈ s.hands, h.job = none → h.run = none
  busy : ∀ h ∈ s.hands, ∀ j outer, h.job = some (j, outer) → outer = none ∧
    ∃ batch t, s.stage.loop = .running batch ∧ batch[j]? = some t ∧ h.run = t.submission.run
  within : ∀ batch, s.stage.loop = .running batch → s.begun ≤ batch.length
  staffed : ∀ batch j t, s.stage.loop = .running batch → batch.length ≠ 1 → j < s.begun → batch[j]? = some t →
    (∃ h ∈ s.hands, ∃ outer, h.job = some (j, outer)) ∨ ∃ r, t.result? = some r

/-- Somebody other than the loop and the agents has done something. -/
theorem Bound.of_stage {stage : e.Stage} (bound : Bound s) (loop : stage.loop = s.stage.loop) :
    Bound { s with stage } := by
  obtain ⟨alone, ended, idle, busy, within, staffed⟩ := bound
  refine ⟨?_, ?_, idle, ?_, ?_, ?_⟩ <;> rwa [loop]

theorem bound_of_loopStep {stage : e.Stage} (step : LoopStep s.stage stage) :
    Bound ({ stage, run := rebound s.run s.stage.loop stage.loop } : e.Site) := by
  refine ⟨?_, ?_, nofun, nofun, fun _ _ => Nat.zero_le _, fun _ _ _ _ _ none => absurd none (Nat.not_lt_zero _)⟩
  · intro t r running own
    show rebound s.run s.stage.loop stage.loop = some r
    rw [step.looking_of_running running, running, rebound, own, Option.some_or]
  · intro r ended
    show rebound s.run s.stage.loop stage.loop = none
    rw [step.leaving_of_ended ended, rebound]

theorem Bound.perform {batch : List e.Turn} {t : e.Turn} {q : (e.behaviour t.submission.agent).State} {j : Nat}
    (bound : Bound s) (at_ : s.stage.loop = .running batch) (there : batch[j]? = some t) (hosts : s.Hosts run j t) :
    Bound { s with stage := { s.stage with loop := .running (batch.set j ⟨t.submission, q⟩) } } := by
  have inside := (List.getElem?_eq_some_iff.mp there).1
  obtain ⟨alone, ended, idle, busy, within, staffed⟩ := bound
  have after : (batch.set j ⟨t.submission, q⟩)[j]? = some ⟨t.submission, q⟩ := List.getElem?_set_self inside
  refine ⟨?_, nofun, idle, ?_, ?_, ?_⟩
  · intro u r running own
    have same : batch.set j ⟨t.submission, q⟩ = [u] := Loop.running.inj running
    have one : batch.length = 1 := by
      rw [← List.length_set, same]
      rfl
    obtain ⟨only, rfl⟩ := List.length_eq_one_iff.mp one
    have first : j = 0 := by
      rw [one] at inside
      omega
    subst first
    cases there
    cases same
    exact alone t r at_ own
  · intro h mem k outer job
    obtain ⟨none, batch', u, at_', there', own⟩ := busy h mem k outer job
    obtain rfl : batch = batch' := Loop.running.inj (at_.symm.trans at_')
    refine ⟨none, batch.set j ⟨t.submission, q⟩, ?_⟩
    by_cases same : j = k
    · subst same
      obtain rfl : t = u := Option.some.inj (there.symm.trans there')
      exact ⟨_, rfl, after, own⟩
    · refine ⟨u, rfl, ?_, own⟩
      rwa [List.getElem?_set_ne same]
  · intro batch' running
    obtain rfl := Loop.running.inj running
    rw [List.length_set]
    exact within batch at_
  · intro batch' k u running several early there'
    obtain rfl := Loop.running.inj running
    rw [List.length_set] at several
    by_cases same : j = k
    · subst same
      cases hosts with
      | loop alone =>
        cases at_.symm.trans alone
        exact absurd rfl several
      | hand _ _ mem job _ => exact .inl ⟨_, mem, _, job⟩
    · rw [List.getElem?_set_ne same] at there'
      exact staffed batch k u at_ several early there'

theorem Bound.hire (bound : Bound s) : Bound { s with hands := s.hands ++ [{}] } := by
  obtain ⟨alone, ended, idle, busy, within, staffed⟩ := bound
  refine ⟨alone, ended, ?_, ?_, within, ?_⟩
  · intro h mem free
    rcases List.mem_append.mp mem with old | new
    · exact idle h old free
    · cases List.mem_singleton.mp new
      rfl
  · intro h mem j outer job
    rcases List.mem_append.mp mem with old | new
    · exact busy h old j outer job
    · cases List.mem_singleton.mp new
      cases job
  · intro batch j u running several early there
    refine (staffed batch j u running several early there).imp_left ?_
    rintro ⟨h, mem, at_work⟩
    exact ⟨h, List.mem_append_left _ mem, at_work⟩

theorem Bound.takeUp {batch : List e.Turn} {u : e.Turn} {h : Hand} {i : Nat} (bound : Bound s)
    (at_ : s.stage.loop = .running batch) (hand : s.hands[i]? = some h) (free : h.job = none)
    (there : batch[s.begun]? = some u) :
    Bound { s with
      hands := s.hands.set i { run := u.submission.run, job := some (s.begun, h.run) }
      begun := s.begun + 1 } := by
  obtain ⟨alone, ended, idle, busy, within, staffed⟩ := bound
  have inside := (List.getElem?_eq_some_iff.mp hand).1
  have unbound := idle h (List.mem_of_getElem? hand) free
  have here : ({ run := u.submission.run, job := some (s.begun, h.run) } : Hand) ∈
      s.hands.set i { run := u.submission.run, job := some (s.begun, h.run) } := List.mem_set inside _
  refine ⟨alone, ended, ?_, ?_, ?_, ?_⟩
  · intro h' mem free'
    rcases List.mem_or_eq_of_mem_set mem with old | rfl
    · exact idle h' old free'
    · cases free'
  · intro h' mem j outer job
    rcases List.mem_or_eq_of_mem_set mem with old | rfl
    · exact busy h' old j outer job
    · cases job
      exact ⟨unbound, batch, u, at_, there, rfl⟩
  · intro batch' running
    obtain rfl : batch = batch' := Loop.running.inj (at_.symm.trans running)
    exact (List.getElem?_eq_some_iff.mp there).1
  · intro batch' j u' running several early there'
    obtain rfl : batch = batch' := Loop.running.inj (at_.symm.trans running)
    rcases Nat.lt_succ_iff_lt_or_eq.mp early with earlier | rfl
    · refine (staffed batch j u' running several earlier there').imp_left ?_
      rintro ⟨h', mem, outer, job⟩
      refine ⟨h', mem_set_of_ne mem hand ?_, outer, job⟩
      rintro rfl
      cases free.symm.trans job
    · exact .inl ⟨_, here, h.run, rfl⟩

theorem Bound.putDown {batch : List e.Turn} {u : e.Turn} {h : Hand} {i j : Nat} {outer : Option String}
    {r : Result Value} (bound : Bound s) (at_ : s.stage.loop = .running batch) (hand : s.hands[i]? = some h)
    (job : h.job = some (j, outer)) (there : batch[j]? = some u) (past : u.result? = some r) :
    Bound { s with hands := s.hands.set i { run := outer } } := by
  obtain ⟨alone, ended, idle, busy, within, staffed⟩ := bound
  obtain ⟨unbound, -⟩ := busy h (List.mem_of_getElem? hand) j outer job
  refine ⟨alone, ended, ?_, ?_, within, ?_⟩
  · intro h' mem free
    rcases List.mem_or_eq_of_mem_set mem with old | rfl
    · exact idle h' old free
    · exact unbound
  · intro h' mem k outer' job'
    rcases List.mem_or_eq_of_mem_set mem with old | rfl
    · exact busy h' old k outer' job'
    · cases job'
  · intro batch' k u' running several early there'
    obtain rfl : batch = batch' := Loop.running.inj (at_.symm.trans running)
    rcases staffed batch k u' running several early there' with ⟨h', mem, outer', job'⟩ | result
    · by_cases same : h' = h
      · subst same
        cases job.symm.trans job'
        obtain rfl : u = u' := Option.some.inj (there.symm.trans there')
        exact .inr ⟨r, past⟩
      · exact .inl ⟨h', mem_set_of_ne mem hand same, outer', job'⟩
    · exact .inr result

theorem Step.bound (step : Step s x t y) (bound : Bound s) : Bound t := by
  cases step with
  | loop quiet step => exact bound_of_loopStep step
  | flow step => exact bound.of_stage step.frame.1
  | errand i there moves => exact bound.of_stage moves.slots_frame.2.2.1
  | linger i there moves => exact bound.of_stage rfl
  | perform j at_ there hosts moves => exact bound.perform at_ there hosts
  | hire at_ several room => exact bound.hire
  | takeUp i at_ several hand free there => exact bound.takeUp at_ hand free there
  | putDown i at_ hand job there past => exact bound.putDown at_ hand job there past

theorem Reaches.bound (reaches : Reaches e run x₀ s x) : Bound s := by
  induction reaches with
  | opening =>
    refine ⟨nofun, nofun, ?_, ?_, nofun, nofun⟩
    · intro h mem
      cases mem
    · intro h mem
      cases mem
  | step _ step ih => exact step.bound ih

/-- A turn goes on in a context that is bound to its run. -/
theorem Bound.hosts (bound : Bound s) {own : Option String} {j : Nat} {t : e.Turn} (hosts : s.Hosts own j t)
    {r : String} (run : t.submission.run = some r) : own = some r := by
  cases hosts with
  | loop at_ => exact bound.alone t r at_ run
  | hand at_ several mem job there =>
    obtain ⟨-, batch, u, at_', there', own⟩ := bound.busy _ mem _ _ job
    cases at_.symm.trans at_'
    obtain rfl : t = u := Option.some.inj (there.symm.trans there')
    rw [own, run]

/-! ## The pool does not get stuck -/

/-- A turn that a thread is at goes on, or the thread of the pool puts it down. -/
theorem goes_of_hosts {e : Ensemble Nat σ} {s : e.Site} (fan : FanOut e) (attained : s.stage.Attained) (x : σ)
    {batch : List e.Turn} (at_ : s.stage.loop = .running batch) {own : Option String} {j : Nat} {t : e.Turn}
    (there : batch[j]? = some t) (hosts : s.Hosts own j t) :
    (∃ u y, Step s x u y) ∨ ∃ r, t.result? = some r := by
  have attains : (e.behaviour t.submission.agent).Attains t.state := by
    apply attained t
    rw [Stage.turns, at_]
    exact List.mem_append_left _ (List.mem_of_getElem? there)
  cases result : t.result? with
  | none =>
    obtain ⟨q, y, moves⟩ := (fan.able t.submission.agent).goesOn x attains result
    exact .inl ⟨_, y, .perform j at_ there hosts moves⟩
  | some r => exact .inr ⟨r, rfl⟩

/-- When all turns of a batch are over, the loop goes on. -/
theorem goes_of_results {e : Ensemble Nat σ} {s : e.Site} (fan : FanOut e) (attained : s.stage.Attained) (x : σ)
    {batch : List e.Turn} (at_ : s.stage.loop = .running batch) (quiet : s.Quiet)
    (past : ∀ t ∈ batch, ∃ r, t.result? = some r) : ∃ u y, Step s x u y := by
  obtain ⟨outcomes, all⟩ := exists_outcomes past
  have well : outcomes.findSome? Act.failure? = none := by
    apply fan.no_failure _ all
    intro t mem
    apply attained t
    rw [Stage.turns, at_]
    exact List.mem_append_left _ mem
  exact ⟨_, x, .loop quiet (.finish s.stage batch outcomes at_ all well)⟩

/-- The pool of a batch of several agents has room for a thread. -/
theorem limit_pos {e : Ensemble Nat σ} (fan : FanOut e) {size : Nat} (some : 0 < size) : 0 < e.limit size := by
  unfold limit
  cases workers : e.workers with
  | none => exact some
  | some n =>
    have enough := fan.workers workers
    by_cases zero : n = 0
    · simpa [zero] using some
    · simp only [zero, if_false]
      omega

/-- If nobody in the pool is at a turn, somebody takes up the next one, or the loop goes on. -/
theorem goes_of_free {e : Ensemble Nat σ} {s : e.Site} (fan : FanOut e) (attained : s.stage.Attained) (bound : Bound s)
    (x : σ) {batch : List e.Turn} (at_ : s.stage.loop = .running batch) (nonempty : batch ≠ [])
    (several : batch.length ≠ 1) (free : ∀ h ∈ s.hands, h.job = none) : ∃ u y, Step s x u y := by
  have within := bound.within batch at_
  by_cases left : s.begun < batch.length
  · have there := List.getElem?_eq_getElem left
    cases hands : s.hands with
    | nil =>
      refine ⟨_, x, .hire at_ several ?_⟩
      rw [hands]
      exact limit_pos fan (List.length_pos_iff.mpr nonempty)
    | cons h rest =>
      have first : s.hands[0]? = some h := by
        rw [hands]
        rfl
      exact ⟨_, x, .takeUp 0 at_ several first (free h (List.mem_of_getElem? first)) there⟩
  · have all : s.begun = batch.length := by omega
    apply goes_of_results fan attained x at_
    · intro batch' running _
      obtain rfl := Loop.running.inj (at_.symm.trans running)
      exact ⟨all, free⟩
    · intro t mem
      obtain ⟨j, there⟩ := List.mem_iff_getElem?.mp mem
      have early : j < s.begun := by
        rw [all]
        exact (List.getElem?_eq_some_iff.mp there).1
      rcases bound.staffed batch j t at_ several early there with ⟨h, among, outer, job⟩ | past
      · cases (free h among).symm.trans job
      · exact past

/-- While a batch runs, somebody can take a step. -/
theorem goes_of_running {e : Ensemble Nat σ} {s : e.Site} (fan : FanOut e) (reach : Reachable s.stage)
    (bound : Bound s) (x : σ) {batch : List e.Turn} (at_ : s.stage.loop = .running batch) :
    ∃ u y, Step s x u y := by
  have attained := reach.attained
  have tally := reach.counted.tally
  rw [at_] at tally
  obtain ⟨nonempty, -⟩ := tally
  by_cases one : batch.length = 1
  · obtain ⟨t, rfl⟩ := List.length_eq_one_iff.mp one
    rcases goes_of_hosts fan attained x at_ rfl (.loop at_) with goes | past
    · exact goes
    · apply goes_of_results fan attained x at_
      · intro batch running several
        obtain rfl := Loop.running.inj (at_.symm.trans running)
        exact absurd one several
      · intro u mem
        rwa [List.mem_singleton.mp mem]
  · by_cases working : ∃ h ∈ s.hands, ∃ j outer, h.job = some (j, outer)
    · obtain ⟨h, mem, j, outer, job⟩ := working
      obtain ⟨-, batch', t, at_', there, -⟩ := bound.busy h mem j outer job
      obtain rfl : batch = batch' := Loop.running.inj (at_.symm.trans at_')
      rcases goes_of_hosts fan attained x at_ there (.hand at_ one mem job there) with goes | ⟨r, past⟩
      · exact goes
      · obtain ⟨i, hand⟩ := List.mem_iff_getElem?.mp mem
        exact ⟨_, x, .putDown i at_ hand job there past⟩
    · apply goes_of_free fan attained bound x at_ nonempty one
      intro h mem
      cases job : h.job with
      | none => rfl
      | some p => exact absurd ⟨h, mem, p.1, p.2, job⟩ working

/-- Unless the loop and the workflow have come to their ends, somebody can take a step. -/
theorem Reaches.goesOn {e : Ensemble Nat σ} {s : e.Site} {x₀ x : σ} (fan : FanOut e)
    (reaches : Reaches e run x₀ s x) : s.stage.Over ∨ ∃ t y, Step s x t y := by
  have reach := reaches.on_stage
  by_cases running : ∃ batch, s.stage.loop = .running batch
  · obtain ⟨batch, at_⟩ := running
    exact .inr (goes_of_running fan reach reaches.bound x at_)
  · have idle : s.stage.loop.turns = [] := by
      cases loop : s.stage.loop with
      | running batch => exact absurd ⟨batch, loop⟩ running
      | _ => rfl
    have quiet : s.Quiet := fun batch at_ => absurd ⟨batch, at_⟩ running
    refine (reach.goes fan x idle).imp_right ?_
    intro goes
    cases goes with
    | loop step => exact ⟨_, x, .loop quiet step⟩
    | flow step => exact ⟨_, x, .flow step⟩
    | errand i there step => exact ⟨_, x, .errand i there step⟩

end Site
end Ensemble
end Rendezvous
