import Rendezvous.Proofs.Abandonment.Aftermath

/-!
# The loop gives up

Whatever has run before a batch, whoever else submits agents, and however many turns of the batch have failed: the loop
waits for all of them, ends with the failure that comes first in the batch, and leaves nobody waiting who was in the
batch or in the queue (`Site.Opened.concludes`).  What has been acknowledged before stays a success.
-/

namespace Rendezvous

set_option autoImplicit false

open Relation

namespace Ensemble

variable {β σ : Type} {e : Ensemble β σ}

namespace Site

variable {s t u v : e.Site} {x y z : σ} {batch : List e.Turn} {f : Failure} {ns : List (Notice β)}

/-- What has become of everything when the loop has ended. -/
structure GivenUp (s : e.Site) (batch : List e.Turn) (f : Failure) (ns : List (Notice β)) (u : e.Site)
    (r : Result Unit) : Prop where
  raised : r = .error f
  /-- Also the turns that have ended well have failed for those who wait for them. -/
  batch : ∀ w ∈ batch, u.stage.slots[w.submission.slot]? = some (.assigned (.error f))
  queued : ∀ sub ∈ Planner.turnsOf s.stage.planner.queue, u.stage.slots[sub.slot]? = some (.assigned (.error f))
  earlier : ∀ w ∈ s.stage.retired, u.stage.slots[w.submission.slot]? = some (.assigned (.ok ()))
  unregistered : u.stage.live = false
  current : u.stage.planner.current = none
  pending : u.stage.planner.pending = []
  outstanding : u.stage.planner.outstanding = 0
  /-- Nothing is in the queue but what others have put there since. -/
  queue : u.stage.planner.queue = ns
  unbound : u.run = none

/-- What is so after the batch has come to its end: the loop ends by itself, and nobody from the queue has a turn. -/
structure Abandoning (s : e.Site) (batch : List e.Turn) (f : Failure) (ns : List (Notice β)) (u : e.Site) : Prop where
  ends : ∃ v, ReflTransGen LoopMove u v ∧ v.stage.loop = .ended (.error f)
  never : ∀ sub ∈ Planner.turnsOf s.stage.planner.queue, ∀ w ∈ u.stage.turns, w.submission.slot ≠ sub.slot
  givenUp : ∀ r, u.stage.loop = .ended r → GivenUp s batch f ns u r

/-- How the loop deals with a batch that runs. -/
structure Concludes (s : e.Site) (x : σ) (batch : List e.Turn) : Prop where
  /-- It waits for all turns of the batch, also if some of them have failed already. -/
  patient : ∀ t y, Open s x t y → t.stage.loop.isRunning = false → (∀ w ∈ batch, ∃ r, w.result? = some r) ∧ s.Quiet
  /-- It need not wait for anything else. -/
  prompt : (∀ w ∈ batch, ∃ r, w.result? = some r) → s.Quiet → ∃ t, LoopMove s t ∧ t.stage.loop.isRunning = false
  /-- If some of them have failed in the end, one of these comes first, and the loop gives up with its failure. -/
  blames : (∀ w ∈ batch, ∃ r, w.result? = some r) → (∃ w ∈ batch, ∃ f, w.result? = some (.error f)) →
    ∃ f, FirstFailure batch f
  gives_up : ∀ f, FirstFailure batch f → ∀ t y, Open s x t y → t.stage.loop.isRunning = false →
    ∀ ns u z, Since t y ns u z → Abandoning s batch f ns u

/-- Whose slot is still to fail when the loop gives up: the batch, and whoever is in the queue. -/
theorem Steady.openSlots (steady : Steady s) (running : s.stage.loop = .running batch) :
    s.stage.planner.openSlots =
      batch.map (·.submission.slot) ++ (Planner.turnsOf s.stage.planner.queue).map (·.slot) := by
  have tally := steady.counted.tally
  rw [running] at tally
  rw [Planner.openSlots_eq, tally.2.1, Planner.slotsOf_eq_map]

/-- Nobody in the queue has had a turn. -/
theorem Steady.apart (steady : Steady s) (running : s.stage.loop = .running batch) {sub : Submission β}
    (queued : sub ∈ Planner.turnsOf s.stage.planner.queue) {w : e.Turn} (mem : w ∈ s.stage.retired ++ batch) :
    w.submission.slot ≠ sub.slot := by
  have waits : sub.slot ∈ (Planner.turnsOf s.stage.planner.queue).map (·.slot) := List.mem_map_of_mem queued
  intro same
  rcases List.mem_append.mp mem with past | now
  · have held : sub.slot ∈ s.stage.held := by
      rw [Stage.held, steady.openSlots running]
      exact List.mem_append_left _ (List.mem_append_left _ (List.mem_append_right _ waits))
    have assigned := steady.acknowledged.assigned (by rw [running]; rfl) (by rw [running]; rfl) w past
    rw [same, (steady.ledger.pending _).mpr held] at assigned
    cases assigned
  · have once := steady.ledger.once
    rw [Stage.held, steady.openSlots running, List.append_assoc] at once
    have disjoint := List.disjoint_of_nodup_append (List.nodup_append.mp once).1
    exact disjoint (List.mem_map_of_mem now) (same ▸ waits)

theorem Aftermath.givenUp (after : Aftermath s batch f ns u) (steady : Steady s) (steady' : Steady u)
    (running : s.stage.loop = .running batch) {r : Result Unit} (ended : u.stage.loop = .ended r) :
    GivenUp s batch f ns u r := by
  have loop := after.loop
  have failed {k : Nat} (mem : k ∈ s.stage.planner.openSlots) : u.stage.slots[k]? = some (.assigned (.error f)) := by
    refine (after.slots k mem).resolve_right ?_
    rw [ended]
    exact List.not_mem_nil
  rw [steady.openSlots running] at failed
  rw [ended] at loop
  exact {
    raised := loop
    batch := fun w mem => failed (List.mem_append_left _ (List.mem_map_of_mem mem))
    queued := fun sub mem => failed (List.mem_append_right _ (List.mem_map_of_mem mem))
    earlier := after.earlier
    unregistered := after.left r ended
    current := after.current
    pending := after.pending
    outstanding := after.outstanding
    queue := after.queue
    unbound := steady'.bound.ended r ended }

variable {x₀ : σ} {run : Option String}

/-- A batch comes to its end by a step of the loop, when all of it is over. -/
theorem LoopMove.past (move : LoopMove s t) (running : s.stage.loop = .running batch) :
    (∀ w ∈ batch, ∃ r, w.result? = some r) ∧ s.Quiet := by
  cases move with
  | mk quiet step =>
    cases step with
    | giveUp batch' outcomes g at_ all _ | finish batch' outcomes at_ all _ =>
      obtain rfl : batch = batch' := Loop.running.inj (running.symm.trans at_)
      exact ⟨fun w mem => result_of_outcomes all mem, quiet⟩
    | name id at_ | schedule start at_ _ _ | invalid g at_ _ | unscheduled g at_ _ | count left at_
    | call batch' p at_ _ _ | refuse batch' p at_ _ _ | stop p at_ _ | acknowledge left at_ | assign slot left at_
    | failNext slot rest g at_ | failed g at_ | leave r at_ => cases running.symm.trans at_

/-- However a batch has come about, the loop waits for all of it, and gives up with the failure that comes first. -/
theorem Opened.concludes (opened : Opened e run x₀ s x) (running : s.stage.loop = .running batch) :
    Concludes s x batch := by
  have steady := opened.steady
  have runs : s.stage.loop.isRunning = true := by rw [running]; rfl
  refine ⟨fun t y step stopped => (step.loopMove runs stopped).past running, fun past quiet => ?_,
    fun past failed => exists_firstFailure past failed, fun f fails t y step stopped ns u z since => ?_⟩
  · obtain ⟨outcomes, all⟩ := exists_outcomes past
    cases first : outcomes.findSome? Act.failure? with
    | none => exact ⟨_, .mk quiet (.finish s.stage batch outcomes running all first), rfl⟩
    | some f => exact ⟨_, .mk quiet (.giveUp s.stage batch outcomes f running all first), rfl⟩
  · have first := (step.loopMove runs stopped).aftermath steady running fails
    obtain ⟨steady', after⟩ := since.after (step.steady steady) first
    refine ⟨after.ends steady', fun sub queued w mem => ?_, fun r ended => after.givenUp steady steady' running ended⟩
    rw [Stage.turns, Loop.turns_of_gaveUp after.loop, List.nil_append] at mem
    have among : w.submission ∈ (s.stage.retired ++ batch).map (·.submission) :=
      after.turns ▸ List.mem_map_of_mem mem
    obtain ⟨w', mem', same⟩ := List.mem_map.mp among
    exact same ▸ steady.apart running queued mem'

end Site

/-! ## One that fails beside one that does not -/

/-- The third agent fails, the others do nothing. -/
def mixed : Ensemble Nat Unit where
  plan := { id := "", topology := .parallel }
  agents := [0, 1, 2, 3]
  profile _ := { name := "" }
  behaviour agent := {
    State := Unit
    start := ()
    Step := fun _ _ _ _ => False
    result? := fun _ => some (if agent = 2 then .error (.of (.badValue "third")) else .ok .null) }
  scopeOf _ := {}
  engine _ := True

/-- A step of the loop while no batch runs. -/
theorem Site.Opened.loop {x₀ x : σ} {run : Option String} {s : e.Site} {t : e.Stage} (opened : Site.Opened e run x₀ s x)
    (step : LoopStep s.stage t) (idle : s.stage.loop.isRunning = false) :
    Site.Opened e run x₀ { stage := t, run := rebound s.run s.stage.loop t.loop } x :=
  opened.step (.thread (.loop (Site.quiet_of_idle idle) step))

/-- The first agent has had a batch of its own; the second and the third have the next one, and the fourth is in the
queue when the third turns out to have failed. -/
theorem Site.Opened.concludes_mixed : ∃ (s u : mixed.Site) (batch : List mixed.Turn),
    s.stage.loop = .running batch ∧ batch.map (·.submission.agent) = [1, 2] ∧
      s.stage.slots.map Slot.isDone = [true, false, false, false] ∧
      u.stage.loop = .ended (.error (.of (.badValue "third"))) ∧
      Site.GivenUp s batch (.of (.badValue "third")) [] u (.error (.of (.badValue "third"))) := by
  have s₀ : Site.Opened mixed none () _ () := .opening
  have s₁ := s₀.loop (.name _ "planner" rfl) rfl
  have s₂ := s₁.loop (.schedule _ ⟨"planner", .parallel, 4, unboundedIterations, false⟩ rfl
    (by rw [Planner.start_eq]; rfl) trivial) rfl
  -- the first batch
  have s₃ := s₂.step (.enrol _ () 0 none)
  have s₄ := s₃.loop (.count _ 0 rfl) rfl
  have s₅ := s₄.loop (.call _ _ _ rfl rfl (fun refuses => refuses.1 rfl)) rfl
  have s₆ := s₅.step (.thread (.loop (fun _ running several => absurd (by cases running; rfl) several)
    (.finish _ _ [.ok .null] rfl rfl rfl)))
  have s₇ := (s₆.loop (.acknowledge _ 0 rfl) rfl).loop (.assign _ _ 0 rfl) rfl
  -- the second batch
  have s₈ := (s₇.step (.enrol _ () 1 none)).step (.enrol _ () 2 none)
  have s₉ := s₈.loop (.count _ 0 rfl) rfl
  have t₀ := s₉.loop (.call _ _ _ rfl rfl (fun refuses => nomatch refuses.2)) rfl
  have t₁ := t₀.step (.thread (.hire rfl (by decide) (by decide)))
  have t₂ := t₁.step (.thread (.takeUp 0 rfl (by decide) rfl rfl rfl))
  have t₃ := t₂.step (.thread (.putDown 0 rfl rfl rfl rfl rfl))
  have t₄ := t₃.step (.thread (.takeUp 0 rfl (by decide) rfl rfl rfl))
  have t₅ := t₄.step (.thread (.putDown 0 rfl rfl rfl rfl rfl))
  have t₆ := t₅.step (.enrol _ () 3 none)
  -- the third agent has failed, and the fourth has been submitted
  have concludes := t₆.concludes rfl
  obtain ⟨t, move, stopped⟩ := concludes.prompt (fun w _ => ⟨_, rfl⟩) (by
    rintro batch running -
    cases running
    exact ⟨rfl, fun h mem => by cases List.mem_singleton.mp mem; rfl⟩)
  have after := concludes.gives_up (.of (.badValue "third")) ⟨1, _, rfl, rfl, fun j w earlier there => by
    obtain rfl : j = 0 := Nat.lt_one_iff.mp earlier
    cases there
    exact ⟨_, rfl⟩⟩ t () (move.open ()) stopped
  obtain ⟨u, moves, ended⟩ := (after [] t () .refl).ends
  exact ⟨_, u, _, rfl, rfl, rfl, ended, (after [] u () (.of_moves moves ())).givenUp _ ended⟩

end Ensemble
end Rendezvous
