import Rendezvous.Proofs.FanOut.Threads
import Rendezvous.Proofs.FanOut.Footprint
import Rendezvous.Proofs.Naming

/-!
# What a fan-out delivers

Leaves that never fail run side by side, in batches as the schedule has it, each batch on the thread of the loop or
on the threads of a pool.  Whatever the schedule, that comes to an end, each agent is run once and in its own run,
nothing is reported before it is done, and nothing is lost (`Leaf.fanOut_delivers`).  If the agents keep out of each
other's way, the shared state ends up, key by key, as if they had run in order.

The limit of the pool must not be negative.  Otherwise there is no pool, and the agents of a batch of several are
never run (`Leaf.not_forall_limits`).
-/

namespace Rendezvous

set_option autoImplicit false

/-! ## Leaves come to an end -/

namespace Work

theorem finite (w : Work) : w.behaviour.Finite := by
  constructor
  intro q
  show Acc w.behaviour.Onward (q : Work)
  induction (q : Work) with
  | done r =>
    constructor
    rintro q' ⟨x, y, moves⟩
    cases moves
  | step write next ih =>
    constructor
    rintro q' ⟨x, y, moves⟩
    cases moves
    exact ih x

end Work

/-- Storing the answer takes no more than two steps. -/
theorem Behaviour.Finite.closing {B : Behaviour Scope} (finite : B.Finite) (p : Profile)
    (answer : Value → Scope → Value) : (B.closing p answer).Finite := by
  have finished (r : Result Value) (q : B.State) : Acc (B.closing p answer).Onward (.finished q r) := by
    induction q using finite.induction with
    | _ q ih =>
      constructor
      rintro q' ⟨x, y, moves⟩
      cases moves with
      | lingerFinished step => exact ih _ ⟨x, y, step⟩
  have storing (v : Value) (q : B.State) : Acc (B.closing p answer).Onward (.storing q v) := by
    induction q using finite.induction with
    | _ q ih =>
      constructor
      rintro q' ⟨x, y, moves⟩
      cases moves with
      | store => exact finished (.ok v) q
      | lingerStoring step => exact ih _ ⟨x, y, step⟩
  have inside (q : B.State) : Acc (B.closing p answer).Onward (.inside q) := by
    induction q using finite.induction with
    | _ q ih =>
      constructor
      rintro q' ⟨x, y, moves⟩
      cases moves with
      | inside step => exact ih _ ⟨x, y, step⟩
      | answer result => exact storing _ q
      | raise result => exact finished _ q
  constructor
  rintro (q | ⟨q, v⟩ | ⟨q, r⟩)
  · exact inside q
  · exact storing v q
  · exact finished r q

namespace Leaf

/-- What an agent has still to do does not fail. -/
def Sure : Closing Work → Prop
  | .inside w => w.Succeeds
  | .storing _ _ => True
  | .finished _ r => ∃ v, r = .ok v

theorem sure_of_attains {l : Leaf} (succeeds : l.work.Succeeds) {q : l.behaviour.State}
    (attains : l.behaviour.Attains q) : Sure q := by
  induction attains with
  | start => exact succeeds
  | step _ step ih =>
    cases step with
    | inside step =>
      cases step with
      | step write next => exact ih _
    | answer result => trivial
    | raise result =>
      rename_i w x f
      cases w with
      | done r =>
        obtain ⟨v, rfl⟩ := ih
        cases result
      | step write next => cases result
    | store => exact ⟨_, rfl⟩
    | lingerStoring step => trivial
    | lingerFinished step => exact ih

/-- A leaf that never fails comes to an end under every schedule. -/
theorem able {l : Leaf} (succeeds : l.work.Succeeds) : l.behaviour.Able where
  goesOn := by
    intro q x _ none
    rcases q with w | ⟨w, v⟩ | ⟨w, r⟩
    · cases w with
      | done r =>
        cases r with
        | ok v => exact ⟨_, _, .answer rfl⟩
        | error f => exact ⟨_, _, .raise rfl⟩
      | step write next => exact ⟨_, _, .inside (.step write next x)⟩
    · exact ⟨_, _, .store⟩
    · cases none
  succeeds := by
    intro q r attains result
    have sure := sure_of_attains succeeds attains
    rcases q with w | ⟨w, v⟩ | ⟨w, r'⟩
    · cases result
    · cases result
    · obtain rfl : r' = r := Option.some.inj result
      exact sure
  stays := by
    intro q q' x y r result step
    cases step with
    | lingerFinished step => exact result
    | _ => cases result
  finite := (Work.finite l.work).closing l.profile fun v _ => v

end Leaf

/-! ## The threads weave the agents into each other -/

namespace Ensemble

variable {σ : Type} {e : Ensemble Nat σ} {s t : e.Stage} {x₀ x y : σ}

/-- The turns so far are the steps of the agents, woven into each other in some way. -/
def Stage.Weaves (s : e.Stage) (x₀ x : σ) : Prop :=
  ∃ q, Woven e.agents.length e.behaviour x₀ q x ∧ (∀ u ∈ s.turns, u.state = q u.submission.agent) ∧
    ∀ i, (∀ u ∈ s.turns, u.submission.agent ≠ i) → q i = (e.behaviour i).start

/-- Two turns of the same agent are the same turn. -/
theorem Reachable.turn_unique (fan : FanOut e) (reach : Reachable s) {u v : e.Turn} (mem : u ∈ s.turns)
    (mem' : v ∈ s.turns) (same : u.submission.agent = v.submission.agent) : u = v :=
  List.inj_on_of_nodup_map (reach.nodup_turns fan) mem mem' same

theorem Step.weaves (fan : FanOut e) (step : Step s x t y) (reach : Reachable s) (weaves : s.Weaves x₀ x) :
    t.Weaves x₀ y := by
  have reach' := reach.step step
  obtain ⟨q, woven, states, others⟩ := weaves
  rcases step.turns_frame with ⟨known, kept, rfl⟩ | ⟨k, u, s', there, moves, turns⟩
  · refine ⟨q, woven, ?_, ?_⟩
    · intro u mem
      rcases known u mem with old | ⟨sub, rfl⟩
      · exact states u old
      · by_cases begun : ∃ v ∈ s.turns, v.submission.agent = sub.agent
        · obtain ⟨v, old, same⟩ := begun
          have equal := reach'.turn_unique fan (kept v old) mem same
          rw [← equal]
          exact states v old
        · refine (others sub.agent ?_).symm
          intro v old same
          exact begun ⟨v, old, same⟩
    · intro i nobody
      apply others
      intro u old
      exact nobody u (kept u old)
  · have mem := List.mem_of_getElem? there
    have within := (reach.of_submitted fan (reach.submitted_of_turn fan mem)).1
    have here : (⟨u.submission, s'⟩ : e.Turn) ∈ t.turns := by
      rw [turns]
      exact List.mem_set (List.getElem?_eq_some_iff.mp there).1 _
    rw [states u mem] at moves
    refine ⟨Function.update q u.submission.agent s', woven.step within moves, ?_, ?_⟩
    · intro v mem'
      by_cases same : v.submission.agent = u.submission.agent
      · obtain rfl := reach'.turn_unique fan mem' here same
        show s' = Function.update q u.submission.agent s' u.submission.agent
        rw [Function.update_self]
      · rw [Function.update_of_ne same]
        rw [turns] at mem'
        rcases List.mem_or_eq_of_mem_set mem' with old | rfl
        · exact states v old
        · exact absurd rfl same
    · intro i nobody
      have other : i ≠ u.submission.agent := by
        rintro rfl
        exact nobody _ here rfl
      rw [Function.update_of_ne other]
      apply others
      intro v old same
      by_cases this : v = u
      · subst this
        exact other same.symm
      · apply nobody v _ same
        rw [turns]
        exact mem_set_of_ne old there this

theorem Site.Reaches.weaves {run : Option String} {s : e.Site} (fan : FanOut e) (reaches : Site.Reaches e run x₀ s x) :
    s.stage.Weaves x₀ x := by
  induction reaches with
  | opening => exact ⟨_, .start, nofun, fun _ _ => rfl⟩
  | step reaches step ih =>
    rcases step.on_stage with taken | ⟨same, rfl, -⟩
    · exact taken.weaves fan reaches.on_stage ih
    · rw [same]
      exact ih

/-- When the loop has ended, each agent has a turn that is over. -/
theorem Reachable.turn_of_ended (fan : FanOut e) (reach : Reachable s) {r : Result Unit} (ended : s.loop = .ended r)
    {i : Nat} (within : i < e.agents.length) :
    ∃ u ∈ s.turns, u.submission.agent = i ∧ ∃ r, u.result? = some r := by
  obtain ⟨-, -, all, -⟩ := reach.each_once fan ended
  obtain ⟨p, among, rfl⟩ := List.mem_map.mp (all.mem_iff.mpr (List.mem_range.mpr within))
  have noted : p.1 ∈ s.retired.map (·.submission) := by
    rw [(reach.census fan).retired]
    exact List.mem_map_of_mem among
  obtain ⟨u, retired, same⟩ := List.mem_map.mp noted
  exact ⟨u, List.mem_append_right _ retired, congrArg Submission.agent same, reach.over_of_retired fan u retired⟩

namespace Site

/-- No schedule goes on for good. -/
theorem Reaches.ends {run : Option String} {s : e.Site} (fan : FanOut e) (reaches : Reaches e run x₀ s x) :
    Acc (fun after before : e.Site => ∃ x y, Step before x after y) s := by
  have reach := reaches.on_stage
  clear reaches
  induction s using (wellFounded_step fun i => (fan.able i).finite).induction with
  | _ s ih =>
    constructor
    rintro t ⟨x, y, step⟩
    apply ih t ⟨reach, x, y, step⟩
    rcases step.on_stage with taken | ⟨same, -⟩
    · exact reach.step taken
    · rwa [same]

/-- Every schedule can be brought to its end. -/
theorem Reaches.exists_over {run : Option String} {s : e.Site} (fan : FanOut e) (reaches : Reaches e run x₀ s x) :
    ∃ t y, Reaches e run x₀ t y ∧ t.stage.Over := by
  have ends := reaches.ends fan
  induction ends generalizing x with
  | intro s _ ih =>
    rcases reaches.goesOn fan with closed | ⟨t, y, step⟩
    · exact ⟨s, x, reaches, closed⟩
    · exact ih t ⟨x, y, step⟩ (reaches.step step)

/-- The loop could not let a batch run, and everybody else waits for it. -/
structure Abandoned (s : e.Site) : Prop where
  loop : s.stage.loop = .refused
  flow : ∃ missing next, s.stage.flow = .stepping (missing + 1) next
  errands : ∀ a ∈ s.stage.errands, ∃ step, a = .waiting step ∧ s.stage.slots[step.slot]? = some .pending
  hands : s.hands = []
  retired : s.stage.retired = []

theorem Abandoned.not_loopStep {s : e.Site} {t : e.Stage} (abandoned : Abandoned s) : ¬ LoopStep s.stage t := by
  intro step
  have refused := abandoned.loop
  cases step with
  | name id at_ | schedule start at_ _ _ | invalid f at_ _ | unscheduled f at_ _ | count left at_
  | call batch p at_ _ _ | refuse batch p at_ _ _ | stop p at_ _ | finish batch outcomes at_ _ _
  | giveUp batch outcomes f at_ _ _ | acknowledge left at_ | assign slot left at_ | failNext slot rest f at_
  | failed f at_ | leave r at_ => cases at_.symm.trans refused

theorem Abandoned.not_flowStep {s : e.Site} {t : e.Stage} (abandoned : Abandoned s) : ¬ FlowStep x s.stage t := by
  intro step
  obtain ⟨missing, next, stepping⟩ := abandoned.flow
  cases step with
  | report i missing' o r next' at_ finished | fail i missing' o f next' at_ finished =>
    obtain ⟨step, waits, -⟩ := abandoned.errands _ (List.mem_of_getElem? finished)
    cases waits
  | iteration n next' at_ | skip i next' at_ | order o next' at_ | orderAll os next' at_ | resume next' at_
  | askExit o next' at_ | askCondition o next' at_ | find q next' at_ _ | miss q next' known at_ _
  | evaluate q next' at_ | branch q b next' at_ | refuse q f next' at_ | finish at_ | findLoop v at_ _
  | missLoop v at_ _ | release v at_ | close v at_ => cases at_.symm.trans stepping

/-- Nobody will ever do anything again. -/
theorem Abandoned.stuck {s t : e.Site} (abandoned : Abandoned s) : ¬ Step s x t y := by
  intro step
  cases step with
  | loop quiet step => exact abandoned.not_loopStep step
  | flow step => exact abandoned.not_flowStep step
  | errand i there moves =>
    obtain ⟨step, rfl, pending⟩ := abandoned.errands _ (List.mem_of_getElem? there)
    cases moves with
    | wake _ turn assigned => cases pending.symm.trans assigned
  | hire at_ several room => cases at_.symm.trans abandoned.loop
  | takeUp i at_ several hand free there => cases at_.symm.trans abandoned.loop
  | perform j at_ there hosts moves => cases at_.symm.trans abandoned.loop
  | putDown i at_ hand job there past => cases at_.symm.trans abandoned.loop
  | linger i there moves =>
    rw [abandoned.retired] at there
    cases there

end Site
end Ensemble

/-- The runs of different agents are different. -/
theorem stepRunId_inj {id : String} {i j : Nat} : stepRunId id i 0 = stepRunId id j 0 ↔ i = j := by
  constructor
  · intro same
    exact (stepRunId_injective (n := 0) (m := 0) same).1
  · rintro rfl
    rfl

namespace Leaf

open Ensemble

/-- An agent that does nothing. -/
def nobody : Leaf := ⟨{ name := "" }, .nothing⟩

/-- Leaves side by side, known by their positions, on an engine that does not fail. -/
def fanOut (leaves : List Leaf) (workers : Option Int) : Ensemble Nat Scope where
  plan := { id := "", topology := .parallel }
  agents := List.range leaves.length
  profile i := (leaves.getD i nobody).profile
  behaviour i := (leaves.getD i nobody).behaviour
  workers
  scopeOf := id
  engine r := r = .ok ()

variable {leaves : List Leaf} {workers : Option Int}

theorem succeeds_getD (succeeds : ∀ l ∈ leaves, l.work.Succeeds) (i : Nat) :
    (leaves.getD i nobody).work.Succeeds := by
  rw [List.getD_eq_getElem?_getD]
  cases there : leaves[i]? with
  | none => exact ⟨.null, rfl⟩
  | some l => exact succeeds l (List.mem_of_getElem? there)

theorem fanOut_fans (succeeds : ∀ l ∈ leaves, l.work.Succeeds) (limit : ∀ n, workers = some n → 0 ≤ n) :
    FanOut (fanOut leaves workers) where
  plan := rfl
  agents := by
    show List.range leaves.length = List.range (List.range leaves.length).length
    rw [List.length_range]
  engine := Iff.rfl
  workers := limit _
  able i := able (succeeds_getD succeeds i)

/-- The leaves, by their positions. -/
theorem map_range_getD (leaves : List Leaf) :
    ((List.range leaves.length).map fun i => (leaves.getD i nobody).reference) = leaves.map Leaf.reference := by
  apply List.ext_getElem
  · rw [List.length_map, List.length_range, List.length_map]
  · intro i within _
    rw [List.length_map, List.length_range] at within
    rw [List.getElem_map, List.getElem_map, List.getElem_range, ← List.getElem_eq_getD]

/-- What holds of a fan-out at any time. -/
structure Delivers (leaves : List Leaf) (workers : Option Int) (x₀ : Scope) (s : (fanOut leaves workers).Site)
    (x : Scope) : Prop where
  /-- No schedule goes on for good. -/
  ends : Acc (fun after before : (fanOut leaves workers).Site => ∃ x y, Site.Step before x after y) s
  /-- Somebody can take a step until the loop and the workflow have come to their ends. -/
  goesOn : s.stage.Over ∨ ∃ t y, Site.Step s x t y
  /-- Nobody has two turns. -/
  once : (s.stage.turns.map fun u => u.submission.agent).Nodup
  /-- Whoever is at a turn is bound to the run of that agent, and to that of no other one. -/
  bound : ∀ {own : Option String} {j : Nat} {u : (fanOut leaves workers).Turn}, s.Hosts own j u →
    ∀ i : Nat, own = some (stepRunId s.stage.planner.plan.id i 0) ↔ i = u.submission.agent
  /-- A step is told of success only when the turn of its agent has ended well. -/
  assigned : ∀ {k : Nat}, s.stage.slots[k]? = some (.assigned (.ok ())) → s.stage.Done k
  /-- The loop ends when it has found the notice of the workflow and every agent has had its turn. -/
  ended : ∀ {r : Result Unit}, s.stage.loop = .ended r → r = .ok () ∧ .complete ∈ s.stage.dropped ∧
    (s.stage.taken.map (·.1.agent)).Perm (List.range leaves.length) ∧ ∀ p ∈ s.stage.taken, ∃ v, p.2 = .ok v
  /-- The workflow does not fail, and has one report for each agent. -/
  finished : ∀ {v : Option Failure}, s.stage.flow = .finished v → v = none ∧ s.stage.progress.steps.Perm
    ((List.range leaves.length).map fun i : Nat =>
      { agentIndex := i, agentName := (leaves.getD i nobody).profile.name,
        runId := stepRunId s.stage.planner.plan.id i 0 })
  /-- Agents that keep out of each other's way leave what they leave in order. -/
  inOrder : ∀ {f : Nat → Footprint}, Apart leaves.length (fun i => leaves.getD i nobody) f →
    ∀ {r : Result Unit}, s.stage.loop = .ended r → ∀ {z : Scope},
      (Shape.inOrder (leaves.map Leaf.reference) x₀).1 = z → x.metadata = z.metadata ∧ ∀ key, x.at? key = z.at? key

/-- A fan-out of leaves that never fail, under every schedule: it comes to its end, each agent is run once and in its
own run, no step is told of success before that, nothing is lost, and agents that keep out of each other's way leave
what they leave in order. -/
theorem fanOut_delivers (succeeds : ∀ l ∈ leaves, l.work.Succeeds) (limit : ∀ n, workers = some n → 0 ≤ n)
    {run : Option String} {x₀ x : Scope} {s : (fanOut leaves workers).Site}
    (reaches : Site.Reaches (fanOut leaves workers) run x₀ s x) : Delivers leaves workers x₀ s x := by
  have fan := fanOut_fans succeeds limit
  have reach := reaches.on_stage
  have size : (fanOut leaves workers).agents.length = leaves.length := List.length_range
  refine ⟨reaches.ends fan, reaches.goesOn fan, reach.nodup_turns fan, ?_, reach.recorded.assigned, ?_, ?_, ?_⟩
  · intro own j u hosts i
    have mem : u ∈ s.stage.turns := hosts.mem
    obtain ⟨-, named⟩ := reach.of_submitted fan (reach.submitted_of_turn fan mem)
    rw [reaches.bound.hosts hosts named, Option.some.injEq, stepRunId_inj, eq_comm]
  · intro r ended
    rw [← size]
    exact reach.each_once fan ended
  · intro v finished
    rw [← size]
    exact reach.each_reported fan finished
  · intro f apart r ended z ran
    obtain ⟨q, woven, states, -⟩ := reaches.weaves fan
    rw [size] at woven
    refine woven.agrees apart (fun i _ => succeeds_getD succeeds i) ?_ ?_
    · intro i within
      rw [← size] at within
      obtain ⟨u, mem, rfl, r, past⟩ := reach.turn_of_ended fan ended within
      refine ⟨r, ?_⟩
      rw [← states u mem]
      exact past
    · rw [map_range_getD]
      exact ran

/-- Two leaves that leave their results under keys of their own. -/
def pair : List Leaf :=
  [⟨{ name := "first", outputKey := some "left" }, .done (.ok (.int 1))⟩,
    ⟨{ name := "second", outputKey := some "right" }, .done (.ok (.int 2))⟩]

theorem pair_succeeds : ∀ l ∈ pair, l.work.Succeeds := by
  intro l mem
  rcases List.mem_pair.mp mem with rfl | rfl
  · exact ⟨.int 1, rfl⟩
  · exact ⟨.int 2, rfl⟩

/-- The first leaf keeps to the one key, all others to the other one. -/
def sides (i : Nat) : Footprint where
  reads _ := False
  writes key := key = if i = 0 then "left" else "right"

theorem pair_apart : Apart pair.length (fun i => pair.getD i nobody) sides where
  keeps := by
    rintro (_ | _ | i) within
    · exact ⟨trivial, fun key output => (Option.some.inj output).symm⟩
    · exact ⟨trivial, fun key output => (Option.some.inj output).symm⟩
    · exact absurd (Nat.lt_of_succ_lt_succ (Nat.lt_of_succ_lt_succ within)) (Nat.not_lt_zero i)
  spares := by
    intro i within j within' ne key mine
    refine ⟨id, ?_⟩
    intro other
    have two : i < 2 ∧ j < 2 := ⟨within, within'⟩
    rcases (by omega : i = 0 ∧ j = 1 ∨ i = 1 ∧ j = 0) with ⟨rfl, rfl⟩ | ⟨rfl, rfl⟩
    · exact absurd (mine.symm.trans other) (by decide)
    · exact absurd (mine.symm.trans other) (by decide)

/-- With one thread for the both of them, each is run, and their results are there in the end. -/
theorem pair_delivered : ∃ s x, Site.Reaches (fanOut pair (some 1)) none {} s x ∧ s.stage.Over ∧
    (s.stage.taken.map (·.1.agent)).Perm [0, 1] ∧ x.at? "left" = some (.int 1) ∧ x.at? "right" = some (.int 2) := by
  have limit : ∀ n, some (1 : Int) = some n → 0 ≤ n := by
    rintro n ⟨⟩
    decide
  obtain ⟨s, x, reaches, closed⟩ := Site.Reaches.exists_over (fanOut_fans pair_succeeds limit)
    (@Site.Reaches.opening _ _ (fanOut pair (some 1)) none {})
  have delivers := fanOut_delivers pair_succeeds limit reaches
  obtain ⟨r, ended⟩ := closed.loop
  obtain ⟨-, same⟩ := delivers.inOrder pair_apart ended rfl
  exact ⟨s, x, reaches, closed, (delivers.ended ended).2.2.1, same "left", same "right"⟩

/-- A pool cannot have a negative number of threads. -/
theorem exists_abandoned : ∃ s x, Site.Reaches (fanOut [nobody, nobody] (some (-1))) none {} s x ∧ s.Abandoned := by
  have s₀ : Site.Reaches (fanOut [nobody, nobody] (some (-1))) none {} _ _ := .opening
  have s₁ := s₀.step (.loop nofun (.name _ "p" rfl))
  have s₂ := s₁.step (.loop nofun (.schedule _ _ rfl rfl rfl))
  have s₃ := s₂.step (.loop nofun (.count _ 0 rfl))
  have s₄ := s₃.step (.flow (.orderAll _ _ _ rfl))
  have s₅ := s₄.step (.errand 0 rfl (.find _ _ 0 rfl rfl))
  have s₆ := s₅.step (.errand 0 rfl (.begin _ _ _ rfl))
  have s₇ := s₆.step (.errand 0 rfl (.submit _ _ _))
  have s₈ := s₇.step (.errand 1 rfl (.find _ _ 1 rfl rfl))
  have s₉ := s₈.step (.errand 1 rfl (.begin _ _ _ rfl))
  have s₁₀ := s₉.step (.errand 1 rfl (.submit _ _ _))
  have s₁₁ := s₁₀.step (.loop nofun (.refuse _ _ _ rfl rfl ⟨by decide, rfl⟩))
  have waits {errands : List (Errand Nat)} {slots : List (Slot Unit)} {p q : OpenStep}
      (both : errands = [.waiting p, .waiting q]) (first : slots[p.slot]? = some .pending)
      (second : slots[q.slot]? = some .pending) :
      ∀ a ∈ errands, ∃ step, a = .waiting step ∧ slots[step.slot]? = some .pending := by
    subst both
    intro a mem
    rcases List.mem_pair.mp mem with rfl | rfl
    · exact ⟨p, rfl, first⟩
    · exact ⟨q, rfl, second⟩
  exact ⟨_, _, s₁₁, rfl, ⟨1, _, rfl⟩, waits rfl rfl rfl, rfl, rfl⟩

/-- Not every limit will do. -/
theorem not_forall_limits : ¬ ∀ (leaves : List Leaf) (workers : Option Int) (run : Option String) (x₀ x : Scope)
    (s : (fanOut leaves workers).Site), (∀ l ∈ leaves, l.work.Succeeds) →
      Site.Reaches (fanOut leaves workers) run x₀ s x → Delivers leaves workers x₀ s x := by
  intro all
  obtain ⟨s, x, reaches, abandoned⟩ := exists_abandoned
  have succeeds : ∀ l ∈ [nobody, nobody], l.work.Succeeds := by
    intro l mem
    rcases List.mem_pair.mp mem with rfl | rfl <;> exact ⟨.null, rfl⟩
  rcases (all _ _ _ _ _ s succeeds reaches).goesOn with closed | ⟨t, y, step⟩
  · obtain ⟨r, ended⟩ := closed.loop
    cases ended.symm.trans abandoned.loop
  · exact abandoned.stuck step

end Leaf
end Rendezvous
