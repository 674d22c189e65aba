import Rendezvous.Proofs.Sequential.Refinement
import Rendezvous.Proofs.Staffing.Rush

/-!
# How many threads a tree of agents holds

A composite is only let through if its own agents leave a thread of the worker free (`Composite.checkWidth`), but the
agents of its agents hold threads as well.  What a tree may hold at most is a recursive function of it
(`Crew.demand`): a parallel composite adds up what its agents hold and one thread for each of them, any other one
holds what the most demanding of its agents does, and one thread.

If the worker has more threads than that, one of them is always free, whatever the schedule; a tree of fan-outs can
fill a worker that has not (`Crew.spare_thread`).  That every composite of a tree is let through is not enough: a
parallel composite in a parallel one may hold all threads (`Crew.not_forall_spare`).
-/

namespace Rendezvous

set_option autoImplicit false

/-- Agents that do what they like, and composites of agents. -/
inductive Crew : Type 1 where
  | leaf (profile : Profile) (behaviour : Behaviour Scope)
  | composite (c : Composite) (agents : List Crew)

namespace Closing

/-- The work of an agent that closes it. -/
def inner {S : Type} : Closing S → S
  | .inside q | .storing q _ | .finished q _ => q

/-- The work has ended well. -/
def Answered {S : Type} : Closing S → Prop
  | .storing .. | .finished _ (.ok _) => True
  | _ => False

theorem answered_finished {S : Type} {q : S} {r : Result Value} :
    (finished q r).Answered ↔ ∃ v, r = .ok v := by
  cases r with
  | ok v => exact ⟨fun _ => ⟨v, rfl⟩, fun _ => trivial⟩
  | error f => exact ⟨False.elim, nofun⟩

end Closing

namespace Laden

/-- A behaviour that holds no threads. -/
def light (B : Behaviour Scope) : Laden := ⟨B, fun _ => 0⟩

/-- An agent that closes its work holds what its work holds. -/
def closing (p : Profile) (answer : Value → Scope → Value) (l : Laden) : Laden where
  behaviour := l.behaviour.closing p answer
  load q := l.load q.inner

/-- What sits at a position; where there is nothing, there is nothing to do. -/
def part (parts : List Laden) (i : Nat) : Laden := parts.getD i (light Work.nothing.behaviour)

/-- An orchestration of agents, known by their positions, on an engine that does not fail. -/
def ensemble (c : Composite) (profiles : List Profile) (parts : List Laden) : Ensemble Nat Scope where
  plan := c.plan
  agents := List.range parts.length
  profile i := profiles.getD i { name := "" }
  behaviour i := (part parts i).behaviour
  workers := c.workers
  scopeOf := id
  engine r := r = .ok ()

/-- An orchestration holds the threads of its steps, and those of its agents. -/
def orchestration (c : Composite) (profiles : List Profile) (parts : List Laden) : Laden where
  behaviour := (ensemble c profiles parts).orchestration
  load s := s.load fun i => (part parts i).load

end Laden

namespace Crew

/-- The profile of an agent. -/
def profile : Crew → Profile
  | leaf p _ => p
  | composite c _ => c.profile

mutual
/-- What an agent does, step by step, and how many threads it holds. -/
def laden : Crew → Laden
  | leaf _ B => .light B
  | composite c agents =>
    (Laden.orchestration c (agents.map profile) (ladens agents)).closing c.profile fun _ => Tree.answer c.profile

/-- What agents do, one by one. -/
def ladens : List Crew → List Laden
  | [] => []
  | t :: rest => t.laden :: ladens rest
end

/-- How many threads agents hold at most that take turns: each of them is waited for by a step. -/
def together (topology : Topology) (demands : List Nat) : Nat :=
  if topology = .parallel then (demands.map (· + 1)).sum else (demands.map (· + 1)).foldr max 0

mutual
/-- How many threads an agent holds at most. -/
def demand : Crew → Nat
  | leaf _ _ => 0
  | composite c agents => together c.plan.topology (demands agents)

/-- How many threads agents hold at most, one by one. -/
def demands : List Crew → List Nat
  | [] => []
  | t :: rest => t.demand :: demands rest
end

mutual
/-- All composites are let through. -/
def Accepted (limit : Int) : Crew → Prop
  | leaf _ _ => True
  | composite c agents => c.checkWidth limit agents.length = .ok c ∧ AllAccepted limit agents

/-- All composites of these agents are let through. -/
def AllAccepted (limit : Int) : List Crew → Prop
  | [] => True
  | t :: rest => t.Accepted limit ∧ AllAccepted limit rest
end

end Crew

/-! ## What the parts hold -/

namespace Behaviour

variable {p : Profile} {answer : Value → Scope → Value} {B : Behaviour Scope}

theorem attains_inner {q : (B.closing p answer).State} (attains : (B.closing p answer).Attains q) :
    B.Attains (Closing.inner q) := by
  induction attains with
  | start => exact .start
  | step _ step ih =>
    cases step with
    | inside step | lingerStoring step | lingerFinished step => exact .step ih step
    | answer result | raise result | store => exact ih

/-- An agent that has an answer has got it from work that has ended well. -/
theorem past_of_answered {q : (B.closing p answer).State} (attains : (B.closing p answer).Attains q) :
    Closing.Answered q → B.Past (Closing.inner q) := by
  induction attains with
  | start => exact False.elim
  | step before step ih =>
    intro answered
    cases step with
    | inside step | raise result => exact answered.elim
    | answer result => exact .now (q := Closing.inner (.inside _)) (attains_inner before) result
    | store => exact ih trivial
    | lingerStoring step => exact .later (ih answered) step
    | lingerFinished step =>
      exact .later (ih (Closing.answered_finished.mpr (Closing.answered_finished.mp answered))) step

theorem answered_of_past {q : (B.closing p answer).State} (past : (B.closing p answer).Past q) :
    Closing.Answered q := by
  induction past with
  | @now q v attains succeeds =>
    cases q with
    | finished q r =>
      obtain rfl : r = .ok v := Option.some.inj succeeds
      trivial
    | inside q | storing q w => cases succeeds
  | later _ step ih =>
    cases step with
    | inside step | answer result | raise result => exact ih.elim
    | store => trivial
    | lingerStoring step => exact ih
    | lingerFinished step => exact Closing.answered_finished.mpr (Closing.answered_finished.mp ih)

/-- Work gets as far when an agent closes it. -/
theorem brings_inside {q q' : B.State} {x : Scope} (brings : B.Brings x q q') :
    (B.closing p answer).Brings x (.inside q) (.inside q') :=
  brings.lift Closing.inside fun _ _ => .inside

end Behaviour

namespace Laden

theorem light_bounded (B : Behaviour Scope) : (light B).Bounded 0 :=
  ⟨rfl, fun _ _ => Nat.zero_le _, fun _ => Nat.le_refl 0, fun _ => rfl⟩

/-- Closing takes no threads. -/
theorem Bounded.closing_step {l : Laden} {most : Nat} (bounded : l.Bounded most) {p : Profile}
    {answer : Value → Scope → Value} {q q' : Closing l.behaviour.State} {x y : Scope}
    (attains : l.behaviour.Attains q.inner) (step : ClosingStep p answer l.behaviour q x q' y) :
    l.load q'.inner ≤ l.load q.inner + 1 := by
  cases step with
  | inside step | lingerStoring step | lingerFinished step => exact bounded.step attains step
  | answer result | raise result | store => exact Nat.le_succ _

theorem Bounded.closing {l : Laden} {most : Nat} (bounded : l.Bounded most) (p : Profile)
    (answer : Value → Scope → Value) : (l.closing p answer).Bounded most :=
  ⟨bounded.start, fun attains step => bounded.closing_step (Behaviour.attains_inner attains) step,
    fun attains => bounded.attains (Behaviour.attains_inner attains),
    fun past => bounded.past (Behaviour.past_of_answered past.attains (Behaviour.answered_of_past past))⟩

section Orchestration

variable {c : Composite} {profiles : List Profile} {parts : List Laden}

theorem reachable_of_attains {s : (ensemble c profiles parts).orchestration.State}
    (attains : (ensemble c profiles parts).orchestration.Attains s) :
    Ensemble.Reachable (e := ensemble c profiles parts) s := by
  induction attains with
  | start => exact .opening
  | step _ step ih => exact .step ih step

theorem ended_of_past {s : (ensemble c profiles parts).orchestration.State}
    (past : (ensemble c profiles parts).orchestration.Past s) :
    Ensemble.Stage.loop (e := ensemble c profiles parts) s = .ended (.ok ()) := by
  induction past with
  | @now s v attains succeeds =>
    obtain ⟨r, ended, is⟩ := Ensemble.Loop.ending?_eq_some succeeds
    cases r with
    | ok u => exact ended
    | error f => cases is
  | later _ step ih =>
    cases step with
    | loop step => cases step <;> simp_all
    | flow step => exact step.loop_frame.trans ih
    | errand i there step => exact step.loop_frame.trans ih
    | perform i at_ there moves => cases at_.symm.trans ih
    | linger i there moves => exact ih

/-- What the demands of agents add up to, by their positions. -/
theorem sum_demands (demands : List Nat) :
    ((List.range demands.length).map fun i => demands.getD i 0 + 1).sum = Crew.together .parallel demands := by
  have all : (List.range demands.length).map (fun i => demands.getD i 0) = demands := Shape.map_range_getD demands 0
  rw [Crew.together, if_pos rfl]
  conv_rhs => rw [← all, List.map_map]
  rfl

/-- An orchestration holds what its agents hold that take turns. -/
theorem orchestration_bounded {demands : List Nat} (length : parts.length = demands.length)
    (bounded : ∀ i, (part parts i).Bounded (demands.getD i 0)) :
    (orchestration c profiles parts).Bounded (Crew.together c.plan.topology demands) := by
  have agents : (ensemble c profiles parts).agents.length = demands.length := by
    rw [← length]
    exact List.length_range
  have range : (ensemble c profiles parts).agents = List.range (ensemble c profiles parts).agents.length := by
    rw [agents, ← length]
    rfl
  refine ⟨rfl, fun {s t x y} attains step => ?_, fun {s} attains => ?_, fun {s} past => ?_⟩
  · have reach := reachable_of_attains attains
    exact Ensemble.Step.load_le step reach (fun agent => (bounded agent).start)
      fun agent {q q' x y} attains step => (bounded agent).step attains step
  · have reach := reachable_of_attains attains
    by_cases parallel : c.plan.topology = .parallel
    · rw [parallel, ← sum_demands, ← agents]
      exact reach.load_le_sum parallel range (fun _ => id) fun agent q attains => (bounded agent).attains attains
    · rw [Crew.together, if_neg parallel]
      refine reach.load_le_max parallel range (fun agent inside q attains => ?_) fun agent q past =>
        (bounded agent).past past
      refine (Nat.add_le_add_right ((bounded agent).attains attains) 1).trans
        (List.le_max_of_le' 0 ?_ (Nat.le_refl _))
      rw [agents] at inside
      rw [← List.getElem_eq_getD (h := inside)]
      exact List.mem_map_of_mem (List.getElem_mem inside)
  · have reach := reachable_of_attains past.attains
    exact reach.load_ended (fun _ => id) (fun agent q past => (bounded agent).past past) (ended_of_past past)

end Orchestration

/-! ## On a worker -/

/-- Where a behaviour gets on its own, if a step that takes a thread has to wait until one of `limit` threads is
free. -/
inductive Reaches (l : Laden) (limit : Nat) : l.behaviour.State → Scope → Prop
  | start (x : Scope) : Reaches l limit l.behaviour.start x
  | step {q q' : l.behaviour.State} {x y : Scope} (before : Reaches l limit q x) (step : l.behaviour.Step q x q' y)
      (room : l.load q' ≤ limit) : Reaches l limit q' y

variable {l : Laden} {limit most : Nat}

theorem Reaches.attains {q : l.behaviour.State} {x : Scope} (reaches : l.Reaches limit q x) :
    l.behaviour.Attains q := by
  induction reaches with
  | start x => exact .start
  | step _ step _ ih => exact .step ih step

theorem Reaches.room (bounded : l.Bounded most) {q : l.behaviour.State} {x : Scope} (reaches : l.Reaches limit q x) :
    l.load q ≤ limit := by
  cases reaches with
  | start x => exact bounded.start ▸ Nat.zero_le limit
  | step _ _ room => exact room

/-- If it can come to hold as many threads as there are, it does so one by one. -/
theorem Bounded.fills (bounded : l.Bounded most) {q : l.behaviour.State} {x : Scope}
    (brings : l.behaviour.Brings x l.behaviour.start q) (enough : limit ≤ l.load q) :
    ∃ q', l.Reaches limit q' x ∧ l.load q' = limit := by
  -- up to any state on the way, it has kept to the limit or met it
  have along : l.Reaches limit q x ∨ ∃ q', l.Reaches limit q' x ∧ l.load q' = limit := by
    clear enough
    induction brings with
    | refl => exact .inl (.start x)
    | @tail q q' _ moves ih =>
      rcases ih with reaches | found
      · by_cases room : l.load q' ≤ limit
        · exact .inl (.step reaches moves room)
        · have before := reaches.room bounded
          have rises := bounded.step reaches.attains moves
          exact .inr ⟨q, reaches, by omega⟩
      · exact .inr found
  rcases along with reaches | found
  · exact ⟨q, reaches, Nat.le_antisymm (reaches.room bounded) enough⟩
  · exact found

end Laden

namespace Crew

/-! ## Trees -/

theorem length_ladens : (agents : List Crew) → (ladens agents).length = agents.length
  | [] => rfl
  | t :: rest => by rw [ladens, List.length_cons, List.length_cons, length_ladens rest]

theorem length_demands : (agents : List Crew) → (demands agents).length = agents.length
  | [] => rfl
  | t :: rest => by rw [demands, List.length_cons, List.length_cons, length_demands rest]

mutual
/-- An agent never holds more threads than it demands. -/
theorem bounded : (t : Crew) → t.laden.Bounded t.demand
  | leaf p B => by
    rw [laden, demand]
    exact Laden.light_bounded B
  | composite c agents => by
    rw [laden, demand]
    have length : (ladens agents).length = (demands agents).length := by rw [length_ladens, length_demands]
    exact (Laden.orchestration_bounded length (allBounded agents)).closing c.profile _

/-- None of these agents does; where there is none, there is nothing to do. -/
theorem allBounded : (agents : List Crew) → ∀ i, (Laden.part (ladens agents) i).Bounded ((demands agents).getD i 0)
  | [], i => by
    rw [ladens, demands]
    exact Laden.light_bounded _
  | t :: rest, i => by
    rw [ladens, demands]
    cases i with
    | zero => exact bounded t
    | succ i => exact allBounded rest i
end

/-- A composite demands more than each of its agents. -/
theorem lt_together {topology : Topology} {demands : List Nat} {d : Nat} (mem : d ∈ demands) :
    d < together topology demands := by
  have there : d + 1 ∈ demands.map (· + 1) := List.mem_map_of_mem mem
  unfold together
  split
  · exact List.single_le_sum (fun _ _ => Nat.zero_le _) _ there
  · exact List.le_max_of_le' 0 there (Nat.le_refl _)

/-- A parallel composite demands a thread for each of its agents. -/
theorem length_le_together (demands : List Nat) : demands.length ≤ together .parallel demands := by
  rw [together, if_pos rfl, List.sum_map_add]
  simp

theorem checkWidth_eq_ok_iff {c : Composite} {limit width : Nat} :
    c.checkWidth limit width = .ok c ↔ (c.plan.topology = .parallel → width < limit) := by
  unfold Composite.checkWidth
  split <;> simp_all

variable {limit : Nat}

mutual
/-- A tree that demands fewer threads than there are is let through. -/
theorem accepted_of_lt : (t : Crew) → t.demand < limit → t.Accepted limit
  | leaf p B, _ => by
    rw [Accepted]
    trivial
  | composite c agents, fewer => by
    rw [demand] at fewer
    rw [Accepted, checkWidth_eq_ok_iff]
    refine ⟨fun parallel => ?_, allAccepted_of_lt agents fun d mem => (lt_together mem).trans fewer⟩
    rw [parallel] at fewer
    rw [← length_demands]
    exact (length_le_together _).trans_lt fewer

theorem allAccepted_of_lt : (agents : List Crew) → (∀ d ∈ demands agents, d < limit) → AllAccepted limit agents
  | [], _ => by
    rw [AllAccepted]
    trivial
  | t :: rest, fewer => by
    rw [demands] at fewer
    rw [AllAccepted]
    exact ⟨accepted_of_lt t (fewer _ List.mem_cons_self),
      allAccepted_of_lt rest fun d mem => fewer d (List.mem_cons_of_mem _ mem)⟩
end

mutual
/-- Agents side by side, on all levels, and nothing that limits the pools. -/
def FansOut : Crew → Prop
  | leaf _ _ => True
  | composite c agents =>
    c.plan = { id := c.plan.id, topology := .parallel } ∧ c.workers = none ∧ AllFanOut agents

/-- All of these agents are side by side, on all levels. -/
def AllFanOut : List Crew → Prop
  | [] => True
  | t :: rest => t.FansOut ∧ AllFanOut rest
end

mutual
/-- A tree of fan-outs comes to hold all threads that it demands. -/
theorem full : (t : Crew) → t.FansOut → ∀ x, ∃ q, t.laden.behaviour.Brings x t.laden.behaviour.start q ∧
    t.laden.load q = t.demand
  | leaf p B, _, x => by
    rw [demand]
    exact ⟨_, .refl, (bounded (leaf p B)).start⟩
  | composite c agents, fans, x => by
    rw [FansOut] at fans
    obtain ⟨plan, workers, fans⟩ := fans
    choose goal brings loads using allFull agents fans x
    have rush : (Laden.ensemble c (agents.map profile) (ladens agents)).Rush :=
      ⟨plan, by simp [Laden.ensemble], rfl, workers⟩
    obtain ⟨s, rushes, load⟩ := rush.brings (x := x) brings fun i => (Laden.part (ladens agents) i).load
    rw [laden, demand]
    refine ⟨.inside s, Behaviour.brings_inside rushes, load.trans ?_⟩
    have parallel : c.plan.topology = .parallel := by rw [plan]
    have length : (Laden.ensemble c (agents.map profile) (ladens agents)).agents.length = (demands agents).length := by
      rw [length_demands, ← length_ladens agents]
      exact List.length_range
    rw [parallel, ← Laden.sum_demands, length]
    simp only [loads]

/-- So does each of these agents; where there is none, there is nothing to hold. -/
theorem allFull : (agents : List Crew) → AllFanOut agents → ∀ x i,
    ∃ q, (Laden.part (ladens agents) i).behaviour.Brings x (Laden.part (ladens agents) i).behaviour.start q ∧
      (Laden.part (ladens agents) i).load q = (demands agents).getD i 0
  | [], _, x, i => by
    rw [ladens, demands]
    exact ⟨_, .refl, rfl⟩
  | t :: rest, fans, x, i => by
    rw [AllFanOut] at fans
    rw [ladens, demands]
    cases i with
    | zero => exact full t fans.1 x
    | succ i => exact allFull rest fans.2 x i
end

/-- A tree of fan-outs can fill a worker that has no more threads than it demands. -/
theorem fills (t : Crew) (fans : t.FansOut) (many : limit ≤ t.demand) (x : Scope) :
    ∃ q, t.laden.Reaches limit q x ∧ t.laden.load q = limit := by
  obtain ⟨q, brings, load⟩ := t.full fans x
  exact t.bounded.fills brings (load ▸ many)

/-- A parallel composite whose agents are no composites. -/
def Flat : Crew → Prop
  | leaf _ _ => False
  | composite c agents => c.plan.topology = .parallel ∧ ∀ t ∈ agents, ∃ p B, t = leaf p B

theorem demands_leaves : (agents : List Crew) → (∀ t ∈ agents, ∃ p B, t = leaf p B) →
    demands agents = List.replicate agents.length 0
  | [], _ => rfl
  | t :: rest, leaves => by
    obtain ⟨p, B, rfl⟩ := leaves t List.mem_cons_self
    rw [demands, demand, demands_leaves rest fun t mem => leaves t (List.mem_cons_of_mem _ mem)]
    rfl

theorem allAccepted_leaves : (agents : List Crew) → (∀ t ∈ agents, ∃ p B, t = leaf p B) → AllAccepted limit agents
  | [], _ => by
    rw [AllAccepted]
    trivial
  | t :: rest, leaves => by
    obtain ⟨p, B, rfl⟩ := leaves t List.mem_cons_self
    rw [AllAccepted, Accepted]
    exact ⟨trivial, allAccepted_leaves rest fun t mem => leaves t (List.mem_cons_of_mem _ mem)⟩

/-- The check of a composite counts the threads that it demands, if its agents are no composites. -/
theorem accepted_flat_iff (t : Crew) (flat : t.Flat) : t.Accepted limit ↔ t.demand < limit := by
  cases t with
  | leaf p B => exact flat.elim
  | composite c agents =>
    obtain ⟨parallel, leaves⟩ := flat
    have width : together .parallel (demands agents) = agents.length := by
      rw [together, if_pos rfl, demands_leaves agents leaves]
      simp
    rw [Accepted, checkWidth_eq_ok_iff, demand, parallel, width]
    exact ⟨fun accepted => accepted.1 rfl, fun fewer => ⟨fun _ => fewer, allAccepted_leaves agents leaves⟩⟩

/-- On a worker with more threads than a tree demands, one thread is always free, and the tree is let through.  For a
tree of fan-outs nothing less will do; and if it has one level, the check asks for just that. -/
theorem spare_thread (t : Crew) (limit : Nat) :
    (∀ q x, t.laden.Reaches limit q x → t.laden.load q ≤ t.demand) ∧
    (t.demand < limit → t.Accepted limit ∧ ∀ q x, t.laden.Reaches limit q x → t.laden.load q < limit) ∧
    (t.FansOut → ((∀ q x, t.laden.Reaches limit q x → t.laden.load q < limit) ↔ t.demand < limit)) ∧
    (t.Flat → (t.Accepted limit ↔ t.demand < limit)) := by
  have most {q x} (reaches : t.laden.Reaches limit q x) := t.bounded.attains reaches.attains
  have spare (fewer : t.demand < limit) (q x) (reaches : t.laden.Reaches limit q x) : t.laden.load q < limit :=
    (most reaches).trans_lt fewer
  refine ⟨fun q x => most, fun fewer => ⟨t.accepted_of_lt fewer, spare fewer⟩, fun fans => ⟨fun free => ?_, spare⟩,
    t.accepted_flat_iff⟩
  by_contra many
  obtain ⟨q, reaches, load⟩ := t.fills fans (Nat.le_of_not_lt many) { }
  exact (free q _ reaches).ne load

/-- A parallel composite with nothing that limits its pool. -/
def fan (name : String) : Composite where
  profile := { name }
  plan := { id := "", topology := .parallel }

/-- An agent that does nothing. -/
def idle (name : String) : Crew := .leaf { name } Work.nothing.behaviour

/-- Three agents side by side, as the only agent of a parallel composite. -/
def nested : Crew := .composite (fan "outer") [.composite (fan "inner") [idle "a", idle "b", idle "c"]]

theorem demand_nested : nested.demand = 4 := by
  simp [nested, idle, fan, demand, demands, together]

theorem nested_fansOut : nested.FansOut := by
  simp [nested, idle, fan, FansOut, AllFanOut]

theorem nested_accepted : nested.Accepted 4 := by
  simp [nested, idle, fan, Accepted, AllAccepted, Composite.checkWidth]

/-- Five threads are enough for it, and four are not. -/
theorem spare_thread_nested : (∀ q x, nested.laden.Reaches 5 q x → nested.laden.load q < 5) ∧
    ¬ ∀ q x, nested.laden.Reaches 4 q x → nested.laden.load q < 4 := by
  have demand := demand_nested
  refine ⟨((spare_thread nested 5).2.1 (by omega)).2, fun free => ?_⟩
  have fewer := ((spare_thread nested 4).2.2.1 nested_fansOut).mp free
  omega

/-- A tree may be let through and fill the worker, so that no call of its agents ever finds a thread. -/
theorem not_forall_spare : ¬ ∀ (t : Crew) (limit : Nat), 1 ≤ limit → t.Accepted limit →
    ∀ q x, t.laden.Reaches limit q x → t.laden.load q < limit := by
  intro all
  obtain ⟨q, reaches, load⟩ := nested.fills nested_fansOut (Nat.le_of_eq demand_nested.symm) { }
  exact (all nested 4 (by omega) nested_accepted q _ reaches).ne load

end Crew
end Rendezvous
