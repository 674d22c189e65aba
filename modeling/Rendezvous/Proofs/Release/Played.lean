import Mathlib.Logic.Relation
import Rendezvous.Proofs.Dialogue.Traces
import Rendezvous.Proofs.Release.Record

/-!
# Orchestrations over oracles are walks

An oracle that lets what runs side by side come to something, and that releases the loop, plays an orchestration as a walk
(`Oracle.Serves.played`): the status and the result of the orchestration are those that the walk comes to.
-/

namespace Rendezvous

set_option autoImplicit false

/-- What comes of steps that run side by side: something of each of them, or of some with a failure among them. -/
def Together (os : List StepOrder) (outcomes : List (StepOrder × Result StepReport)) : Prop :=
  ∃ rest, (outcomes.map Prod.fst ++ rest).Perm os ∧
    ((outcomes.map Reply.ofStep).findSome? Reply.failure? = none → rest = [])

/-- The oracle lets every gathering come to something, and releases the loop. -/
structure Oracle.Serves (oracle : Oracle) : Prop where
  gathers : ∀ past os, Together os (oracle.gather past os)
  releases : ∀ past id, oracle.complete past id = .ok ()

/-- An orchestration over an oracle has ended as a walk has; the walk may have been replied more after its drive was over,
and shows it. -/
structure Oracle.Plays (oracle : Oracle) (s : OrchestrationStart) (w : Walk) : Prop where
  ended : w.place = .ended ((orchestrate oracle.activities s).run []).1.result
  replies : ∃ replies late, w.replies = replies ++ late ∧
    ((orchestrate oracle.activities s).run []).2 = replies ++ [.complete s.plannerId (.ok ())]
  status : w.status s = { ((orchestrate oracle.activities s).run []).1.status with
    completedSteps := w.replies.filterMap Reply.report? }

namespace Walk

variable {s : OrchestrationStart} {w w' w'' : Walk} {place place' : Place} {p p' : Progress} {a b : List Reply}

/-- A walk comes to a place with a progress, being replied something on the way. -/
structure Comes (s : OrchestrationStart) (w : Walk) (place : Place) (p : Progress) (a : List Reply) (w' : Walk) :
    Prop where
  steps : Relation.ReflTransGen (Step s) w w'
  place : w'.place = place
  progress : w'.progress = p
  replies : w'.replies = w.replies ++ a

theorem Comes.trans (first : Comes s w place p a w') (second : Comes s w' place' p' b w'') :
    Comes s w place' p' (a ++ b) w'' :=
  ⟨first.steps.trans second.steps, second.place, second.progress, by
    rw [second.replies, first.replies, List.append_assoc]⟩

/-- A step on which nothing is replied. -/
theorem Comes.silent (step : Step s w w') (same : w'.replies = w.replies) : Comes s w w'.place w'.progress [] w' :=
  ⟨.single step, rfl, rfl, same.trans (List.append_nil _).symm⟩

theorem replies_goTo_asked (w : Walk) (place : Place) {entries : List Entry} (silent : repliesOf entries = []) :
    (w.goTo place entries).replies = w.replies := by
  rw [replies_goTo, silent, List.append_nil]

/-! ## Gatherings -/

theorem comes_ask {o : StepOrder} {rest : List StepOrder} {failure : Option Failure} {next : Drive}
    (at_ : w.place = .gathering (o :: rest) failure next) :
    ∃ w', Comes s w (.gathering rest failure next) w.progress [] w' ∧ w'.underway = w.underway ++ [o] :=
  ⟨_, .silent (.ask w o rest failure next at_) (w.replies_goTo_asked (.gathering rest failure next) rfl), rfl⟩

/-- What comes of a step, in the progress. -/
def credit (p : Progress) (a : List Reply) : Progress := { p with steps := p.steps ++ a.filterMap Reply.report? }

theorem credit_of_error (p : Progress) (o : StepOrder) (f : Failure) : credit p [.step o (.error f)] = p :=
  congrArg (fun steps => { p with steps }) (List.append_nil _)

theorem comes_close {i : Nat} {o : StepOrder} {failure : Option Failure} {next : Drive}
    (at_ : w.place = .gathering [] failure next) (there : w.underway[i]? = some o) (r : Result StepReport) :
    ∃ w', Comes s w (.gathering [] (failure.or (Act.failure? r)) next) (credit w.progress [.step o r]) [.step o r] w' ∧
      w'.underway = w.underway.eraseIdx i := by
  cases r with
  | ok r =>
    have open_ : w.place.isEnded = false := by
      rw [at_]
      rfl
    have place : w.place = .gathering [] (failure.or none) next := by rw [at_, Option.or_none]
    exact ⟨_, ⟨.single (.succeed w i o r there open_), place, rfl, w.replies_close i o _⟩, rfl⟩
  | error f =>
    have same := (credit_of_error w.progress o f).symm
    exact ⟨_, ⟨.single (.fail w i o f [] failure next there at_), rfl, same, w.replies_close i o _⟩, rfl⟩

/-- All steps of a gathering are asked for. -/
theorem comes_asking (failure : Option Failure) (next : Drive) (os : List StepOrder) (w : Walk)
    (at_ : w.place = .gathering os failure next) :
    ∃ w', Comes s w (.gathering [] failure next) w.progress [] w' ∧ w'.underway = w.underway ++ os := by
  induction os generalizing w with
  | nil => exact ⟨w, ⟨.refl, at_, rfl, (List.append_nil _).symm⟩, (List.append_nil _).symm⟩
  | cons o rest ih =>
    obtain ⟨w₁, asked, first⟩ := comes_ask at_
    obtain ⟨w', comes, others⟩ := ih w₁ asked.place
    rw [asked.progress] at comes
    refine ⟨w', asked.trans comes, ?_⟩
    rw [others, first, List.append_assoc]
    rfl

/-- Some of the steps that are under way come to something, one after the other. -/
theorem comes_closing (next : Drive) {rest : List StepOrder} (outcomes : List (StepOrder × Result StepReport))
    (failure : Option Failure) (w : Walk) (at_ : w.place = .gathering [] failure next)
    (among : (outcomes.map Prod.fst ++ rest).Perm w.underway) :
    ∃ w', Comes s w (.gathering [] (failure.or ((outcomes.map Reply.ofStep).findSome? Reply.failure?)) next)
        (credit w.progress (outcomes.map Reply.ofStep)) (outcomes.map Reply.ofStep) w' ∧ w'.underway.Perm rest := by
  induction outcomes generalizing failure w with
  | nil =>
    refine ⟨w, ⟨.refl, ?_, ?_, (List.append_nil _).symm⟩, among.symm⟩
    · rw [at_]
      exact congrArg (Place.gathering [] · next) Option.or_none.symm
    · exact congrArg (fun steps => { w.progress with steps }) (List.append_nil _).symm
  | cons outcome later ih =>
    obtain ⟨o, r⟩ := outcome
    obtain ⟨i, there⟩ := List.mem_iff_getElem?.mp (among.subset List.mem_cons_self)
    obtain ⟨w₁, first, left⟩ := comes_close at_ there r
    have remain : (later.map Prod.fst ++ rest).Perm w₁.underway := by
      obtain ⟨inside, here⟩ := List.getElem?_eq_some_iff.mp there
      have split := among.trans (List.getElem_cons_eraseIdx_perm inside).symm
      rw [here] at split
      rw [left]
      exact split.cons_inv
    obtain ⟨w', others, left⟩ := ih _ w₁ first.place remain
    have comes := first.trans others
    have place : (failure.or (Act.failure? r)).or ((later.map Reply.ofStep).findSome? Reply.failure?) =
        failure.or ((((o, r) :: later).map Reply.ofStep).findSome? Reply.failure?) := by
      rw [Option.or_assoc]
      cases r <;> rfl
    have progress : credit w₁.progress (later.map Reply.ofStep) =
        credit w.progress (((o, r) :: later).map Reply.ofStep) := by
      rw [first.progress]
      simp only [credit, List.append_assoc, ← List.filterMap_append]
      rfl
    rw [place, progress] at comes
    exact ⟨w', comes, left⟩

/-- A gathering comes to its first failure, or to its end. -/
theorem comes_gathering {next : Drive} {os : List StepOrder} {outcomes : List (StepOrder × Result StepReport)}
    (at_ : w.place = .gathering os none next) (idle : w.underway = []) (together : Together os outcomes) :
    ∃ w', Comes s w (.gathering [] ((outcomes.map Reply.ofStep).findSome? Reply.failure?) next)
        (credit w.progress (outcomes.map Reply.ofStep)) (outcomes.map Reply.ofStep) w' ∧
      ((outcomes.map Reply.ofStep).findSome? Reply.failure? = none → w'.underway = []) := by
  obtain ⟨rest, among, all⟩ := together
  obtain ⟨w₁, asked, underway⟩ := comes_asking none next os w at_
  rw [idle, List.nil_append] at underway
  obtain ⟨w', closed, left⟩ := comes_closing next outcomes none w₁ asked.place (underway ▸ among)
  rw [asked.progress, Option.none_or] at closed
  exact ⟨w', asked.trans closed, fun fine => (all fine ▸ left).eq_nil⟩

/-- A gathering in which nothing fails is left behind. -/
theorem comes_through {next : Drive} {os : List StepOrder} {outcomes : List (StepOrder × Result StepReport)}
    (at_ : w.place = .gathering os none next) (idle : w.underway = []) (together : Together os outcomes)
    (fine : (outcomes.map Reply.ofStep).findSome? Reply.failure? = none) :
    ∃ w', Comes s w (.going next) (credit w.progress (outcomes.map Reply.ofStep)) (outcomes.map Reply.ofStep) w' ∧
      w'.underway = [] := by
  obtain ⟨w₁, comes, all⟩ := comes_gathering (s := s) at_ idle together
  rw [fine] at comes
  have joined := Step.join (s := s) w₁ next comes.place (all fine)
  refine ⟨_, ⟨comes.steps.tail joined, rfl, comes.progress, ?_⟩, all fine⟩
  rw [replies_goTo_asked _ _ rfl, comes.replies]

/-- A gathering in which something fails puts an end to the drive. -/
theorem comes_failing {next : Drive} {os : List StepOrder} {outcomes : List (StepOrder × Result StepReport)}
    {f : Failure} (at_ : w.place = .gathering os none next) (idle : w.underway = []) (together : Together os outcomes)
    (fails : (outcomes.map Reply.ofStep).findSome? Reply.failure? = some f) :
    ∃ w', Comes s w (.decided (.error f)) (credit w.progress (outcomes.map Reply.ofStep)) (outcomes.map Reply.ofStep)
      w' := by
  obtain ⟨w₁, comes, -⟩ := comes_gathering (s := s) at_ idle together
  rw [fails] at comes
  have gaveUp := Step.giveUp (s := s) w₁ f next comes.place
  refine ⟨_, ⟨comes.steps.tail gaveUp, rfl, comes.progress, ?_⟩⟩
  rw [replies_goTo_asked _ _ rfl, comes.replies]

/-- What comes of a single step. -/
theorem together_singleton (o : StepOrder) (r : Result StepReport) : Together [o] [(o, r)] :=
  ⟨[], .refl _, fun _ => rfl⟩

/-! ## Drives -/

theorem comes_iteration {n : Nat} {next : Unit → Drive} (at_ : w.place = .going (.iteration n next)) :
    ∃ w', Comes s w (.going (next ())) { w.progress with iteration := n } [] w' ∧ w'.underway = w.underway :=
  ⟨_, .silent (.iteration w n next at_) rfl, rfl⟩

theorem comes_skip {i : Nat} {next : Drive} (at_ : w.place = .going (.skip i next)) :
    ∃ w', Comes s w (.going next) { w.progress with skipped := w.progress.skipped ++ [i] } [] w' ∧
      w'.underway = w.underway :=
  ⟨_, .silent (.skip w i next at_) rfl, rfl⟩

theorem comes_order {o : StepOrder} {next : Drive} (at_ : w.place = .going (.step o next)) :
    ∃ w', Comes s w (.gathering [o] none next) w.progress [] w' ∧ w'.underway = w.underway :=
  ⟨_, .silent (.order w o next at_) (w.replies_goTo_asked _ rfl), rfl⟩

theorem comes_orderAll {os : List StepOrder} {next : Drive} (at_ : w.place = .going (.steps os next)) :
    ∃ w', Comes s w (.gathering os none next) w.progress [] w' ∧ w'.underway = w.underway :=
  ⟨_, .silent (.orderAll w os next at_) (w.replies_goTo_asked _ rfl), rfl⟩

theorem comes_exit {o : ExitOrder} {next : Bool → Drive} (at_ : w.place = .going (.checkExit o next)) :
    ∃ w', Comes s w (.asking (.exit o) next) w.progress [] w' ∧ w'.underway = w.underway :=
  ⟨_, .silent (.askExit w o next at_) (w.replies_goTo_asked _ rfl), rfl⟩

theorem comes_condition {o : ConditionOrder} {next : Bool → Drive} (at_ : w.place = .going (.checkCondition o next)) :
    ∃ w', Comes s w (.asking (.condition o) next) w.progress [] w' ∧ w'.underway = w.underway :=
  ⟨_, .silent (.askCondition w o next at_) (w.replies_goTo_asked _ rfl), rfl⟩

/-- A question that is answered leads on. -/
theorem comes_answered {q : Ensemble.Question} {next : Bool → Drive}
    (asked : ∃ w₁, Comes s w (.asking q next) w.progress [] w₁ ∧ w₁.underway = w.underway) (b : Bool) :
    ∃ w', Comes s w (.going (next b)) w.progress [q.reply (.ok b)] w' ∧ w'.underway = w.underway := by
  obtain ⟨w₁, first, same⟩ := asked
  have second : Comes s w₁ (.going (next b)) w₁.progress [q.reply (.ok b)] _ :=
    ⟨.single (.branch w₁ q next b first.place), rfl, rfl, by rw [replies_goTo]; cases q <;> rfl⟩
  rw [first.progress] at second
  exact ⟨_, first.trans second, same⟩

/-- A question that is not answered puts an end to the drive. -/
theorem comes_refused {q : Ensemble.Question} {next : Bool → Drive}
    (asked : ∃ w₁, Comes s w (.asking q next) w.progress [] w₁ ∧ w₁.underway = w.underway) (f : Failure) :
    ∃ w', Comes s w (.decided (.error f)) w.progress [q.reply (.error f)] w' := by
  obtain ⟨w₁, first, -⟩ := asked
  have second : Comes s w₁ (.decided (.error f)) w₁.progress [q.reply (.error f)] _ :=
    ⟨.single (.refuse w₁ q next f first.place), rfl, rfl, by rw [replies_goTo]; cases q <;> rfl⟩
  rw [first.progress] at second
  exact ⟨_, first.trans second⟩

/-- A drive that is walked comes to its end. -/
theorem comes_decided {d : Drive} {replies : List Reply} {f : Option Failure}
    (walks : Drive.Walks Together d p replies p' f) (w : Walk) (at_ : w.place = .going d) (progress : w.progress = p)
    (idle : w.underway = []) :
    ∃ w', Comes s w (.decided (f.elim (.ok (p'.result s)) .error)) p' replies w' := by
  induction walks generalizing w with
  | finish p =>
    refine ⟨_, .single (.finish w at_), ?_, progress, ?_⟩
    · rw [progress]
      rfl
    · exact (w.replies_goTo_asked _ rfl).trans (List.append_nil _).symm
  | iteration _ ih =>
    subst progress
    obtain ⟨w₁, first, same⟩ := comes_iteration (s := s) at_
    obtain ⟨w', others⟩ := ih w₁ first.place first.progress (same.trans idle)
    exact ⟨w', first.trans others⟩
  | skip _ ih =>
    subst progress
    obtain ⟨w₁, first, same⟩ := comes_skip (s := s) at_
    obtain ⟨w', others⟩ := ih w₁ first.place first.progress (same.trans idle)
    exact ⟨w', first.trans others⟩
  | @step o next _ _ _ _ r _ ih =>
    subst progress
    obtain ⟨w₁, first, same⟩ := comes_order (s := s) at_
    obtain ⟨w₂, second, idle⟩ := comes_through (s := s) first.place (same.trans idle) (together_singleton o (.ok r)) rfl
    rw [first.progress] at second
    obtain ⟨w', others⟩ := ih w₂ second.place second.progress idle
    exact ⟨w', first.trans (second.trans others)⟩
  | @stepFails o next _ f =>
    subst progress
    obtain ⟨w₁, first, same⟩ := comes_order (s := s) at_
    obtain ⟨w', second⟩ := comes_failing (s := s) first.place (same.trans idle) (together_singleton o (.error f)) rfl
    rw [first.progress, List.map_singleton, Reply.ofStep, credit_of_error] at second
    exact ⟨w', first.trans second⟩
  | steps outcomes together all _ ih =>
    subst progress
    obtain ⟨credited, fine⟩ := Prod.mk.inj ((Progress.reportAll_eq _ outcomes).symm.trans all)
    obtain ⟨w₁, first, same⟩ := comes_orderAll (s := s) at_
    obtain ⟨w₂, second, idle⟩ := comes_through (s := s) first.place (same.trans idle) together fine
    rw [first.progress] at second
    obtain ⟨w', others⟩ := ih w₂ second.place (second.progress.trans credited) idle
    exact ⟨w', first.trans (second.trans others)⟩
  | stepsFail f outcomes together all =>
    subst progress
    obtain ⟨credited, fails⟩ := Prod.mk.inj ((Progress.reportAll_eq _ outcomes).symm.trans all)
    obtain ⟨w₁, first, same⟩ := comes_orderAll (s := s) at_
    obtain ⟨w', second⟩ := comes_failing (s := s) first.place (same.trans idle) together fails
    rw [first.progress, show credit w.progress (outcomes.map Reply.ofStep) = _ from credited] at second
    exact ⟨w', first.trans second⟩
  | checkExit b _ ih =>
    subst progress
    obtain ⟨w₁, first, same⟩ := comes_answered (comes_exit (s := s) at_) b
    obtain ⟨w', others⟩ := ih w₁ first.place first.progress (same.trans idle)
    exact ⟨w', first.trans others⟩
  | checkCondition b _ ih =>
    subst progress
    obtain ⟨w₁, first, same⟩ := comes_answered (comes_condition (s := s) at_) b
    obtain ⟨w', others⟩ := ih w₁ first.place first.progress (same.trans idle)
    exact ⟨w', first.trans others⟩
  | checkExitFails f =>
    subst progress
    exact comes_refused (comes_exit at_) f
  | checkConditionFails f =>
    subst progress
    exact comes_refused (comes_condition at_) f

/-- When the drive is over, the loop is released, and that is the end. -/
theorem comes_end {v : Result OrchestrationResult} (at_ : w.place = .decided v) :
    ∃ w', Comes s w (.ended v) w.progress [.complete s.plannerId (.ok ())] w' := by
  have steps := Relation.ReflTransGen.tail (.single (.release w v at_)) (Step.released (s := s) _ v rfl)
  refine ⟨_, steps, rfl, rfl, ?_⟩
  rw [replies_goTo, replies_goTo_asked _ _ rfl]
  rfl

theorem Reachable.of_steps (reach : Reachable s w) (steps : Relation.ReflTransGen (Step s) w w') : Reachable s w' := by
  induction steps with
  | refl => exact reach
  | tail _ step ih => exact ih.step step

end Walk

/-- An orchestration over an oracle that serves it is a walk to its end. -/
theorem Oracle.Serves.played {oracle : Oracle} (serves : oracle.Serves) (s : OrchestrationStart) :
    ∃ w, Walk.Reachable s w ∧ oracle.Plays s w ∧ w.replies = ((orchestrate oracle.activities s).run []).2 := by
  obtain ⟨replies, p, f, runs, walks⟩ := (Drive.of s).run_walks oracle serves.gathers {} []
  rw [List.nil_append] at runs
  obtain ⟨last, status, result⟩ := oracle.orchestrate_run s runs
  rw [serves.releases] at last result
  obtain ⟨w₁, drives⟩ := Walk.comes_decided (s := s) walks (Walk.opening s) rfl rfl rfl
  obtain ⟨w, ends⟩ := Walk.comes_end (s := s) drives.place
  rw [drives.progress] at ends
  have comes := drives.trans ends
  have all : w.replies = replies ++ [.complete s.plannerId (.ok ())] := comes.replies
  have steps : p.steps = w.replies.filterMap Reply.report? := by
    rw [all, List.filterMap_append]
    exact walks.steps_eq.trans (List.append_nil _).symm
  refine ⟨w, Walk.Reachable.opening.of_steps comes.steps, ⟨?_, ⟨replies, _, all, last⟩, ?_⟩, all.trans last.symm⟩
  · rw [comes.place, result]
    rfl
  · rw [status, ← steps, Walk.status, comes.place, comes.progress]
    cases f <;> rfl

end Rendezvous
