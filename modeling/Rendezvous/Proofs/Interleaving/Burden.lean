import Mathlib.Logic.Hydra
import Mathlib.Data.Prod.Lex
import Rendezvous.Proofs.Interleaving.Ledger

/-!
# No schedule goes on for good

Each step of an orchestration takes something away that nothing brings back.  There are three things to take
away: the beginning of the loop, which comes once (`Loop.prelude`); what the workflow, its activities, the queue
and the loop have still to do, which is a number (`Stage.burden`); and what the agents whose turns have begun
have still to do.  The agents may be of any kind, so that last thing is no number: it is a collection of states,
and a step replaces one of them by one that is further on.  If no agent can go on for good, the collection cannot
either (`WellFounded.cutExpand`).

A turn that begins brings a state into the collection, and takes its submission out of the queue.  So the three
are compared in this order, and no schedule goes on for good (`wellFounded_step`).
-/

namespace Rendezvous

set_option autoImplicit false

namespace Behaviour

variable {σ : Type} (B : Behaviour σ)

/-- One state is a step further on than another, whatever the shared state is. -/
def Onward (after before : B.State) : Prop := ∃ x y, B.Step before x after y

/-- Nobody can keep it going for good, whatever is done to the shared state in between. -/
def Finite : Prop := WellFounded B.Onward

end Behaviour

/-- How many steps the workflow and its step activities may take at most before their agents are submitted and
after their turns, from a place in the course on. -/
def Drive.burden : Drive → Nat
  | finish => 4
  | iteration _ next => burden (next ()) + 1
  | skip _ next => burden next + 1
  | step _ next => burden next + 13
  | steps os next => burden next + 11 * os.length + 2
  | checkExit _ next | checkCondition _ next => max (burden (next true)) (burden (next false)) + 4

theorem Drive.four_le_burden (d : Drive) : 4 ≤ d.burden := by
  induction d with
  | finish => exact Nat.le_refl 4
  | iteration n next ih =>
    have enough := ih ()
    simp only [burden]
    omega
  | checkExit o next ih | checkCondition o next ih =>
    simp only [burden]
    omega
  | skip i next ih | step o next ih | steps os next ih =>
    simp only [burden]
    omega

theorem Planner.slotsOf_nil {α : Type} : slotsOf ([] : List (Notice α)) = [] := rfl

namespace Ensemble

variable {β σ : Type} {e : Ensemble β σ}

/-! ## What is left to do -/

/-- What is left of the beginning. -/
def Loop.prelude : e.Loop → Nat
  | .unnamed => 2
  | .opening => 1
  | _ => 0

/-- What is left of a batch that runs is a turn, an acknowledgement and a slot for each of its agents. -/
def Loop.burden : e.Loop → Nat
  | .unnamed | .opening | .ended _ | .refused => 0
  | .counting left => 3 * left + 3
  | .looking => 2
  | .running batch => 3 * batch.length + 3
  | .acknowledging left => 3 * left + 2
  | .assigning _ left => 3 * left + 4
  | .failing slots _ => slots.length + 2
  | .leaving _ => 1

/-- How many steps an activity may still take, other than a step. -/
def Visit.burden {α : Type} : Visit α → Nat
  | .ordered => 3
  | .found => 2
  | .finished _ => 1

def Flow.burden : Flow → Nat
  | .unscheduled | .finished _ => 0
  | .going d => d.burden
  | .stepping _ next => next.burden + 1
  | .checking _ visit next => max (next true).burden (next false).burden + visit.burden
  | .releasing visit _ => visit.burden

/-- Submitting an agent is worth more than its submission. -/
def Errand.burden : Errand β → Nat
  | .ordered _ => 11
  | .found _ _ => 10
  | .begun _ _ => 9
  | .waiting _ => 3
  | .ending _ _ => 2
  | .finished _ _ => 1

/-- What is left for all but the agents. -/
def Stage.burden (s : e.Stage) : Nat :=
  s.flow.burden + (s.errands.map Errand.burden).sum + 5 * (Planner.slotsOf s.planner.queue).length +
    s.loop.burden

/-- The turns that the loop runs. -/
def Loop.turns : e.Loop → List e.Turn
  | .running batch => batch
  | _ => []

/-- All turns that have begun. -/
def Stage.turns (s : e.Stage) : List e.Turn := s.loop.turns ++ s.retired

/-- A turn has gone a step further. -/
def Turn.Onward (after before : e.Turn) : Prop :=
  ∃ q, after = ⟨before.submission, q⟩ ∧ (e.behaviour before.submission.agent).Onward q before.state

theorem Turn.wellFounded (finite : ∀ agent, (e.behaviour agent).Finite) :
    WellFounded (Turn.Onward (e := e)) := by
  constructor
  intro t
  obtain ⟨sub, q⟩ := t
  induction q using (finite sub.agent).induction with
  | _ q ih =>
    constructor
    rintro _ ⟨q', rfl, onward⟩
    exact ih q' onward

/-! ## Each step takes something away -/

theorem slotsOf_submit (p : Planner β) (sub : Submission β) :
    (Planner.slotsOf (p.submit sub).queue).length = (Planner.slotsOf p.queue).length + 1 := by
  simp [Planner.submit, Planner.put, Planner.slotsOf]

theorem slotsOf_complete (p : Planner β) :
    Planner.slotsOf p.complete.queue = Planner.slotsOf p.queue := by
  simp [Planner.complete, Planner.put, Planner.slotsOf]

theorem LoopStep.lowers {s t : e.Stage} (step : LoopStep s t) (counted : Counted s) :
    t.loop.prelude < s.loop.prelude ∨ t.loop.prelude = s.loop.prelude ∧ t.burden < s.burden := by
  have tally := counted.tally
  cases step with
  | name id at_ =>
    left
    simp [at_, Loop.prelude]
  | schedule start at_ _ _ | invalid f at_ _ | unscheduled f at_ _ =>
    left
    simp [at_, Loop.prelude]
  | count left at_ =>
    right
    rw [at_]
    by_cases waits : s.planner.countDown.isWaiting = true
    · rw [if_pos waits]
      simp [Loop.prelude, Stage.burden, Loop.burden, at_, Planner.countDown]
    · rw [if_neg waits]
      simp [Loop.prelude, Stage.burden, Loop.burden, at_, Planner.countDown]
  | call batch p at_ drained _ =>
    right
    obtain ⟨nonempty, turns, rfl⟩ := Planner.drain_call drained
    have some : 0 < batch.length := List.length_pos_iff.mpr nonempty
    have queue : (Planner.slotsOf s.planner.queue).length = batch.length := by
      rw [Planner.slotsOf_of_turns? turns, List.length_map]
    constructor
    · simp [at_, Loop.prelude]
    · simp only [Stage.burden, Loop.burden, at_, queue, Planner.dispatch, Planner.slotsOf_nil, List.length_map,
        List.length_nil]
      omega
  | refuse batch p at_ drained _ =>
    right
    obtain ⟨-, -, rfl⟩ := Planner.drain_call drained
    constructor
    · simp [at_, Loop.prelude]
    · simp only [Stage.burden, Loop.burden, at_, Planner.dispatch, Planner.slotsOf_nil, List.length_nil]
      omega
  | stop p at_ drained =>
    right
    obtain ⟨-, rfl⟩ := Planner.drain_done drained
    constructor
    · simp [at_, Loop.prelude]
    · simp only [Stage.burden, Loop.burden, at_, Planner.slotsOf_nil, List.length_nil]
      omega
  | finish batch outcomes at_ _ _ =>
    right
    simp [at_, Loop.prelude, Stage.burden, Loop.burden, Stage.note]
  | giveUp batch outcomes f at_ _ _ =>
    right
    rw [at_] at tally
    obtain ⟨-, turns, -⟩ := tally
    have slots : s.planner.abort.1.length = batch.length + (Planner.slotsOf s.planner.queue).length := by
      rw [(Planner.abort_openSlots _).1, Planner.openSlots_eq, turns, List.length_append, List.length_map]
    constructor
    · simp [at_, Loop.prelude]
    · simp only [Stage.burden, Loop.burden, at_, Stage.note, slots]
      simp only [Planner.abort, Planner.slotsOf_nil, List.length_nil]
      omega
  | acknowledge left at_ =>
    right
    simp [at_, Loop.prelude, Stage.burden, Loop.burden, Planner.acknowledge]
    omega
  | assign slot left at_ =>
    right
    simp [at_, Loop.prelude, Stage.burden, Loop.burden]
  | failNext slot rest f at_ =>
    right
    simp [at_, Loop.prelude, Stage.burden, Loop.burden]
  | failed f at_ =>
    right
    simp [at_, Loop.prelude, Stage.burden, Loop.burden]
  | leave r at_ =>
    right
    simp [at_, Loop.prelude, Stage.burden, Loop.burden]

/-- A list is one of its members and the others, and so it stays when the member changes. -/
theorem perm_of_getElem? {α : Type} {l : List α} {i : Nat} {a : α} (there : l[i]? = some a) (b : α) :
    l.Perm (a :: l.eraseIdx i) ∧ (l.set i b).Perm (b :: l.eraseIdx i) := by
  obtain ⟨inside, rfl⟩ := List.getElem?_eq_some_iff.mp there
  constructor
  · exact (List.getElem_cons_eraseIdx_perm inside).symm
  · have inside' : i < (l.set i b).length := by rwa [List.length_set]
    have perm := List.getElem_cons_eraseIdx_perm inside'
    rw [List.getElem_set_self, List.eraseIdx_set_eq] at perm
    exact perm.symm

/-- An activity whose answer is taken is not under way any more. -/
theorem sum_burden_eraseIdx {errands : List (Errand β)} {i : Nat} {o : StepOrder} {r : Result StepReport}
    (there : errands[i]? = some (.finished o r)) :
    ((errands.eraseIdx i).map Errand.burden).sum + 1 = (errands.map Errand.burden).sum := by
  obtain ⟨perm, -⟩ := perm_of_getElem? there (.finished o r)
  have sums := (perm.map Errand.burden).sum_eq
  rw [List.map_cons, List.sum_cons] at sums
  simp only [Errand.burden] at sums
  omega

theorem FlowStep.lowers {x : σ} {s t : e.Stage} (step : FlowStep x s t) : t.burden < s.burden := by
  cases step with
  | order o next at_ =>
    simp [Stage.burden, at_, Flow.burden, Drive.burden, Errand.burden]
    omega
  | orderAll os next at_ =>
    have sum : (os.map fun _ => 11).sum = 11 * os.length := by
      rw [List.map_const', List.sum_replicate, smul_eq_mul, Nat.mul_comm]
    simp [Stage.burden, at_, Flow.burden, Drive.burden, Errand.burden, Function.comp_def]
    omega
  | report i missing o r next at_ finished =>
    have less := sum_burden_eraseIdx finished
    simp only [Stage.burden, at_, Flow.burden]
    omega
  | fail i missing o f next at_ finished =>
    have less := sum_burden_eraseIdx finished
    have enough : 4 ≤ next.burden := Drive.four_le_burden next
    simp only [Stage.burden, at_, Flow.burden, Visit.burden]
    omega
  | refuse q f next at_ =>
    have enough : 4 ≤ (next true).burden := Drive.four_le_burden _
    simp only [Stage.burden, at_, Flow.burden, Visit.burden]
    omega
  | branch q b next at_ =>
    cases b <;> (simp only [Stage.burden, at_, Flow.burden, Visit.burden]; omega)
  | release v at_ =>
    simp only [Stage.burden, at_, Flow.burden, Visit.burden, slotsOf_complete]
    omega
  | iteration n next at_ | skip i next at_ | resume next at_ | askExit o next at_ | askCondition o next at_
  | find q next at_ _ | miss q next known at_ _ | evaluate q next at_ | finish at_ | findLoop v at_ _
  | missLoop v at_ _ | close v at_ =>
    simp only [Stage.burden, at_, Flow.burden, Drive.burden, Visit.burden]
    omega

/-- An activity that goes on weighs less than before. -/
theorem sum_burden_set {errands : List (Errand β)} {i : Nat} {before : Errand β}
    (there : errands[i]? = some before) (after : Errand β) :
    ((errands.set i after).map Errand.burden).sum + before.burden =
      (errands.map Errand.burden).sum + after.burden := by
  obtain ⟨old, new⟩ := perm_of_getElem? there after
  have oldSum := (old.map Errand.burden).sum_eq
  have newSum := (new.map Errand.burden).sum_eq
  rw [List.map_cons, List.sum_cons] at oldSum newSum
  omega

theorem ErrandStep.lowers {s t : e.Stage} {before after : Errand β} {i : Nat}
    (there : s.errands[i]? = some before) (step : ErrandStep s before t after) :
    ({ t with errands := t.errands.set i after } : e.Stage).burden < s.burden := by
  have sum := sum_burden_set there after
  cases step with
  | submit o agent =>
    simp only [Stage.burden, Stage.submit, slotsOf_submit]
    simp only [Errand.burden] at sum
    omega
  | _ =>
    simp only [Stage.burden]
    simp only [Errand.burden] at sum
    omega

/-- All that is left to do. -/
def Stage.rest (s : e.Stage) : Nat × Nat × Multiset e.Turn := (s.loop.prelude, s.burden, ↑s.turns)

/-- Less is left to do. -/
def Less : (after before : Nat × Nat × Multiset e.Turn) → Prop :=
  Prod.Lex (· < ·) (Prod.Lex (· < ·) (Relation.CutExpand Turn.Onward))

/-- A turn that goes on is replaced by one that is further on. -/
theorem cutExpand_set {turns : List e.Turn} {i : Nat} {before after : e.Turn} (there : turns[i]? = some before)
    (onward : Turn.Onward after before) :
    Relation.CutExpand Turn.Onward (↑(turns.set i after) : Multiset e.Turn) ↑turns := by
  obtain ⟨old, new⟩ := perm_of_getElem? there after
  rw [Multiset.coe_eq_coe.mpr old, Multiset.coe_eq_coe.mpr new, ← Multiset.cons_coe, ← Multiset.cons_coe,
    ← Multiset.singleton_add, ← Multiset.singleton_add]
  exact Relation.cutExpand_single_add onward _

theorem Step.lowers {s t : e.Stage} {x y : σ} (step : Step s x t y) (counted : Counted s) :
    Less t.rest s.rest := by
  have lower {t : e.Stage} (loop : t.loop = s.loop) (less : t.burden < s.burden) : Less t.rest s.rest := by
    unfold Less Stage.rest
    rw [loop]
    exact .right _ (.left _ _ less)
  cases step with
  | loop step =>
    rcases step.lowers counted with less | ⟨same, less⟩
    · exact .left _ _ less
    · unfold Less Stage.rest
      rw [same]
      exact .right _ (.left _ _ less)
  | flow step => exact lower step.frame.1 step.lowers
  | errand i there step =>
    apply lower _ (step.lowers there)
    rcases step.frame with rfl | ⟨o, agent, -, rfl, -⟩ <;> rfl
  | perform i at_ there moves =>
    rename_i batch turn q
    have inside := (List.getElem?_eq_some_iff.mp there).1
    have burden : ({ s with loop := .running (batch.set i ⟨turn.submission, q⟩) } : e.Stage).burden = s.burden := by
      simp only [Stage.burden, Loop.burden, at_, List.length_set]
    have onward : Turn.Onward (⟨turn.submission, q⟩ : e.Turn) turn := ⟨q, rfl, x, y, moves⟩
    have turns : (s.turns)[i]? = some turn := by
      rw [Stage.turns, at_, Loop.turns, List.getElem?_append_left inside, there]
    have after := cutExpand_set turns onward
    rw [Stage.turns, at_, Loop.turns, List.set_append_left _ _ inside] at after
    unfold Less Stage.rest
    rw [burden, Stage.turns, Stage.turns, at_]
    exact .right _ (.right _ after)
  | linger i there moves =>
    rename_i turn q
    have inside := (List.getElem?_eq_some_iff.mp there).1
    have onward : Turn.Onward (⟨turn.submission, q⟩ : e.Turn) turn := ⟨q, rfl, x, y, moves⟩
    have after := cutExpand_set there onward
    have whole := (Relation.cutExpand_add_left (↑s.loop.turns : Multiset e.Turn)).mpr after
    rw [Multiset.coe_add, Multiset.coe_add] at whole
    exact .right _ (.right _ whole)

/-- If no agent can be kept going for good, no schedule of the orchestration goes on for good, whatever is done to
the shared state between two steps. -/
theorem wellFounded_step (finite : ∀ agent, (e.behaviour agent).Finite) :
    WellFounded fun after before : e.Stage =>
      Reachable before ∧ ∃ x y, Step before x after y := by
  have less : WellFounded (Less (e := e)) := by
    apply WellFounded.prod_lex Nat.lt_wfRel.wf
    apply WellFounded.prod_lex Nat.lt_wfRel.wf
    exact (Turn.wellFounded finite).cutExpand
  have rests : WellFounded fun after before : e.Stage => Less after.rest before.rest := InvImage.wf Stage.rest less
  refine Subrelation.wf ?_ rests
  rintro after before ⟨reach, x, y, step⟩
  exact step.lowers reach.counted

end Ensemble
end Rendezvous
