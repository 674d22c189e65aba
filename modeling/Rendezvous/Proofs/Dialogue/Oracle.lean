import Mathlib.Data.List.Basic
import Rendezvous.Hub.Pacing

/-!
# An orchestration and whoever answers it

The activities that serve an orchestration may answer as they like: an `Oracle` answers each request, and each answer may
depend on all that has been asked and answered before.  Over an oracle, the course of an orchestration is walked from
answer to answer (`Drive.Walks`), and its progress and its failure are what the answers say (`Drive.Walks.steps_eq`,
`Drive.Walks.failure_eq`).
-/

namespace Rendezvous

set_option autoImplicit false

/-- A request, and what has come of it. -/
inductive Reply where
  | step (order : StepOrder) (r : Result StepReport)
  | checkExit (order : ExitOrder) (r : Result Bool)
  | checkCondition (order : ConditionOrder) (r : Result Bool)
  | complete (plannerId : String) (r : Result Unit)

namespace Reply

def request : Reply → OrchestrationRequest
  | step o _ => .step o
  | checkExit o _ => .checkExit o
  | checkCondition o _ => .checkCondition o
  | complete id _ => .complete id

def failure? : Reply → Option Failure
  | step _ r => Act.failure? r
  | checkExit _ r | checkCondition _ r => Act.failure? r
  | complete _ r => Act.failure? r

/-- The report of a step that has succeeded. -/
def report? : Reply → Option StepReport
  | step _ (.ok r) => some r
  | _ => none

/-- What has come of one of several steps. -/
def ofStep (outcome : StepOrder × Result StepReport) : Reply := step outcome.1 outcome.2

end Reply

/-- What all requests are answered, given what has been answered before. -/
structure Oracle where
  step : List Reply → StepOrder → Result StepReport
  /-- What comes of steps that run at the same time, in the order in which it comes. -/
  gather : List Reply → List StepOrder → List (StepOrder × Result StepReport)
  checkExit : List Reply → ExitOrder → Result Bool
  checkCondition : List Reply → ConditionOrder → Result Bool
  complete : List Reply → String → Result Unit

namespace Oracle

/-- Answer a request, and remember it. -/
def reply {α γ : Type} (make : α → Result γ → Reply) (answer : List Reply → α → Result γ) (a : α) :
    StateM (List Reply) (Result γ) := fun past => (answer past a, past ++ [make a (answer past a)])

theorem reply_of_eq {α γ : Type} {make : α → Result γ → Reply} {answer : List Reply → α → Result γ} {a : α}
    {past : List Reply} {r : Result γ} (answers : answer past a = r) :
    reply make answer a past = (r, past ++ [make a r]) := by
  rw [reply, answers]

/-- What is asked first is answered first. -/
theorem bind_run {α γ : Type} {x : StateM (List Reply) α} {past past' : List Reply} {a : α} (answers : x past = (a, past'))
    (rest : α → StateM (List Reply) γ) : (x >>= rest).run past = (rest a).run past' := by
  show (fun answer : α × List Reply => rest answer.1 answer.2) (x past) = rest a past'
  rw [answers]

/-- A request is answered, and then the others are. -/
theorem reply_bind {α γ δ : Type} {make : α → Result γ → Reply} {answer : List Reply → α → Result γ} {a : α}
    {past replies : List Reply} {r : Result γ} {x : δ} (answers : answer past a = r)
    {rest : Result γ → StateM (List Reply) δ}
    (runs : (rest r).run (past ++ [make a r]) = (x, past ++ [make a r] ++ replies)) :
    (reply make answer a >>= rest).run past = (x, past ++ make a r :: replies) := by
  rw [bind_run (reply_of_eq answers), runs, List.append_assoc]
  rfl

/-- The activities that an oracle answers for. -/
def activities (oracle : Oracle) : Activities (StateM (List Reply)) where
  step _ := reply .step oracle.step
  steps _ orders past :=
    ((oracle.gather past orders).map Prod.snd, past ++ (oracle.gather past orders).map Reply.ofStep)
  checkExit _ := reply .checkExit oracle.checkExit
  checkCondition _ := reply .checkCondition oracle.checkCondition
  complete status := reply .complete oracle.complete status.plannerId

theorem steps_of_eq {oracle : Oracle} {past : List Reply} {os : List StepOrder} {p : Progress}
    {outcomes : List (StepOrder × Result StepReport)} (gathers : oracle.gather past os = outcomes) :
    oracle.activities.steps p os past = (outcomes.map Prod.snd, past ++ outcomes.map Reply.ofStep) := by
  rw [← gathers]
  rfl

end Oracle

/-- Of outcomes that come together, the reports are kept and the first failure counts. -/
theorem Progress.reportAll_eq (p : Progress) (outcomes : List (StepOrder × Result StepReport)) :
    p.reportAll (outcomes.map Prod.snd) =
      ({ p with steps := p.steps ++ (outcomes.map Reply.ofStep).filterMap Reply.report? },
        (outcomes.map Reply.ofStep).findSome? Reply.failure?) := by
  unfold reportAll
  -- the fold goes on from any failure so far
  generalize start : (none : Option Failure) = f
  rw [show (outcomes.map Reply.ofStep).findSome? Reply.failure? =
    f.or ((outcomes.map Reply.ofStep).findSome? Reply.failure?) by rw [← start, Option.none_or]]
  clear start
  induction outcomes generalizing p f with
  | nil => simp
  | cons outcome rest ih =>
    obtain ⟨o, r⟩ := outcome
    cases r with
    | ok r =>
      refine (ih (p.report r) f).trans ?_
      simp [Progress.report, Reply.ofStep, Reply.report?, Reply.failure?, Act.failure?, List.findSome?_cons]
    | error g =>
      refine (ih p (f.or (some g))).trans ?_
      cases f <;> simp [Reply.ofStep, Reply.report?, Reply.failure?, Act.failure?, List.findSome?_cons,
        List.filterMap_cons]

namespace Drive

/-- The walk of a course: the answers on the way, how far it comes, and the failure that it stops at.  `Together` says what
may come of steps that run at the same time. -/
inductive Walks (Together : List StepOrder → List (StepOrder × Result StepReport) → Prop) :
    Drive → Progress → List Reply → Progress → Option Failure → Prop
  | finish (p : Progress) : Walks Together .finish p [] p none
  | iteration {n : Nat} {next : Unit → Drive} {p p' : Progress} {replies : List Reply} {f : Option Failure}
      (rest : Walks Together (next ()) { p with iteration := n } replies p' f) :
      Walks Together (.iteration n next) p replies p' f
  | skip {i : Nat} {next : Drive} {p p' : Progress} {replies : List Reply} {f : Option Failure}
      (rest : Walks Together next { p with skipped := p.skipped ++ [i] } replies p' f) :
      Walks Together (.skip i next) p replies p' f
  | step {o : StepOrder} {next : Drive} {p p' : Progress} {replies : List Reply} {f : Option Failure} (r : StepReport)
      (rest : Walks Together next (p.report r) replies p' f) :
      Walks Together (.step o next) p (.step o (.ok r) :: replies) p' f
  | stepFails {o : StepOrder} {next : Drive} {p : Progress} (f : Failure) :
      Walks Together (.step o next) p [.step o (.error f)] p (some f)
  | steps {os : List StepOrder} {next : Drive} {p q p' : Progress} {replies : List Reply} {f : Option Failure}
      (outcomes : List (StepOrder × Result StepReport)) (together : Together os outcomes)
      (all : p.reportAll (outcomes.map Prod.snd) = (q, none)) (rest : Walks Together next q replies p' f) :
      Walks Together (.steps os next) p (outcomes.map Reply.ofStep ++ replies) p' f
  | stepsFail {os : List StepOrder} {next : Drive} {p q : Progress} (f : Failure)
      (outcomes : List (StepOrder × Result StepReport)) (together : Together os outcomes)
      (all : p.reportAll (outcomes.map Prod.snd) = (q, some f)) :
      Walks Together (.steps os next) p (outcomes.map Reply.ofStep) q (some f)
  | checkExit {o : ExitOrder} {next : Bool → Drive} {p p' : Progress} {replies : List Reply} {f : Option Failure}
      (holds : Bool) (rest : Walks Together (next holds) p replies p' f) :
      Walks Together (.checkExit o next) p (.checkExit o (.ok holds) :: replies) p' f
  | checkExitFails {o : ExitOrder} {next : Bool → Drive} {p : Progress} (f : Failure) :
      Walks Together (.checkExit o next) p [.checkExit o (.error f)] p (some f)
  | checkCondition {o : ConditionOrder} {next : Bool → Drive} {p p' : Progress} {replies : List Reply}
      {f : Option Failure} (holds : Bool) (rest : Walks Together (next holds) p replies p' f) :
      Walks Together (.checkCondition o next) p (.checkCondition o (.ok holds) :: replies) p' f
  | checkConditionFails {o : ConditionOrder} {next : Bool → Drive} {p : Progress} (f : Failure) :
      Walks Together (.checkCondition o next) p [.checkCondition o (.error f)] p (some f)

variable {Together : List StepOrder → List (StepOrder × Result StepReport) → Prop}

/-- Over an oracle, a course is walked. -/
theorem run_walks (oracle : Oracle) (together : ∀ past os, Together os (oracle.gather past os)) (d : Drive)
    (p : Progress) (past : List Reply) :
    ∃ replies p' f, (d.run oracle.activities p).run past = ((p', f), past ++ replies) ∧
      Walks Together d p replies p' f := by
  induction d generalizing p past with
  | finish => exact ⟨[], p, none, by rw [List.append_nil]; rfl, .finish p⟩
  | iteration n next ih =>
    obtain ⟨replies, p', f, runs, walks⟩ := ih () { p with iteration := n } past
    exact ⟨replies, p', f, runs, .iteration walks⟩
  | skip i next ih =>
    obtain ⟨replies, p', f, runs, walks⟩ := ih { p with skipped := p.skipped ++ [i] } past
    exact ⟨replies, p', f, runs, .skip walks⟩
  | step o next ih =>
    cases answers : oracle.step past o with
    | error f => exact ⟨_, p, some f, Oracle.bind_run (Oracle.reply_of_eq answers) _, .stepFails f⟩
    | ok r =>
      obtain ⟨replies, p', f, runs, walks⟩ := ih (p.report r) (past ++ [.step o (.ok r)])
      exact ⟨.step o (.ok r) :: replies, p', f, Oracle.reply_bind answers runs, .step r walks⟩
  | steps os next ih =>
    rcases all : p.reportAll ((oracle.gather past os).map Prod.snd) with ⟨q, _ | f⟩
    · obtain ⟨replies, p', f, runs, walks⟩ := ih q (past ++ (oracle.gather past os).map Reply.ofStep)
      refine ⟨_, p', f, ?_, .steps _ (together past os) all walks⟩
      refine (Oracle.bind_run (Oracle.steps_of_eq rfl) _).trans ?_
      rw [all, ← List.append_assoc]
      exact runs
    · refine ⟨_, q, some f, ?_, .stepsFail f _ (together past os) all⟩
      refine (Oracle.bind_run (Oracle.steps_of_eq rfl) _).trans ?_
      rw [all]
      rfl
  | checkExit o next ih =>
    cases answers : oracle.checkExit past o with
    | error f =>
      refine ⟨_, p, some f, ?_, .checkExitFails f⟩
      rw [Drive.run]
      exact Oracle.bind_run (Oracle.reply_of_eq answers) _
    | ok holds =>
      obtain ⟨replies, p', f, runs, walks⟩ := ih holds p (past ++ [.checkExit o (.ok holds)])
      refine ⟨.checkExit o (.ok holds) :: replies, p', f, ?_, .checkExit holds walks⟩
      rw [Drive.run]
      exact Oracle.reply_bind answers runs
  | checkCondition o next ih =>
    cases answers : oracle.checkCondition past o with
    | error f =>
      refine ⟨_, p, some f, ?_, .checkConditionFails f⟩
      rw [Drive.run]
      exact Oracle.bind_run (Oracle.reply_of_eq answers) _
    | ok holds =>
      obtain ⟨replies, p', f, runs, walks⟩ := ih holds p (past ++ [.checkCondition o (.ok holds)])
      refine ⟨.checkCondition o (.ok holds) :: replies, p', f, ?_, .checkCondition holds walks⟩
      rw [Drive.run]
      exact Oracle.reply_bind answers runs

/-- What has been reported is what the answers have reported. -/
theorem Walks.steps_eq {d : Drive} {p p' : Progress} {replies : List Reply} {f : Option Failure}
    (walks : Walks Together d p replies p' f) : p'.steps = p.steps ++ replies.filterMap Reply.report? := by
  induction walks with
  | finish p => exact (List.append_nil _).symm
  | iteration _ ih | skip _ ih => exact ih
  | step r _ ih => exact ih.trans (List.append_assoc _ _ _)
  | stepFails f | checkExitFails f | checkConditionFails f => exact (List.append_nil _).symm
  | steps outcomes _ all _ ih =>
    rw [Progress.reportAll_eq] at all
    obtain ⟨rfl, -⟩ := Prod.mk.inj all
    rw [ih, List.filterMap_append, List.append_assoc]
  | stepsFail f outcomes _ all =>
    rw [Progress.reportAll_eq] at all
    obtain ⟨rfl, -⟩ := Prod.mk.inj all
    rfl
  | checkExit _ _ ih | checkCondition _ _ ih => exact ih

/-- The failure that a walk stops at is the first of the answers. -/
theorem Walks.failure_eq {d : Drive} {p p' : Progress} {replies : List Reply} {f : Option Failure}
    (walks : Walks Together d p replies p' f) : replies.findSome? Reply.failure? = f := by
  induction walks with
  | finish p | stepFails f | checkExitFails f | checkConditionFails f => rfl
  | iteration _ ih | skip _ ih | step _ _ ih | checkExit _ _ ih | checkCondition _ _ ih => exact ih
  | steps outcomes _ all _ ih =>
    rw [Progress.reportAll_eq] at all
    rw [List.findSome?_append, (Prod.mk.inj all).2, ih, Option.none_or]
  | stepsFail f outcomes _ all =>
    rw [Progress.reportAll_eq] at all
    exact (Prod.mk.inj all).2

end Drive
end Rendezvous
