import Rendezvous.Proofs.Dialogue.Oracle
import Rendezvous.Proofs.Recording.Orders

/-!
# The workflow of an orchestration, step by step

A walk is the workflow of an orchestration at one time: where it is in its course, which steps are under way, and what has
been asked and replied so far.  Whoever serves a request may reply at any time, and the steps that are under way end in any
order, also after one of them has failed and the drive is over; but the workflow asks for all steps of a gathering before it
takes notice of that.  The drive being over, the workflow asks for the release of the loop, and ends when it has been
released.

Every step takes something away (`Step.burden`), and until the end there is one that can be taken (`goesOn`).
-/

namespace Rendezvous

set_option autoImplicit false

namespace Walk

/-- Something that a workflow asks for or is replied. -/
inductive Entry where
  | asked (q : OrchestrationRequest)
  | replied (a : Reply)

/-- Where a workflow stands. -/
inductive Place where
  | going (d : Drive)
  /-- Steps run side by side, some have not been asked for yet, and some may have failed. -/
  | gathering (unasked : List StepOrder) (failure : Option Failure) (next : Drive)
  /-- Something has been asked that the course depends on. -/
  | asking (q : Ensemble.Question) (next : Bool → Drive)
  /-- The drive is over. -/
  | decided (outcome : Result OrchestrationResult)
  /-- The release of the loop has been asked for. -/
  | releasing (outcome : Result OrchestrationResult)
  | ended (outcome : Result OrchestrationResult)

namespace Place

/-- What the drive has come to, once it is over. -/
def outcome? : Place → Option (Result OrchestrationResult)
  | decided v | releasing v | ended v => some v
  | _ => none

/-- Whether the release of the loop has been asked for. -/
def hasReleased : Place → Bool
  | releasing _ | ended _ => true
  | _ => false

def isEnded : Place → Bool
  | ended _ => true
  | _ => false

theorem eq_ended {place : Place} (end_ : place.isEnded = true) : ∃ v, place = ended v := by
  cases place with
  | ended v => exact ⟨v, rfl⟩
  | going d | gathering unasked failure next | asking q next | decided v | releasing v => cases end_

/-- The steps of a gathering that have not been asked for yet. -/
def unasked : Place → List StepOrder
  | gathering unasked _ _ => unasked
  | _ => []

end Place
end Walk

/-- What a question comes to. -/
def Ensemble.Question.reply : Ensemble.Question → Result Bool → Reply
  | exit o => .checkExit o
  | condition o => .checkCondition o

/-- The workflow of an orchestration at one time. -/
structure Walk where
  place : Walk.Place
  progress : Progress := {}
  /-- The steps that have been asked for and not been replied. -/
  underway : List StepOrder := []
  history : List Walk.Entry := []

namespace Walk

/-- The workflow before it has asked for anything. -/
def opening (s : OrchestrationStart) : Walk := { place := .going (Drive.of s) }

/-- What the workflow says when it is asked how it is doing. -/
def status (s : OrchestrationStart) (w : Walk) : OrchestrationStatus :=
  match w.place.outcome? with
  | none => w.progress.status s .running none
  | some (.ok _) => w.progress.status s .completed none
  | some (.error f) => w.progress.status s .failed (some f.message)

/-- Go somewhere, and note something. -/
def goTo (w : Walk) (place : Place) (entries : List Entry) : Walk :=
  { w with place, history := w.history ++ entries }

/-- A step that has been under way is replied. -/
def close (w : Walk) (i : Nat) (o : StepOrder) (r : Result StepReport) : Walk :=
  { w with underway := w.underway.eraseIdx i, history := w.history ++ [.replied (.step o r)] }

/-- One step of the workflow, or of those who serve its requests. -/
inductive Step (s : OrchestrationStart) : Walk → Walk → Prop
  | iteration (w : Walk) (n : Nat) (next : Unit → Drive) (at_ : w.place = .going (.iteration n next)) :
      Step s w { w with place := .going (next ()), progress := { w.progress with iteration := n } }
  | skip (w : Walk) (i : Nat) (next : Drive) (at_ : w.place = .going (.skip i next)) :
      Step s w { w with
        place := .going next, progress := { w.progress with skipped := w.progress.skipped ++ [i] } }
  | order (w : Walk) (o : StepOrder) (next : Drive) (at_ : w.place = .going (.step o next)) :
      Step s w (w.goTo (.gathering [o] none next) [])
  | orderAll (w : Walk) (os : List StepOrder) (next : Drive) (at_ : w.place = .going (.steps os next)) :
      Step s w (w.goTo (.gathering os none next) [])
  | ask (w : Walk) (o : StepOrder) (rest : List StepOrder) (failure : Option Failure) (next : Drive)
      (at_ : w.place = .gathering (o :: rest) failure next) :
      Step s w { w.goTo (.gathering rest failure next) [.asked (.step o)] with underway := w.underway ++ [o] }
  | succeed (w : Walk) (i : Nat) (o : StepOrder) (r : StepReport) (there : w.underway[i]? = some o)
      (goes : w.place.isEnded = false) : Step s w { w.close i o (.ok r) with progress := w.progress.report r }
  | fail (w : Walk) (i : Nat) (o : StepOrder) (f : Failure) (unasked : List StepOrder) (failure : Option Failure)
      (next : Drive) (there : w.underway[i]? = some o) (at_ : w.place = .gathering unasked failure next) :
      Step s w { w.close i o (.error f) with place := .gathering unasked (failure.or (some f)) next }
  /-- The drive is over, and nobody takes notice. -/
  | failLate (w : Walk) (i : Nat) (o : StepOrder) (f : Failure) (there : w.underway[i]? = some o)
      (late : w.place.outcome?.isSome = true) (goes : w.place.isEnded = false) : Step s w (w.close i o (.error f))
  | join (w : Walk) (next : Drive) (at_ : w.place = .gathering [] none next) (all : w.underway = []) :
      Step s w (w.goTo (.going next) [])
  | giveUp (w : Walk) (f : Failure) (next : Drive) (at_ : w.place = .gathering [] (some f) next) :
      Step s w (w.goTo (.decided (.error f)) [])
  | askExit (w : Walk) (o : ExitOrder) (next : Bool → Drive) (at_ : w.place = .going (.checkExit o next)) :
      Step s w (w.goTo (.asking (.exit o) next) [.asked (.checkExit o)])
  | askCondition (w : Walk) (o : ConditionOrder) (next : Bool → Drive)
      (at_ : w.place = .going (.checkCondition o next)) :
      Step s w (w.goTo (.asking (.condition o) next) [.asked (.checkCondition o)])
  | branch (w : Walk) (q : Ensemble.Question) (next : Bool → Drive) (b : Bool) (at_ : w.place = .asking q next) :
      Step s w (w.goTo (.going (next b)) [.replied (q.reply (.ok b))])
  | refuse (w : Walk) (q : Ensemble.Question) (next : Bool → Drive) (f : Failure) (at_ : w.place = .asking q next) :
      Step s w (w.goTo (.decided (.error f)) [.replied (q.reply (.error f))])
  | finish (w : Walk) (at_ : w.place = .going .finish) : Step s w (w.goTo (.decided (.ok (w.progress.result s))) [])
  | release (w : Walk) (v : Result OrchestrationResult) (at_ : w.place = .decided v) :
      Step s w (w.goTo (.releasing v) [.asked (.complete s.plannerId)])
  | released (w : Walk) (v : Result OrchestrationResult) (at_ : w.place = .releasing v) :
      Step s w (w.goTo (.ended v) [.replied (.complete s.plannerId (.ok ()))])

/-- What any order of replies can lead to. -/
inductive Reachable (s : OrchestrationStart) : Walk → Prop
  | opening : Reachable s (opening s)
  | step {w w' : Walk} (reach : Reachable s w) (step : Step s w w') : Reachable s w'

variable {s : OrchestrationStart} {w w' : Walk}

/-! ## Coming to an end -/

/-- How many steps the workflow may still take from a place. -/
def Place.burden : Place → Nat
  | going d => d.burden
  | gathering unasked _ next => next.burden + 2 * unasked.length + 1
  | asking _ next => max (next true).burden (next false).burden + 1
  | decided _ => 2
  | releasing _ => 1
  | ended _ => 0

def burden (w : Walk) : Nat := w.place.burden + w.underway.length

theorem burden_le_max (next : Bool → Drive) (b : Bool) :
    (next b).burden ≤ max (next true).burden (next false).burden := by
  cases b with
  | true => exact le_max_left _ _
  | false => exact le_max_right _ _

theorem length_eraseIdx_of_there {os : List StepOrder} {i : Nat} {o : StepOrder} (there : os[i]? = some o) :
    (os.eraseIdx i).length + 1 = os.length := by
  have inside := (List.getElem?_eq_some_iff.mp there).1
  rw [List.length_eraseIdx_of_lt inside]
  omega

/-- Every step takes something away. -/
theorem Step.burden (step : Step s w w') : w'.burden < w.burden := by
  unfold Walk.burden
  cases step with
  | iteration n next at_ | skip i next at_ =>
    rw [at_]
    exact Nat.add_lt_add_right (Nat.lt_succ_self _) _
  | order o next at_ | orderAll os next at_ =>
    rw [at_]
    simp only [goTo, Place.burden, Drive.burden, List.length_singleton]
    omega
  | ask o rest failure next at_ =>
    rw [at_]
    simp only [goTo, Place.burden, List.length_cons, List.length_append, List.length_nil]
    omega
  | succeed i o r there goes | failLate i o f there late goes =>
    have less := length_eraseIdx_of_there there
    simp only [close]
    omega
  | fail i o f unasked failure next there at_ =>
    have less := length_eraseIdx_of_there there
    rw [at_]
    simp only [close, Place.burden]
    omega
  | join next at_ all =>
    rw [at_]
    simp only [goTo, Place.burden, List.length_nil]
    omega
  | giveUp f next at_ =>
    have enough := next.four_le_burden
    rw [at_]
    simp only [goTo, Place.burden, List.length_nil]
    omega
  | askExit o next at_ | askCondition o next at_ =>
    rw [at_]
    simp only [goTo, Place.burden, Drive.burden]
    omega
  | branch q next b at_ =>
    have less := burden_le_max next b
    rw [at_]
    simp only [goTo, Place.burden]
    omega
  | refuse q next f at_ =>
    have enough := (next true).four_le_burden
    rw [at_]
    simp only [goTo, Place.burden]
    omega
  | finish at_ | release v at_ | released v at_ =>
    rw [at_]
    simp only [goTo, Place.burden, Drive.burden]
    omega

/-- Until the end, some step can be taken; whether a request is served well is for others to say. -/
theorem goesOn (open_ : w.place.isEnded = false) : ∃ w', Step s w w' := by
  cases at_ : w.place with
  | going d =>
    cases d with
    | finish => exact ⟨_, .finish w at_⟩
    | iteration n next => exact ⟨_, .iteration w n next at_⟩
    | step o next => exact ⟨_, .order w o next at_⟩
    | steps os next => exact ⟨_, .orderAll w os next at_⟩
    | skip i next => exact ⟨_, .skip w i next at_⟩
    | checkExit o next => exact ⟨_, .askExit w o next at_⟩
    | checkCondition o next => exact ⟨_, .askCondition w o next at_⟩
  | gathering unasked failure next =>
    cases unasked with
    | cons o rest => exact ⟨_, .ask w o rest failure next at_⟩
    | nil =>
      cases failure with
      | some f => exact ⟨_, .giveUp w f next at_⟩
      | none =>
        cases underway : w.underway with
        | nil => exact ⟨_, .join w next at_ underway⟩
        | cons o rest =>
          have there : w.underway[0]? = some o := by rw [underway]; rfl
          exact ⟨_, .succeed w 0 o { agentIndex := o.agentIndex, agentName := "", runId := o.runId } there open_⟩
  | asking q next => exact ⟨_, .branch w q next true at_⟩
  | decided v => exact ⟨_, .release w v at_⟩
  | releasing v => exact ⟨_, .released w v at_⟩
  | ended v =>
    rw [at_] at open_
    cases open_

/-- No order of replies keeps a workflow going for good. -/
theorem acc (w : Walk) : Acc (fun after before => Step s before after) w := by
  have less := InvImage.wf Walk.burden Nat.lt_wfRel.wf
  exact Subrelation.accessible (fun step => Step.burden step) (less.apply w)

end Walk
end Rendezvous
