import Rendezvous.Proofs.Release.Walk

/-!
# What a workflow keeps of its requests and replies

The progress of a workflow and the place where it stands say what has been replied so far (`Recorded`).  A step that has
been asked for is replied or under way, and nothing is under way where the course goes on (`Balanced`).  The release of the
loop is asked for when the drive is over, once and for all (`Guarded`).
-/

namespace Rendezvous

set_option autoImplicit false

namespace Walk

/-! ## Requests and replies -/

def asksOf (entries : List Entry) : List OrchestrationRequest :=
  entries.filterMap fun
    | .asked q => some q
    | .replied _ => none

def repliesOf (entries : List Entry) : List Reply :=
  entries.filterMap fun
    | .asked _ => none
    | .replied a => some a

/-- The steps that have been asked for. -/
def ordersOf (asks : List OrchestrationRequest) : List StepOrder :=
  asks.filterMap fun
    | .step o => some o
    | _ => none

/-- The steps that have been replied. -/
def closedOf (replies : List Reply) : List StepOrder :=
  replies.filterMap fun
    | .step o _ => some o
    | _ => none

/-- The steps that have succeeded, with their reports. -/
def completedOf (replies : List Reply) : List (StepOrder × StepReport) :=
  replies.filterMap fun
    | .step o (.ok r) => some (o, r)
    | _ => none

/-- A step that has succeeded has been replied. -/
theorem completedOf_sublist (replies : List Reply) :
    ((completedOf replies).map Prod.fst).Sublist (closedOf replies) := by
  induction replies with
  | nil => exact .slnil
  | cons a rest ih =>
    cases a with
    | step o r =>
      cases r with
      | ok r => exact ih.cons_cons o
      | error f => exact ih.cons o
    | checkExit o r | checkCondition o r | complete id r => exact ih

/-- Where nothing has failed, every step that has been replied has succeeded. -/
theorem completedOf_of_fine {replies : List Reply} (fine : replies.findSome? Reply.failure? = none) :
    (completedOf replies).map Prod.fst = closedOf replies := by
  induction replies with
  | nil => rfl
  | cons a rest ih =>
    rw [List.findSome?_eq_none_iff, List.forall_mem_cons, ← List.findSome?_eq_none_iff] at fine
    cases a with
    | step o r =>
      cases r with
      | ok r => exact congrArg (o :: ·) (ih fine.2)
      | error f => cases fine.1
    | checkExit o r | checkCondition o r | complete id r => exact ih fine.2

section Histories

variable (w : Walk) (place : Place) (entries : List Entry) (i : Nat) (o : StepOrder) (r : Result StepReport)

def asks : List OrchestrationRequest := asksOf w.history

def replies : List Reply := repliesOf w.history

def orders : List StepOrder := ordersOf w.asks

def closed : List StepOrder := closedOf w.replies

def completed : List (StepOrder × StepReport) := completedOf w.replies

theorem asks_goTo : (w.goTo place entries).asks = w.asks ++ asksOf entries := List.filterMap_append

theorem replies_goTo : (w.goTo place entries).replies = w.replies ++ repliesOf entries := List.filterMap_append

theorem orders_goTo : (w.goTo place entries).orders = w.orders ++ ordersOf (asksOf entries) := by
  rw [orders, asks_goTo]
  exact List.filterMap_append

theorem closed_goTo : (w.goTo place entries).closed = w.closed ++ closedOf (repliesOf entries) := by
  rw [closed, replies_goTo]
  exact List.filterMap_append

theorem completed_goTo : (w.goTo place entries).completed = w.completed ++ completedOf (repliesOf entries) := by
  rw [completed, replies_goTo]
  exact List.filterMap_append

theorem asks_close : (w.close i o r).asks = w.asks := List.filterMap_append.trans (List.append_nil _)

theorem replies_close : (w.close i o r).replies = w.replies ++ [.step o r] := List.filterMap_append

theorem orders_close : (w.close i o r).orders = w.orders := congrArg ordersOf (w.asks_close i o r)

theorem closed_close : (w.close i o r).closed = w.closed ++ [o] := by
  rw [closed, replies_close]
  exact List.filterMap_append

theorem completed_close : (w.close i o r).completed = w.completed ++ completedOf [.step o r] := by
  rw [completed, replies_close]
  exact List.filterMap_append

theorem failure?_close :
    (w.close i o r).replies.findSome? Reply.failure? = (w.replies.findSome? Reply.failure?).or (Act.failure? r) := by
  rw [replies_close, List.findSome?_append]
  cases r <;> rfl

end Histories

variable {s : OrchestrationStart} {w w' : Walk}

/-! ## Which steps are under way -/

/-- The first failure so far, as the place says. -/
def Place.failure? : Place → Option Failure
  | going _ | asking _ _ => none
  | gathering _ failure _ => failure
  | decided v | releasing v | ended v => Act.failure? v

/-- Whether no step is under way at a place. -/
def Place.quiet : Place → Bool
  | going _ | asking _ _ => true
  | gathering _ _ _ => false
  | decided v | releasing v | ended v => (Act.failure? v).isNone

/-- When the drive is over, what it has come to says whether it has failed, and steps are under way only if it has. -/
theorem Place.of_outcome? {place : Place} {v : Result OrchestrationResult} (decided : place.outcome? = some v) :
    place.failure? = Act.failure? v ∧ place.quiet = (Act.failure? v).isNone := by
  cases place with
  | decided v | releasing v | ended v =>
    cases decided
    exact ⟨rfl, rfl⟩
  | going d | gathering unasked failure next | asking q next => cases decided

/-- A step that has been asked for has been replied or is under way; where nothing is, the progress stays as it is. -/
structure Balanced (s : OrchestrationStart) (w : Walk) : Prop where
  account : (w.closed ++ w.underway).Perm w.orders
  idle : w.place.quiet = true → w.underway = []
  result : ∀ r, w.place.outcome? = some (.ok r) → r = w.progress.result s

/-- The workflow has gone on, and neither asked for a step nor been replied one. -/
theorem Balanced.goTo {place : Place} {entries : List Entry} (balanced : Balanced s w)
    (orders : ordersOf (asksOf entries) = []) (closed : closedOf (repliesOf entries) = [])
    (idle : place.quiet = true → w.underway = [])
    (result : ∀ r, place.outcome? = some (.ok r) → r = w.progress.result s) : Balanced s (w.goTo place entries) := by
  refine ⟨?_, idle, result⟩
  rw [orders_goTo, closed_goTo, orders, closed, List.append_nil, List.append_nil]
  exact balanced.account

/-- A step that has been replied is no longer under way. -/
theorem Balanced.account_close {i : Nat} {o : StepOrder} (balanced : Balanced s w) (there : w.underway[i]? = some o)
    (r : Result StepReport) : ((w.close i o r).closed ++ w.underway.eraseIdx i).Perm (w.close i o r).orders := by
  obtain ⟨inside, rfl⟩ := List.getElem?_eq_some_iff.mp there
  rw [closed_close, orders_close, List.append_assoc]
  exact ((List.getElem_cons_eraseIdx_perm inside).append_left _).trans balanced.account

/-- Where a step is under way, the drive has not come to a result. -/
theorem Balanced.not_quiet {i : Nat} {o : StepOrder} (balanced : Balanced s w) (there : w.underway[i]? = some o) :
    w.place.quiet ≠ true := by
  intro quiet
  rw [balanced.idle quiet] at there
  cases there

theorem Step.balanced (step : Step s w w') (balanced : Balanced s w) : Balanced s w' := by
  have idle := balanced.idle
  have result := balanced.result
  cases step with
  | iteration n next at_ | skip i next at_ =>
    rw [at_] at idle
    exact ⟨balanced.account, idle, nofun⟩
  | order o next at_ | orderAll os next at_ => exact balanced.goTo rfl rfl nofun nofun
  | ask o rest failure next at_ =>
    refine ⟨?_, nofun, nofun⟩
    show ((w.goTo (.gathering rest failure next) [.asked (.step o)]).closed ++ (w.underway ++ [o])).Perm
      (w.goTo (.gathering rest failure next) [.asked (.step o)]).orders
    rw [closed_goTo, orders_goTo]
    show (w.closed ++ [] ++ (w.underway ++ [o])).Perm (w.orders ++ [o])
    rw [List.append_nil, ← List.append_assoc]
    exact balanced.account.append_right [o]
  | succeed i o r there goes =>
    have busy := balanced.not_quiet there
    exact ⟨balanced.account_close there (.ok r), fun quiet => absurd quiet busy,
      fun r well => absurd (Place.of_outcome? well).2 busy⟩
  | failLate i o f there late goes =>
    exact ⟨balanced.account_close there (.error f), fun quiet => absurd quiet (balanced.not_quiet there), result⟩
  | fail i o f unasked failure next there at_ => exact ⟨balanced.account_close there (.error f), nofun, nofun⟩
  | join next at_ all => exact balanced.goTo rfl rfl (fun _ => all) nofun
  | giveUp f next at_ => exact balanced.goTo rfl rfl nofun nofun
  | askExit o next at_ | askCondition o next at_ =>
    rw [at_] at idle
    exact balanced.goTo rfl rfl idle nofun
  | branch q next b at_ =>
    rw [at_] at idle
    exact balanced.goTo rfl (by cases q <;> rfl) idle nofun
  | refuse q next f at_ => exact balanced.goTo rfl (by cases q <;> rfl) nofun nofun
  | finish at_ =>
    rw [at_] at idle
    exact balanced.goTo rfl rfl idle fun r well => (Except.ok.inj (Option.some.inj well)).symm
  | release v at_ | released v at_ =>
    rw [at_] at idle result
    exact balanced.goTo rfl rfl idle result

theorem Reachable.balanced (reach : Reachable s w) : Balanced s w := by
  induction reach with
  | opening => exact ⟨.nil, fun _ => rfl, nofun⟩
  | step _ step ih => exact step.balanced ih

/-! ## What has been replied -/

/-- The progress and the place say what has been replied. -/
structure Recorded (w : Walk) : Prop where
  steps : w.progress.steps = w.completed.map Prod.snd
  failure : w.replies.findSome? Reply.failure? = w.place.failure?

/-- The workflow has gone on without a step having succeeded. -/
theorem Recorded.goTo {place : Place} {entries : List Entry} (recorded : Recorded w)
    (silent : completedOf (repliesOf entries) = [])
    (failure : w.place.failure?.or ((repliesOf entries).findSome? Reply.failure?) = place.failure?) :
    Recorded (w.goTo place entries) := by
  refine ⟨?_, ?_⟩
  · rw [completed_goTo, silent, List.append_nil]
    exact recorded.steps
  · rw [replies_goTo, List.findSome?_append, recorded.failure]
    exact failure

/-- A step that fails leaves the progress as it is. -/
theorem Recorded.close {place : Place} {i : Nat} {o : StepOrder} {f : Failure} (recorded : Recorded w)
    (failure : (w.replies.findSome? Reply.failure?).or (some f) = place.failure?) :
    Recorded { w.close i o (.error f) with place } := by
  refine ⟨?_, (w.failure?_close i o _).trans failure⟩
  show w.progress.steps = (w.close i o (.error f)).completed.map Prod.snd
  rw [completed_close, List.map_append, recorded.steps]
  exact (List.append_nil _).symm

theorem Step.recorded (step : Step s w w') (balanced : Balanced s w) (recorded : Recorded w) : Recorded w' := by
  have failure := recorded.failure
  cases step with
  | iteration n next at_ | skip i next at_ =>
    rw [at_] at failure
    exact ⟨recorded.steps, failure⟩
  | order o next at_ | orderAll os next at_ | askExit o next at_ | askCondition o next at_ | join next at_ all
  | giveUp f next at_ | finish at_ =>
    exact recorded.goTo rfl (by rw [at_]; rfl)
  | release v at_ | released v at_ => exact recorded.goTo rfl (by rw [at_]; exact Option.or_none)
  | ask o rest failure next at_ =>
    have gone : Recorded (w.goTo (.gathering rest failure next) [.asked (.step o)]) :=
      recorded.goTo rfl (by rw [at_]; exact Option.or_none)
    exact ⟨gone.steps, gone.failure⟩
  | branch q next b at_ | refuse q next f at_ =>
    refine recorded.goTo (by cases q <;> rfl) ?_
    rw [at_]
    cases q <;> rfl
  | succeed i o r there goes =>
    refine ⟨?_, ?_⟩
    · show w.progress.steps ++ [r] = (w.close i o (.ok r)).completed.map Prod.snd
      rw [completed_close, List.map_append, recorded.steps]
      rfl
    · exact (w.failure?_close i o _).trans (Option.or_none.trans failure)
  | fail i o f unasked failure' next there at_ =>
    refine recorded.close ?_
    rw [failure, at_]
    rfl
  | failLate i o f there late goes =>
    refine recorded.close ?_
    -- a step is under way after the drive only if the drive has failed
    obtain ⟨v, decided⟩ := Option.isSome_iff_exists.mp late
    obtain ⟨blamed, quiet⟩ := Place.of_outcome? decided
    have busy := balanced.not_quiet there
    rw [failure]
    cases v with
    | ok r => exact absurd quiet busy
    | error g =>
      rw [blamed]
      rfl

theorem Reachable.recorded (reach : Reachable s w) : Recorded w := by
  induction reach with
  | opening => exact ⟨rfl, rfl⟩
  | step reach step ih => exact step.recorded reach.balanced ih

/-! ## The release of the loop -/

/-- Nothing asks for the release of the loop. -/
def Unreleased (asks : List OrchestrationRequest) : Prop := ∀ id, .complete id ∉ asks

/-- The release of the loop is asked for when the drive is over, and nothing is asked for after it. -/
structure Guarded (s : OrchestrationStart) (w : Walk) : Prop where
  before : w.place.hasReleased = false → Unreleased w.asks
  after : w.place.hasReleased = true → ∃ before, w.asks = before ++ [.complete s.plannerId] ∧ Unreleased before

/-- What a step asks for. -/
inductive Asking (s : OrchestrationStart) (w w' : Walk) : Prop
  | nothing (same : w'.asks = w.asks) (stays : w'.place.hasReleased = w.place.hasReleased)
  | request (q : OrchestrationRequest) (new : w'.asks = w.asks ++ [q]) (other : ∀ id, q ≠ .complete id)
      (before : w.place.hasReleased = false) (after : w'.place.hasReleased = false)
  | release (new : w'.asks = w.asks ++ [.complete s.plannerId]) (before : w.place.hasReleased = false)
      (after : w'.place.hasReleased = true)

theorem Step.asking (step : Step s w w') : Asking s w w' := by
  cases step with
  | iteration n next at_ | skip i next at_ => exact .nothing rfl (by rw [at_]; rfl)
  | order o next at_ | orderAll os next at_ | join next at_ all | giveUp f next at_ | finish at_ | released v at_ =>
    exact .nothing ((w.asks_goTo _ _).trans (List.append_nil _)) (by rw [at_]; rfl)
  | branch q next b at_ | refuse q next f at_ =>
    exact .nothing ((w.asks_goTo _ _).trans (List.append_nil _)) (by rw [at_]; rfl)
  | succeed i o r there goes | failLate i o f there late goes => exact .nothing (w.asks_close i o _) rfl
  | fail i o f unasked failure next there at_ => exact .nothing (w.asks_close i o _) (by rw [at_]; rfl)
  | ask o rest failure next at_ => exact .request (.step o) (w.asks_goTo (.gathering rest failure next) _) nofun (by rw [at_]; rfl) rfl
  | askExit o next at_ => exact .request (.checkExit o) (w.asks_goTo _ _) nofun (by rw [at_]; rfl) rfl
  | askCondition o next at_ => exact .request (.checkCondition o) (w.asks_goTo _ _) nofun (by rw [at_]; rfl) rfl
  | release v at_ => exact .release (w.asks_goTo _ _) (by rw [at_]; rfl) rfl

theorem Step.guarded (step : Step s w w') (guarded : Guarded s w) : Guarded s w' := by
  cases step.asking with
  | nothing same stays =>
    constructor
    · rw [same, stays]
      exact guarded.before
    · rw [same, stays]
      exact guarded.after
  | request q new other before after =>
    refine ⟨fun _ id mem => ?_, fun no => ?_⟩
    · rw [new] at mem
      rcases List.mem_append.mp mem with old | now
      · exact guarded.before before id old
      · exact other id (List.mem_singleton.mp now).symm
    · cases after.symm.trans no
  | release new before after =>
    refine ⟨fun no => ?_, fun _ => ⟨w.asks, new, guarded.before before⟩⟩
    cases after.symm.trans no

theorem Reachable.guarded (reach : Reachable s w) : Guarded s w := by
  induction reach with
  | opening => exact ⟨fun _ _ => List.not_mem_nil, nofun⟩
  | step _ step ih => exact step.guarded ih

end Walk
end Rendezvous
