import Rendezvous.Proofs.FanOut.Threads
import Rendezvous.Proofs.Recording.Brackets

/-!
# A composite, and the runs of its steps

A `Company` is a composite as it is invoked: the plan of its planner, and its sub-agents.  A leaf among them is a
`Player`, which makes routed calls one after the other; anything else, such as a composite of its own, is known here
by leaving the runs of this composite's steps alone.  A `Scene` is the stage with the threads that run agents
(`Ensemble.Site`), and the chronicle of what is done about runs.

The step activity deals with the engine in steps of their own: it registers the run, schedules its workflow, raises
the event that ends it, and forgets it (`Mark` says how far it is), and any other thread may come in between.  So may
anybody outside, as long as the runs of the composite's steps are left alone and nothing is made of the scope but what
the company allows for (`Scene.Step.elsewhere`).

An agent that is a batch of its own runs in the context of whoever has invoked the composite; the others run on
threads of their own, which know of nothing but the run that they are bound to (`hostContext`).
-/

namespace Rendezvous

set_option autoImplicit false

/-! ## The chronicle -/

/-- What is known of runs, and the scope that the agents share. -/
structure Chronicle where
  log : List Deed := []
  opened : List (Option String) := []
  live : List String := []
  drawn : Nat := 0
  scope : Scope := {}

namespace Chronicle

/-- Where a thread stands. -/
def footing (ctx : Context) (b : Chronicle) : Footing where
  guarded := ctx.guarded
  run := ctx.run
  request := ctx.request
  opened := b.opened
  live := b.live
  drawn := b.drawn

/-- Something has been done about runs, and this is where the thread stands afterwards. -/
def after (log : List Deed) (s : Footing) (b : Chronicle) : Chronicle :=
  { b with log := b.log ++ log, opened := s.opened, live := s.live, drawn := s.drawn }

/-- A deed is done. -/
def note (d : Deed) (b : Chronicle) : Chronicle := { b with log := b.log ++ [d], live := d.enter b.live }

end Chronicle

/-- The run of a step of an orchestration. -/
def Own (id x : String) : Prop := ∃ i n : Nat, x = stepRunId id i n

/-- Others have done something that is not about the steps of an orchestration. -/
structure Chronicle.Apart (id : String) (b b' : Chronicle) : Prop where
  log : ∃ more, b'.log = b.log ++ more ∧ ∀ d ∈ more, ¬ Own id d.run
  live : ∀ x, Own id x → (x ∈ b'.live ↔ x ∈ b.live)

/-! ## Leaves -/

/-- What a leaf does. -/
inductive Script (κ : Type) where
  | done (r : Result Value)
  /-- The scope is read and changed. -/
  | touch (write : Scope → Scope) (next : Scope → Script κ)
  | call (c : Asking κ) (next : Result Value → Script κ)

/-- A leaf. -/
structure Player (κ : Type) where
  script : Script κ
  /-- What may come of a call that is performed, after the calls so far and what has come of them. -/
  gives : List (Asking κ × Result Value) → Asking κ → Result Value → Prop

/-- A call that a leaf has made. -/
structure Made (κ : Type) where
  call : Asking κ
  /-- The event that has been raised for it: the id of the call, and whether the engine has taken it. -/
  event : Option (String × Bool)
  outcome : Result Value

/-- The event of a call. -/
def Asking.event {κ : Type} (c : Asking κ) (callId : String) : RunEvent := .call c.kind callId c.operation c.payload

/-- The event, if one has been raised. -/
def Made.doing? {κ : Type} (m : Made κ) : Option Doing :=
  m.event.map fun (callId, taken) => .raised (m.call.event callId) taken

/-- Where a leaf stands in its script. -/
inductive Place (κ : Type) where
  | ready (rest : Script κ)
  /-- The run of the call is known. -/
  | bound (run : String) (c : Asking κ) (next : Result Value → Script κ)
  /-- The run is in the registry. -/
  | found (run : String) (c : Asking κ) (next : Result Value → Script κ)
  /-- The event has been raised. -/
  | waiting (callId : String) (c : Asking κ) (next : Result Value → Script κ)
  /-- The call is performed right here. -/
  | onSpot (c : Asking κ) (next : Result Value → Script κ)

/-- The event of the call that a leaf waits for. -/
def Place.raised {κ : Type} : Place κ → List Doing
  | .waiting callId c _ => [.raised (c.event callId) true]
  | _ => []

namespace Player

variable {κ : Type}

/-- How far a leaf has come. -/
structure State (κ : Type) where
  place : Place κ
  /-- The calls so far. -/
  made : List (Made κ) := []

/-- What has come of the calls so far. -/
def State.past (q : State κ) : List (Asking κ × Result Value) := q.made.map fun m => (m.call, m.outcome)

/-- Something has come of a call. -/
def State.returned (q : State κ) (c : Asking κ) (event : Option (String × Bool)) (r : Result Value)
    (next : Result Value → Script κ) : State κ where
  place := .ready (next r)
  made := q.made ++ [⟨c, event, r⟩]

/-- One step of a leaf.  Nobody but the engine refuses an event. -/
inductive Step (p : Player κ) (engine : Result Unit → Prop) :
    State κ → Context × Chronicle → State κ → Context × Chronicle → Prop
  | touch {q : State κ} {ctx : Context} {b : Chronicle} (write : Scope → Scope) (next : Scope → Script κ)
      (at_ : q.place = .ready (.touch write next)) :
      Step p engine q (ctx, b) { q with place := .ready (next b.scope) } (ctx, { b with scope := write b.scope })
  | guarded {q : State κ} {ctx : Context} {b : Chronicle} (c : Asking κ) (next : Result Value → Script κ)
      (at_ : q.place = .ready (.call c next)) (guard : ctx.guarded = true) :
      Step p engine q (ctx, b) { q with place := .onSpot c next } (ctx, b)
  /-- The run of the request could not be started. -/
  | lost {q : State κ} {ctx : Context} {b : Chronicle} {log : List Deed} {s : Footing} (c : Asking κ)
      (next : Result Value → Script κ) (f : Failure) (at_ : q.place = .ready (.call c next))
      (guard : ctx.guarded = false) (belongs : Belongs (b.footing ctx) log (.error f) s) :
      Step p engine q (ctx, b) (q.returned c none (.error f) next) ({ ctx with run := s.run }, b.after log s)
  | nowhere {q : State κ} {ctx : Context} {b : Chronicle} {log : List Deed} {s : Footing} (c : Asking κ)
      (next : Result Value → Script κ) (at_ : q.place = .ready (.call c next))
      (guard : ctx.guarded = false) (belongs : Belongs (b.footing ctx) log (.ok none) s) :
      Step p engine q (ctx, b) { q with place := .onSpot c next } ({ ctx with run := s.run }, b.after log s)
  | bind {q : State κ} {ctx : Context} {b : Chronicle} {log : List Deed} {s : Footing} {x : String} (c : Asking κ)
      (next : Result Value → Script κ) (at_ : q.place = .ready (.call c next))
      (guard : ctx.guarded = false) (belongs : Belongs (b.footing ctx) log (.ok (some x)) s) :
      Step p engine q (ctx, b) { q with place := .bound x c next } ({ ctx with run := s.run }, b.after log s)
  | gone {q : State κ} {ctx : Context} {b : Chronicle} {x : String} (c : Asking κ)
      (next : Result Value → Script κ) (at_ : q.place = .bound x c next) (gone : x ∉ b.live) :
      Step p engine q (ctx, b) { q with place := .onSpot c next } (ctx, b)
  | find {q : State κ} {ctx : Context} {b : Chronicle} {x : String} (c : Asking κ)
      (next : Result Value → Script κ) (at_ : q.place = .bound x c next) (there : x ∈ b.live) :
      Step p engine q (ctx, b) { q with place := .found x c next } (ctx, b)
  | raise {q : State κ} {ctx : Context} {b : Chronicle} {x : String} (c : Asking κ)
      (next : Result Value → Script κ) (callId : String) (at_ : q.place = .found x c next)
      (taken : engine (.ok ())) :
      Step p engine q (ctx, b) { q with place := .waiting callId c next }
        (ctx, b.note ⟨x, .raised (c.event callId) true, 0⟩)
  | refuse {q : State κ} {ctx : Context} {b : Chronicle} {x : String} (c : Asking κ)
      (next : Result Value → Script κ) (callId : String) (f : Failure) (at_ : q.place = .found x c next)
      (refused : engine (.error f)) :
      Step p engine q (ctx, b) (q.returned c (some (callId, false)) (.error f) next)
        (ctx, b.note ⟨x, .raised (c.event callId) false, 0⟩)
  | answer {q : State κ} {ctx : Context} {b : Chronicle} (c : Asking κ) (next : Result Value → Script κ)
      (callId : String) (r : Result Value) (at_ : q.place = .waiting callId c next) (gives : p.gives q.past c r) :
      Step p engine q (ctx, b) (q.returned c (some (callId, true)) r next) (ctx, b)
  | perform {q : State κ} {ctx : Context} {b : Chronicle} (c : Asking κ) (next : Result Value → Script κ)
      (r : Result Value) (at_ : q.place = .onSpot c next) (gives : p.gives q.past c r) :
      Step p engine q (ctx, b) (q.returned c none r next) (ctx, b)

/-- What has come of a leaf. -/
def State.result? (q : State κ) : Option (Result Value) :=
  match q.place with
  | .ready (.done r) => some r
  | _ => none

/-- A leaf, as it goes on step by step. -/
def behaviour (p : Player κ) (engine : Result Unit → Prop) : Behaviour (Context × Chronicle) where
  State := State κ
  start := { place := .ready p.script }
  Step := p.Step engine
  result? := State.result?

/-- The events that a leaf has raised. -/
def State.raised (q : State κ) : List Doing := q.made.filterMap Made.doing? ++ q.place.raised

end Player

/-! ## Composites -/

/-- A sub-agent. -/
inductive Member (κ : Type) where
  | player (p : Player κ)
  | other (B : Behaviour (Context × Chronicle))

namespace Member

variable {κ : Type}

/-- What a sub-agent does. -/
def behaviour (engine : Result Unit → Prop) : Member κ → Behaviour (Context × Chronicle)
  | player p => p.behaviour engine
  | other B => B

/-- How far a leaf has come. -/
def player? (engine : Result Unit → Prop) :
    (m : Member κ) → (m.behaviour engine).State → Option (Player κ × Player.State κ)
  | player p, q => some (p, q)
  | other _, _ => none

end Member

/-- A composite that is invoked. -/
structure Company (κ : Type) where
  /-- The id of its planner. -/
  id : String
  plan : PlannerPlan
  size : Nat
  member : Nat → Member κ
  profile : Nat → Profile
  workers : Option Int := none
  /-- What it is invoked on. -/
  scope : Scope := {}
  /-- What others may make of the scope meanwhile. -/
  outside : Scope → Scope → Prop := fun _ _ => False
  /-- What may come of an operation of the engine. -/
  engine : Result Unit → Prop
  /-- Sub-agents that are no leaves leave the runs of this composite's steps alone. -/
  apart : ∀ {i : Nat} {B : Behaviour (Context × Chronicle)}, member i = .other B →
    ∀ {q q' : B.State} {x y : Context × Chronicle}, B.Step q x q' y → Chronicle.Apart id x.2 y.2

/-- A parallel composite of leaves. -/
structure Chorus (κ : Type) where
  plan : PlannerPlan
  parallel : plan.topology = .parallel
  size : Nat
  player : Nat → Player κ
  profile : Nat → Profile
  workers : Option Int := none
  scope : Scope := {}
  /-- What others may make of the scope meanwhile. -/
  outside : Scope → Scope → Prop := fun _ _ => False
  engine : Result Unit → Prop

/-- The composite, with the id that its planner gets. -/
def Chorus.company {κ : Type} (h : Chorus κ) (id : String) : Company κ where
  id
  plan := h.plan
  size := h.size
  member i := .player (h.player i)
  profile := h.profile
  workers := h.workers
  scope := h.scope
  outside := h.outside
  engine := h.engine
  apart no := by cases no

namespace Company

variable {κ : Type}

/-- Those who take part in the orchestration. -/
def ensemble (c : Company κ) : Ensemble Nat (Context × Chronicle) where
  plan := c.plan
  agents := List.range c.size
  profile := c.profile
  behaviour i := (c.member i).behaviour c.engine
  workers := c.workers
  scopeOf x := x.2.scope
  engine := c.engine

/-- What the engine may answer. -/
def Answer (c : Company κ) : Type := { r : Result Unit // c.engine r }

/-- How far a step activity is with the engine. -/
inductive Mark (c : Company κ) where
  | nothing
  | registered
  | scheduled (r : c.Answer)
  | sent (r : c.Answer)

end Company

/-- How far a leaf has come in its turn. -/
def Ensemble.Turn.player? {κ : Type} {c : Company κ} (t : c.ensemble.Turn) : Option (Player κ × Player.State κ) :=
  (c.member t.submission.agent).player? c.engine t.state

/-- The context of a thread that an agent of a batch runs on. -/
def hostContext (caller : Context) (size : Nat) (run : Option String) : Context :=
  if size = 1 then { caller with run } else { run }

/-- The threads of a composite, and what is known of runs. -/
structure Scene {κ : Type} (c : Company κ) where
  site : Ensemble.Site c.ensemble
  /-- How far the activity of each step is with the engine. -/
  marks : StepOrder → c.Mark := fun _ => .nothing
  chronicle : Chronicle
  /-- The batches that the loop has found in the queue. -/
  batches : List (List (Submission Nat)) := []

/-- A step activity ends with what the engine says about its last event. -/
theorem Ensemble.ErrandStep.close {σ β : Type} {e : Ensemble β σ} (s : e.Stage) (step : OpenStep)
    (turn : Result Unit) {r : Result Unit} (engine : e.engine r) :
    Ensemble.ErrandStep s (.ending step turn) s
      (.finished step.order (r.bind fun _ => turn.map fun _ => step.report)) := by
  cases r with
  | ok u => exact .finish s step turn engine
  | error f => exact .unfinished s step turn f engine

namespace Scene

open Ensemble

variable {κ : Type} {c : Company κ}

/-- The activity of a step has come so far with the engine. -/
def mark (o : StepOrder) (m : c.Mark) (s : Scene c) : Scene c :=
  { s with marks := fun o' => if o' = o then m else s.marks o' }

/-- The activity of a step does something about the run of the step. -/
def deal (o : StepOrder) (what : Doing) (m : c.Mark) (s : Scene c) : Scene c :=
  { s with chronicle := s.chronicle.note ⟨o.runId, what, 0⟩ }.mark o m

/-- A step activity comes to another place. -/
def move (i : Nat) (a : Errand Nat) (s : Scene c) : Scene c :=
  { s with site := { s.site with stage := { s.site.stage with errands := s.site.stage.errands.set i a } } }

/-- The batches so far, after a step of the loop. -/
def called (batches : List (List (Submission Nat))) : c.ensemble.Loop → List (List (Submission Nat))
  | .running batch => batches ++ [batch.map (·.submission)]
  | _ => batches

/-- Whether a step activity has nothing to do with the engine. -/
def Aloof : Errand Nat → Prop
  | .found _ _ | .ending _ _ => False
  | _ => True

/-- One step of any thread, if the composite has been invoked in a context. -/
inductive Step (caller : Context) : Scene c → Scene c → Prop
  | loop {s : Scene c} {t : c.ensemble.Stage} (quiet : s.site.Quiet) (step : LoopStep s.site.stage t)
      (named : s.site.stage.loop = .unnamed → t.planner.plan.id = c.id) :
      Step caller s { s with
        site := { stage := t, run := rebound s.site.run s.site.stage.loop t.loop }
        batches := called s.batches t.loop }
  | flow {s : Scene c} {t : c.ensemble.Stage} (step : FlowStep (caller, s.chronicle) s.site.stage t) :
      Step caller s { s with site := { s.site with stage := t } }
  | errand {s : Scene c} {t : c.ensemble.Stage} {before after : Errand Nat} (i : Nat)
      (there : s.site.stage.errands[i]? = some before) (aloof : Aloof before)
      (moves : ErrandStep s.site.stage before t after) :
      Step caller s { s with site := { s.site with stage := { t with errands := t.errands.set i after } } }
  | register {s : Scene c} {o : StepOrder} {agent : Nat} (i : Nat)
      (there : s.site.stage.errands[i]? = some (.found o agent)) (marked : s.marks o = .nothing) :
      Step caller s (s.deal o .registered .registered)
  | schedule {s : Scene c} {o : StepOrder} {agent : Nat} (i : Nat)
      (there : s.site.stage.errands[i]? = some (.found o agent)) (marked : s.marks o = .registered) (r : c.Answer) :
      Step caller s (s.deal o (.scheduled r.val.isOk) (.scheduled r))
  | begin {s : Scene c} {o : StepOrder} {agent : Nat} {r : c.Answer} (i : Nat)
      (there : s.site.stage.errands[i]? = some (.found o agent)) (marked : s.marks o = .scheduled r)
      (taken : r.val = .ok ()) : Step caller s ((s.mark o .nothing).move i (.begun o agent))
  | abandon {s : Scene c} {o : StepOrder} {agent : Nat} {r : c.Answer} {f : Failure} (i : Nat)
      (there : s.site.stage.errands[i]? = some (.found o agent)) (marked : s.marks o = .scheduled r)
      (refused : r.val = .error f) :
      Step caller s ((s.deal o .forgotten .nothing).move i (.finished o (.error f)))
  | send {s : Scene c} {step : OpenStep} {turn : Result Unit} (i : Nat)
      (there : s.site.stage.errands[i]? = some (.ending step turn)) (marked : s.marks step.order = .nothing)
      (r : c.Answer) : Step caller s (s.deal step.order (.raised .finish r.val.isOk) (.sent r))
  | close {s : Scene c} {step : OpenStep} {turn : Result Unit} {r : c.Answer} (i : Nat)
      (there : s.site.stage.errands[i]? = some (.ending step turn)) (marked : s.marks step.order = .sent r) :
      Step caller s ((s.deal step.order .forgotten .nothing).move i
        (.finished step.order (r.val.bind fun _ => turn.map fun _ => step.report)))
  /-- A thread of the pool takes up a turn or puts it down. -/
  | pool {s : Scene c} {t : Site c.ensemble} {x : Context × Chronicle} (step : Site.Step s.site x t x)
      (still : t.stage = s.site.stage) : Step caller s { s with site := t }
  | perform {s : Scene c} {batch : List c.ensemble.Turn} {t : c.ensemble.Turn} {run : Option String}
      {q : (c.ensemble.behaviour t.submission.agent).State} {ctx : Context} {b : Chronicle} (j : Nat)
      (at_ : s.site.stage.loop = .running batch) (there : batch[j]? = some t) (hosts : s.site.Hosts run j t)
      (moves : (c.ensemble.behaviour t.submission.agent).Step t.state
        (hostContext caller batch.length run, s.chronicle) q (ctx, b)) :
      Step caller s { s with
        site := { s.site with stage := { s.site.stage with loop := .running (batch.set j ⟨t.submission, q⟩) } }
        chronicle := b }
  | linger {s : Scene c} {t : c.ensemble.Turn} {q : (c.ensemble.behaviour t.submission.agent).State}
      {ctx ctx' : Context} {b : Chronicle} (i : Nat) (there : s.site.stage.retired[i]? = some t)
      (moves : (c.ensemble.behaviour t.submission.agent).Step t.state (ctx, s.chronicle) q (ctx', b)) :
      Step caller s { s with
        site := { s.site with stage := { s.site.stage with
          retired := s.site.stage.retired.set i ⟨t.submission, q⟩ } }
        chronicle := b }
  | elsewhere {s : Scene c} {b : Chronicle} (apart : Chronicle.Apart c.id s.chronicle b)
      (scope : b.scope = s.chronicle.scope ∨ c.outside s.chronicle.scope b.scope) :
      Step caller s { s with chronicle := b }

/-- Before anything has happened. -/
def opening (c : Company κ) (caller : Context) (b : Chronicle) : Scene c :=
  { site := { stage := c.ensemble.opening, run := caller.run }, chronicle := b }

/-- Nobody has heard of the runs of an orchestration's steps. -/
def Unheard (id : String) (b : Chronicle) : Prop := ∀ x, Own id x → Deed.about x b.log = [] ∧ x ∉ b.live

/-- The scenes that any schedule can lead to.  The id of the planner is a new one. -/
inductive Reaches (caller : Context) : Scene c → Prop
  | opening {b : Chronicle} (new : Unheard c.id b) (given : b.scope = c.scope) : Reaches caller (opening c caller b)
  | step {s t : Scene c} (reaches : Reaches caller s) (step : Step caller s t) : Reaches caller t

/-! ## Scenes and stages -/

variable {caller : Context} {s t : Scene c}

/-- A step of any thread is a step on the site, or leaves it alone. -/
theorem Step.on_site (step : Step caller s t) :
    (∃ x y, Site.Step s.site x t.site y) ∨ t.site = s.site := by
  cases step with
  | loop quiet step named => exact .inl ⟨(caller, s.chronicle), _, .loop quiet step⟩
  | flow step => exact .inl ⟨_, _, .flow step⟩
  | errand i there aloof moves => exact .inl ⟨(caller, s.chronicle), _, .errand i there moves⟩
  | register | schedule | send | elsewhere => exact .inr rfl
  | begin i there marked taken =>
    rename_i o agent r
    have engine : c.ensemble.engine (.ok ()) := taken ▸ r.property
    exact .inl ⟨(caller, s.chronicle), _, .errand i there (.begin _ o agent engine)⟩
  | abandon i there marked refused =>
    rename_i o agent r f
    have engine : c.ensemble.engine (.error f) := refused ▸ r.property
    exact .inl ⟨(caller, s.chronicle), _, .errand i there (.unstarted _ o agent f engine)⟩
  | close i there marked =>
    rename_i step turn r
    exact .inl ⟨(caller, s.chronicle), _, .errand i there (.close _ step turn r.property)⟩
  | pool step still => exact .inl ⟨_, _, step⟩
  | perform j at_ there hosts moves => exact .inl ⟨_, _, .perform j at_ there hosts moves⟩
  | linger i there moves => exact .inl ⟨_, _, .linger i there moves⟩

theorem Reaches.on_stage (reaches : Reaches caller s) : Reachable s.site.stage := by
  induction reaches with
  | opening => exact .opening
  | step _ step ih =>
    rcases step.on_site with ⟨x, y, taken⟩ | same
    · rcases taken.on_stage with taken | ⟨same, -⟩
      · exact ih.step taken
      · rwa [same]
    · rwa [same]

theorem Reaches.bound (reaches : Reaches caller s) : s.site.Bound := by
  induction reaches with
  | opening => exact ⟨nofun, nofun, nofun, nofun, nofun, nofun⟩
  | step _ step ih =>
    rcases step.on_site with ⟨x, y, taken⟩ | same
    · exact taken.bound ih
    · rwa [same]

end Scene
end Rendezvous
