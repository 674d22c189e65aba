import Rendezvous.Hub.Router
import Rendezvous.Proofs.Naming
import Rendezvous.Proofs.Routing.Method

/-!
# Programs with blocks, and accounts of them

A `Conduct` is what a program does on its thread: it makes routed calls, and it opens blocks, which serve a request
or are tracked as the work of an agent, or just catch what fails inside.  Blocks are inside one another to any depth,
and what a call executes is a conduct again.  `Conduct.act` performs one on the hub.

An `Account` tells what happens to runs meanwhile, deed by deed: a run is registered and forgotten, its workflow is
scheduled, and events are raised for it.  The engine refuses what it likes, deed by deed, and an attempt that it
refuses is a deed like any other.
-/

namespace Rendezvous

set_option autoImplicit false

/-! ## What a program does -/

/-- What is around a block. -/
inductive Block where
  /-- Nothing. -/
  | plain
  | request (agentName : Option String)
  | tracked (agentName : String) (userMessage systemMessage : Option String)

/-- A call that is routed asks for something; it is not the end of its run. -/
structure Asking (κ : Type) extends RoutedCall κ where
  asks : kind ≠ .done

/-- What a program does. -/
inductive Conduct (κ α ω : Type) where
  | done (r : Result α)
  /-- The objects are read and changed. -/
  | touch (write : ω → ω) (next : ω → Conduct κ α ω)
  /-- From here on, these workflows cannot be started and these are reached by no event. -/
  | close (starts events : List String) (next : Conduct κ α ω)
  | call (c : Asking κ) (next : Result α → Conduct κ α ω)
  | block (b : Block) (body : Conduct κ α ω) (next : Result α → Conduct κ α ω)

variable {κ α β ω γ : Type}

/-- What is around a block, around an action. -/
def Block.around : Block → Act κ α β ω γ → Act κ α β ω γ
  | plain, x => x
  | request agentName, x => do
    let n ← Act.newRequest agentName
    Act.serving n x
  | tracked agentName userMessage systemMessage, x => Act.tracked agentName userMessage systemMessage x

namespace Conduct

/-- A program on a thread of the hub. -/
def act (h : Performer κ α β ω) : Conduct κ α ω → Act κ α β ω α
  | done r => Act.ofResult r
  | touch write next => do
    let x := (← Act.world).host
    Act.change fun w => { w with host := write w.host }
    (next x).act h
  | close closedStarts closedEvents next => do
    Act.changeHub fun hub => { hub with engine := { hub.engine with closedStarts, closedEvents } }
    next.act h
  | call c next => do
    let r ← Act.attempt (Act.route h c.toRoutedCall)
    (next r).act h
  | block b body next => do
    let r ← Act.attempt (b.around (body.act h))
    (next r).act h

/-- Methods that are programs; so many calls may be inside one another. -/
def performer (methods : κ → Conduct κ α ω) (text : α → Option String) : Nat → Performer κ α β ω
  | 0 => { text, perform := fun _ => throw tooDeep }
  | depth + 1 => { text, perform := fun k => (methods k).act (performer methods text depth) }

end Conduct

/-! ## Deeds -/

/-- What is done about a run. -/
inductive Doing where
  | registered
  /-- Its workflow is scheduled, if the engine takes it. -/
  | scheduled (taken : Bool)
  /-- An event is raised, if the engine takes it. -/
  | raised (event : RunEvent) (taken : Bool)
  | forgotten

/-- Something that is done about a run. -/
structure Deed where
  run : String
  what : Doing
  /-- How many executions by the call activity it is inside of. -/
  inside : Nat := 0

/-- What is done about a run, out of everything that is done. -/
def Deed.about (x : String) (log : List Deed) : List Doing := (log.filter (·.run = x)).map (·.what)

/-- The same inside one more execution. -/
def Deed.deeper (d : Deed) : Deed := { d with inside := d.inside + 1 }

/-- The id of a run that is drawn. -/
def drawnRun (n : Nat) : String := "run-" ++ toString n

theorem drawnRun_injective {m n : Nat} (same : drawnRun m = drawnRun n) : m = n :=
  repr_injective ((String.append_right_inj "run-").mp same)

/-! ## Where a thread stands -/

/-- What a thread and the hub know of runs. -/
structure Footing where
  guarded : Bool
  run : Option String
  request : Option Nat
  /-- The runs that requests have started, by number. -/
  opened : List (Option String)
  live : List String
  drawn : Nat

namespace Footing

/-- A run is in the registry. -/
def register (x : String) (s : Footing) : Footing :=
  { s with live := if x ∈ s.live then s.live else s.live ++ [x] }

def forget (x : String) (s : Footing) : Footing := { s with live := s.live.filter (· ≠ x) }

/-- The id that is drawn next. -/
def next (s : Footing) : String := drawnRun (s.drawn + 1)

/-- A run of its own has been started. -/
def started (s : Footing) : Footing := { s with drawn := s.drawn + 1 }.register s.next

/-- A run could not be started. -/
def refused (s : Footing) : Footing := s.started.forget s.next

/-- The run of the request that is served. -/
def held (s : Footing) : Option String := s.request.bind fun n => s.opened.getD n none

/-- A thread of the call activity. -/
def activity (s : Footing) : Footing := { s with guarded := true, run := none, request := none }

/-- Back on a thread after the call activity. -/
def back (before after : Footing) : Footing :=
  { after with guarded := before.guarded, run := before.run, request := before.request }

end Footing

/-- What the hub and the thread know. -/
def World.footing (w : World κ α β ω) : Footing where
  guarded := w.context.guarded
  run := w.context.run
  request := w.context.request
  opened := w.hub.requests.map (·.run)
  live := w.hub.exchange.runIds
  drawn := w.hub.runsDrawn

/-! ## Accounts -/

/-- The run that a call belongs to, and how it comes to be that. -/
inductive Belongs : Footing → List Deed → Result (Option String) → Footing → Prop
  | bound {s : Footing} {x : String} (bound : s.run = some x) : Belongs s [] (.ok (some x)) s
  | nowhere {s : Footing} (free : s.run = none) (outside : s.request = none) : Belongs s [] (.ok none) s
  | held {s : Footing} {x : String} (free : s.run = none) (held : s.held = some x) :
      Belongs s [] (.ok (some x)) { s with run := some x }
  /-- The request has no run yet. -/
  | started {s : Footing} {n : Nat} (free : s.run = none) (inside : s.request = some n) (first : s.held = none) :
      Belongs s [⟨s.next, .registered, 0⟩, ⟨s.next, .scheduled true, 0⟩] (.ok (some s.next))
        { s.started with run := some s.next, opened := s.opened.modify n fun _ => some s.next }
  | refused {s : Footing} {n : Nat} (free : s.run = none) (inside : s.request = some n) (first : s.held = none)
      (f : Failure) :
      Belongs s [⟨s.next, .registered, 0⟩, ⟨s.next, .scheduled false, 0⟩, ⟨s.next, .forgotten, 0⟩] (.error f) s.refused

/-- What there is to give an account of. -/
inductive Matter (κ α ω : Type) where
  | conduct (p : Conduct κ α ω)
  | call (c : Asking κ)
  | block (b : Block) (body : Conduct κ α ω)
  | perform (k : κ)

/-- An account of what is done, deed by deed, and of what comes of it. -/
inductive Account (methods : κ → Conduct κ α ω) : Matter κ α ω → Footing → List Deed → Result α → Footing → Prop
  | done (r : Result α) (s : Footing) : Account methods (.conduct (.done r)) s [] r s
  | touch {write : ω → ω} {next : ω → Conduct κ α ω} {s s' : Footing} {log : List Deed} {r : Result α} (x : ω)
      (rest : Account methods (.conduct (next x)) s log r s') :
      Account methods (.conduct (.touch write next)) s log r s'
  | close {starts events : List String} {next : Conduct κ α ω} {s s' : Footing} {log : List Deed} {r : Result α}
      (rest : Account methods (.conduct next) s log r s') :
      Account methods (.conduct (.close starts events next)) s log r s'
  | call {c : Asking κ} {next : Result α → Conduct κ α ω} {s s' s'' : Footing} {log later : List Deed} {r r' : Result α}
      (made : Account methods (.call c) s log r s') (rest : Account methods (.conduct (next r)) s' later r' s'') :
      Account methods (.conduct (.call c next)) s (log ++ later) r' s''
  | block {b : Block} {body : Conduct κ α ω} {next : Result α → Conduct κ α ω} {s s' s'' : Footing}
      {log later : List Deed} {r r' : Result α} (opened : Account methods (.block b body) s log r s')
      (rest : Account methods (.conduct (next r)) s' later r' s'') :
      Account methods (.conduct (.block b body next)) s (log ++ later) r' s''
  | perform {k : κ} {s s' : Footing} {log : List Deed} {r : Result α}
      (body : Account methods (.conduct (methods k)) s log r s') : Account methods (.perform k) s log r s'
  | tooDeep (k : κ) (s : Footing) : Account methods (.perform k) s [] (.error Rendezvous.tooDeep) s
  /-- A guarded call is performed on the spot. -/
  | guarded {c : Asking κ} {s s' : Footing} {log : List Deed} {r : Result α} (guard : s.guarded = true)
      (performed : Account methods (.perform c.call) s log r s') : Account methods (.call c) s log r s'
  | failed {c : Asking κ} {s s' : Footing} {log : List Deed} {f : Failure} (guard : s.guarded = false)
      (belongs : Belongs s log (.error f) s') : Account methods (.call c) s log (.error f) s'
  /-- So is a call that belongs to no run, or to one that is not there. -/
  | onSpot {c : Asking κ} {s s' s'' : Footing} {log later : List Deed} {run : Option String} {r : Result α}
      (guard : s.guarded = false) (belongs : Belongs s log (.ok run) s') (gone : ∀ x ∈ run, x ∉ s'.live)
      (performed : Account methods (.perform c.call) s' later r s'') : Account methods (.call c) s (log ++ later) r s''
  /-- The call is not registered. -/
  | unregistered {c : Asking κ} {s s' : Footing} {log : List Deed} {x : String} (guard : s.guarded = false)
      (belongs : Belongs s log (.ok (some x)) s') (there : x ∈ s'.live) (f : Failure) :
      Account methods (.call c) s log (.error f) s'
  | unreached {c : Asking κ} {s s' : Footing} {log : List Deed} {x : String} (guard : s.guarded = false)
      (belongs : Belongs s log (.ok (some x)) s') (there : x ∈ s'.live) (callId : String) (f : Failure) :
      Account methods (.call c) s (log ++ [⟨x, .raised (.call c.kind callId c.operation c.payload) false, 0⟩])
        (.error f) s'
  /-- The event is taken, and the call activity executes the call that it finds. -/
  | executed {c : Asking κ} {s s' after : Footing} {log later : List Deed} {x : String} {out : Result α}
      (guard : s.guarded = false) (belongs : Belongs s log (.ok (some x)) s') (there : x ∈ s'.live) (callId : String)
      (performed : Account methods (.perform c.call) s'.activity later out after) (r : Result α) :
      Account methods (.call c) s
        (log ++ ⟨x, .raised (.call c.kind callId c.operation c.payload) true, 0⟩ :: later.map Deed.deeper)
        r (s'.back after)
  | unexecuted {c : Asking κ} {s s' : Footing} {log : List Deed} {x : String} (guard : s.guarded = false)
      (belongs : Belongs s log (.ok (some x)) s') (there : x ∈ s'.live) (callId : String) (r : Result α) :
      Account methods (.call c) s (log ++ [⟨x, .raised (.call c.kind callId c.operation c.payload) true, 0⟩]) r s'
  | plain {body : Conduct κ α ω} {s s' : Footing} {log : List Deed} {r : Result α}
      (inner : Account methods (.conduct body) s log r s') : Account methods (.block .plain body) s log r s'
  /-- A request that has started no run. -/
  | idle {agentName : Option String} {body : Conduct κ α ω} {s s' : Footing} {log : List Deed} {r : Result α}
      (inner : Account methods (.conduct body)
        { s with request := some s.opened.length, opened := s.opened ++ [none] } log r s')
      (idle : s'.opened.getD s.opened.length none = none) :
      Account methods (.block (.request agentName) body) s log r { s' with request := s.request }
  | served {agentName : Option String} {body : Conduct κ α ω} {s s' : Footing} {log : List Deed} {r : Result α}
      {x : String} (inner : Account methods (.conduct body)
        { s with request := some s.opened.length, opened := s.opened ++ [none] } log r s')
      (held : s'.opened.getD s.opened.length none = some x) (taken : Bool) (r' : Result α) :
      Account methods (.block (.request agentName) body) s
        (log ++ [⟨x, .raised .finish taken, 0⟩, ⟨x, .forgotten, 0⟩]) r'
        ({ s' with request := s.request, run := none }.forget x)
  /-- Tracked work that already belongs to a run. -/
  | joined {agentName : String} {userMessage systemMessage : Option String} {body : Conduct κ α ω} {s s' : Footing}
      {log : List Deed} {r : Result α} {x : String} (bound : s.run = some x)
      (inner : Account methods (.conduct body) s log r s') :
      Account methods (.block (.tracked agentName userMessage systemMessage) body) s log r s'
  | untracked {agentName : String} {userMessage systemMessage : Option String} {body : Conduct κ α ω} {s : Footing}
      (free : s.run = none) (f : Failure) :
      Account methods (.block (.tracked agentName userMessage systemMessage) body) s
        [⟨s.next, .registered, 0⟩, ⟨s.next, .scheduled false, 0⟩, ⟨s.next, .forgotten, 0⟩] (.error f) s.refused
  | tracked {agentName : String} {userMessage systemMessage : Option String} {body : Conduct κ α ω} {s s' : Footing}
      {log : List Deed} {r : Result α} (free : s.run = none)
      (inner : Account methods (.conduct body) { s.started with run := some s.next } log r s') (taken : Bool)
      (r' : Result α) :
      Account methods (.block (.tracked agentName userMessage systemMessage) body) s
        (⟨s.next, .registered, 0⟩ :: ⟨s.next, .scheduled true, 0⟩ :: log ++
          [⟨s.next, .raised .finish taken, 0⟩, ⟨s.next, .forgotten, 0⟩]) r'
        ({ s' with run := none }.forget s.next)

end Rendezvous
