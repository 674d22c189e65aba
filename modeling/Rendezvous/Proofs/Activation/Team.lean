import Mathlib.Logic.Relation
import Rendezvous.Proofs.Recording.Conduct

/-!
# Threads that serve one request

A request is opened by one thread; others enter it with a copy of the context of a thread that serves it.  Each of
them activates the request whenever it likes: it takes the lock of the request, looks for the run, starts it if there
is none, and puts the lock back; after that it belongs to the run.  The thread that has opened the request leaves it
at some time; it looks for the run without taking the lock.

A `Team` is such a set of threads at one time, and `Team.Step` is one step of one of them, or something else that
happens in the process.  A thread that is left alone does what `Act.activate` does (`Place.alone_activate`), and
leaves as `Act.serving` does (`Place.alone_leave`).
-/

namespace Rendezvous

set_option autoImplicit false

/-- What a thread asks for when it activates its request. -/
structure Ask where
  agentName : Option String := none
  userMessage : Option String := none
  systemMessage : Option String := none

/-- The run that is asked for, on behalf of a request that may have a name. -/
def Ask.start (a : Ask) (name : Option String) (id : String) : RunStart where
  runId := id
  agentName := Text.orElse a.agentName (Text.orElse name Act.defaultAgentName)
  userMessage := a.userMessage
  systemMessage := a.systemMessage

namespace Team

/-- An activation that a thread has begun. -/
structure Call where
  ask : Ask
  /-- The run that the thread belonged to before. -/
  before : Option String

/-- An activation that has come to its end. -/
structure Returned extends Call where
  /-- The run that it has tried to start, if it has found none. -/
  tried : Option String
  answer : Result (Option String)

/-- Where a thread is. -/
inductive Place where
  /-- It serves the request; this is the activation that it has come back from most recently. -/
  | resting (last : Option Returned)
  /-- It waits for the lock. -/
  | asking (c : Call)
  /-- It has the lock, and looks for the run. -/
  | inside (c : Call)
  /-- There is no run. -/
  | registering (c : Call)
  | starting (c : Call) (id : String)
  /-- The workflow has been started. -/
  | noting (c : Call) (id : String)
  /-- The workflow could not be started. -/
  | dropping (c : Call) (id : String) (f : Failure)
  /-- It is about to put the lock back. -/
  | releasing (c : Call) (tried : Option String) (r : Result Unit)
  /-- It is about to belong to the run. -/
  | binding (c : Call) (tried : Option String)
  /-- It leaves the request, and looks for the run. -/
  | looking
  /-- It has found a run, which it has to end. -/
  | finishing (id : String)
  | forgetting (id : String) (r : Result Unit)
  | clearing (id : String) (r : Result Unit)
  /-- It has left; this is the run that it has found, and what came of the event that ends it. -/
  | left (found : Option (String × Result Unit))

namespace Place

/-- Whether a thread has the lock. -/
def holds : Place → Bool
  | inside _ | registering _ | starting _ _ | noting _ _ | dropping _ _ _ | releasing _ _ _ => true
  | _ => false

/-- Whether a thread leaves, or has left. -/
def leaves : Place → Bool
  | looking | finishing _ | forgetting _ _ | clearing _ _ | left _ => true
  | _ => false

/-- Whether a thread has to go on by itself. -/
def busy : Place → Bool
  | resting _ | asking _ | left _ => false
  | _ => true

variable {κ α β ω : Type}

/-- The run of a request, if it has one. -/
def runOf (n : Nat) (w : World κ α β ω) : Option String := (w.hub.requests.getD n {}).run

/-- What the engine makes of the start of a run that is asked for. -/
def starts (n : Nat) (a : Ask) (id : String) (w : World κ α β ω) : Result Engine :=
  w.hub.engine.start Names.runWorkflow (a.start (w.hub.requests.getD n {}).agentName id).toValue id

/-- The world in which the next run is in the registry. -/
def registered (w : World κ α β ω) : World κ α β ω :=
  { w with hub := { w.hub with
    runsDrawn := w.hub.runsDrawn + 1
    exchange := w.hub.exchange.createRun (drawnRun (w.hub.runsDrawn + 1)) } }

/-- The world in which a run is not in the registry any more. -/
def forgot (id : String) (w : World κ α β ω) : World κ α β ω :=
  { w with hub := { w.hub with exchange := w.hub.exchange.dropRun id } }

/-- The world in which a request has a run. -/
def noted (n : Nat) (id : String) (w : World κ α β ω) : World κ α β ω :=
  { w with hub := { w.hub with requests := w.hub.requests.modify n fun q => { q with run := some id } } }

/-- The world in which the engine has gone on. -/
def onward (e : Engine) (w : World κ α β ω) : World κ α β ω := { w with hub := { w.hub with engine := e } }

/-- The world in which the thread belongs to a run, or to none. -/
def belonging (run : Option String) (w : World κ α β ω) : World κ α β ω :=
  { w with context := { w.context with run } }

/-- What a thread does next: where it is then, and the world as it leaves it. -/
def go (n : Nat) (w : World κ α β ω) : Place → Place × World κ α β ω
  | resting last => (resting last, w)
  | asking c => (inside c, w)
  | inside c =>
    match runOf n w with
    | some _ => (releasing c none (.ok ()), w)
    | none => (registering c, w)
  | registering c => (starting c (drawnRun (w.hub.runsDrawn + 1)), registered w)
  | starting c id =>
    match starts n c.ask id w with
    | .ok e => (noting c id, onward e w)
    | .error f => (dropping c id f, w)
  | noting c id => (releasing c (some id) (.ok ()), noted n id w)
  | dropping c id f => (releasing c (some id) (.error f), forgot id w)
  | releasing c tried (.ok ()) => (binding c tried, w)
  | releasing c tried (.error f) => (resting (some { c with tried, answer := .error f }), w)
  | binding c tried => (resting (some { c with tried, answer := .ok (runOf n w) }), belonging (runOf n w) w)
  | looking =>
    match runOf n w with
    | none => (left none, w)
    | some id => (finishing id, w)
  | finishing id =>
    match w.hub.engine.raise id .finish with
    | .ok e => (forgetting id (.ok ()), onward e w)
    | .error f => (forgetting id (.error f), w)
  | forgetting id r => (clearing id r, forgot id w)
  | clearing id r => (left (some (id, r)), belonging none w)
  | left found => (left found, w)

/-! ## A thread that is left alone -/

/-- What a thread has come to after so many steps of its own. -/
def alone (n : Nat) : Nat → Place × World κ α β ω → Place × World κ α β ω
  | 0, s => s
  | k + 1, (p, w) => alone n k (go n w p)

section Alone

variable {n : Nat} {w : World κ α β ω} {a : Ask}

theorem activate_of_some (serves : w.context.request = some n) {id : String} (found : runOf n w = some id) :
    Act.activate a.agentName a.userMessage a.systemMessage w = (.ok (some id), belonging (some id) w) := by
  refine (Act.bind_apply_of_ok (x := Act.context) rfl _).trans ?_
  rw [serves]
  refine (Act.bind_apply_of_ok (x := Act.request n) rfl _).trans ?_
  dsimp only [runOf] at found
  rw [found]
  rfl

theorem startWorkflow_apply (workflow : String) (payload : Value) (id : String) (w : World κ α β ω) :
    Act.startWorkflow workflow payload id w =
      match w.hub.engine.start workflow payload id with
      | .ok e => (.ok (), onward e w)
      | .error f => (.error f, w) := by
  cases taken : w.hub.engine.start workflow payload id with
  | ok e => exact (Act.bind_apply_of_ok (x := Act.ofResult _) (congrArg (·, w) taken) _).trans rfl
  | error f => exact Act.bind_apply_of_error (x := Act.ofResult _) (congrArg (·, w) taken) _

theorem startRun_apply (name : String) (userMessage systemMessage : Option String) (w : World κ α β ω) :
    let id := drawnRun (w.hub.runsDrawn + 1)
    let start : RunStart := { runId := id, agentName := name, userMessage, systemMessage }
    Act.startRun name userMessage systemMessage none w =
      match w.hub.engine.start Names.runWorkflow start.toValue id with
      | .ok e => (.ok id, onward e (registered w))
      | .error f => (.error f, forgot id (registered w)) := by
  have drawn : Act.drawRun w = (.ok (drawnRun (w.hub.runsDrawn + 1)),
    { w with hub := { w.hub with runsDrawn := w.hub.runsDrawn + 1 } }) := rfl
  refine (Act.bind_apply_of_ok drawn _).trans ((Act.bind_apply_of_ok (x := Act.onExchange _) rfl _).trans ?_)
  dsimp only
  rw [Act.attempt_bind_apply, startWorkflow_apply]
  dsimp only
  cases w.hub.engine.start Names.runWorkflow _ _ with
  | ok e | error f => rfl

/-- The first thread of a request has its run started. -/
theorem activate_of_none (serves : w.context.request = some n) (missing : runOf n w = none) :
    let id := drawnRun (w.hub.runsDrawn + 1)
    Act.activate a.agentName a.userMessage a.systemMessage w = match starts n a id (registered w) with
      | .ok e => (.ok (some id), belonging (some id) (noted n id (onward e (registered w))))
      | .error f => (.error f, forgot id (registered w)) := by
  have begins : Act.startRun (Text.orElse a.agentName (Text.orElse (w.hub.requests.getD n {}).agentName
      Act.defaultAgentName)) a.userMessage a.systemMessage none w =
        match starts n a (drawnRun (w.hub.runsDrawn + 1)) (registered w) with
        | .ok e => (.ok (drawnRun (w.hub.runsDrawn + 1)), onward e (registered w))
        | .error f => (.error f, forgot (drawnRun (w.hub.runsDrawn + 1)) (registered w)) :=
    startRun_apply _ a.userMessage a.systemMessage w
  refine (Act.bind_apply_of_ok (x := Act.context) rfl _).trans ?_
  rw [serves]
  refine (Act.bind_apply_of_ok (x := Act.request n) rfl _).trans ?_
  dsimp only [runOf] at missing
  rw [missing]
  cases taken : starts n a (drawnRun (w.hub.runsDrawn + 1)) (registered w) with
  | ok e =>
    rw [taken] at begins
    exact (Act.bind_apply_of_ok begins _).trans rfl
  | error f =>
    rw [taken] at begins
    exact Act.bind_apply_of_error begins _

theorem runOf_noted (there : n < w.hub.requests.length) (id : String) : runOf n (noted n id w) = some id := by
  simp [runOf, noted, List.getD_eq_getElem?_getD, there]

/-- A thread that is left alone activates its request. -/
theorem alone_activate (serves : w.context.request = some n) (there : n < w.hub.requests.length) (a : Ask) :
    ∃ k tried, alone n k (asking ⟨a, w.context.run⟩, w) =
      (resting (some { ask := a, before := w.context.run, tried
                       answer := (Act.activate a.agentName a.userMessage a.systemMessage w).1 }),
        (Act.activate a.agentName a.userMessage a.systemMessage w).2) := by
  cases found : runOf n w with
  | some id =>
    refine ⟨4, none, ?_⟩
    rw [activate_of_some serves found]
    simp only [alone, go, found]
  | none =>
    have activates := activate_of_none (a := a) serves found
    refine ⟨7, some (drawnRun (w.hub.runsDrawn + 1)), ?_⟩
    rw [activates]
    cases taken : starts n a (drawnRun (w.hub.runsDrawn + 1)) (registered w) with
    | ok e =>
      have there' : n < (onward e (registered w)).hub.requests.length := there
      simp only [alone, go, found, taken, runOf_noted there']
    | error f => simp only [alone, go, found, taken]

theorem finishRun_apply (id : String) (w : World κ α β ω) :
    Act.finishRun id w = match w.hub.engine.raise id .finish with
      | .ok e => (.ok (), forgot id (onward e w))
      | .error f => (.error f, forgot id w) := by
  have raises : Act.onEngine (Engine.raise id .finish) w = match w.hub.engine.raise id .finish with
      | .ok e => (.ok (), onward e w)
      | .error f => (.error f, w) := by
    cases taken : w.hub.engine.raise id .finish with
    | ok e => exact (Act.bind_apply_of_ok (x := Act.ofResult _) (congrArg (·, w) taken) _).trans rfl
    | error f => exact Act.bind_apply_of_error (x := Act.ofResult _) (congrArg (·, w) taken) _
  refine (Act.attempt_bind_apply _ _ w).trans ?_
  rw [raises]
  cases w.hub.engine.raise id .finish with
  | ok e | error f => rfl

/-- A thread that is left alone leaves its request as a block does that serves it. -/
theorem alone_leave {γ : Type} (x : Act κ α β ω γ) (w : World κ α β ω) :
    let served := Act.within (fun c => { c with request := some n })
      (fun before after => { after with request := before.request }) x
    ∃ k found, alone n k (looking, (served w).2) = (left found, (Act.serving n x w).2) ∧
      (Act.serving n x w).1 = match found with
        | some (_, .error f) => .error f
        | _ => (served w).1 := by
  intro served
  let w₁ := (served w).2
  have serves : Act.serving n x w = (do
      match (← Act.request n).run with
      | none => pure ()
      | some id => Act.andFinally (Act.finishRun id) (Act.setRun none)
      Act.ofResult (served w).1 : Act κ α β ω γ) w₁ := Act.attempt_bind_apply _ _ w
  have looks : Act.request n w₁ = (.ok (w₁.hub.requests.getD n {}), w₁) := rfl
  rw [serves, Act.bind_apply_of_ok looks]
  cases found : runOf n w₁ with
  | none =>
    refine ⟨1, none, ?_⟩
    simp only [alone, go, show runOf n (served w).2 = none from found]
    dsimp only [runOf] at found
    rw [found]
    exact ⟨rfl, rfl⟩
  | some id =>
    have finishes : Act.andFinally (Act.finishRun id) (Act.setRun none) w₁ =
        ((Act.finishRun id w₁).1, belonging none (Act.finishRun id w₁).2) := rfl
    rw [finishRun_apply] at finishes
    cases raised : w₁.hub.engine.raise id .finish with
    | ok e =>
      rw [raised] at finishes
      refine ⟨4, some (id, .ok ()), ?_⟩
      simp only [alone, go, show runOf n (served w).2 = some id from found,
        show (served w).2.hub.engine.raise id .finish = .ok e from raised]
      dsimp only [runOf] at found
      rw [found]
      dsimp only
      rw [Act.bind_apply_of_ok finishes]
      exact ⟨rfl, rfl⟩
    | error f =>
      rw [raised] at finishes
      refine ⟨4, some (id, .error f), ?_⟩
      simp only [alone, go, show runOf n (served w).2 = some id from found,
        show (served w).2.hub.engine.raise id .finish = .error f from raised]
      dsimp only [runOf] at found
      rw [found]
      dsimp only
      rw [Act.bind_apply_of_error finishes]
      exact ⟨rfl, rfl⟩

end Alone

end Place

/-! ## All threads together -/

/-- A thread that serves the request, or has served it. -/
structure Member where
  context : Context
  place : Place := .resting none

end Team

/-- The threads that serve one request, and what they share. -/
structure Team (κ α β ω : Type) where
  hub : Hub κ α β
  host : ω
  /-- The thread that has the lock of the request. -/
  holder : Option Nat := none
  /-- The thread that has opened the request comes first. -/
  members : List Team.Member

/-- The engine has started a workflow. -/
def EngineEntry.isStart : EngineEntry → Bool
  | .started _ _ _ => true
  | .raised _ _ _ => false

/-- The engine has taken the event that ends a run: which one. -/
def EngineEntry.ends? : EngineEntry → Option String
  | .raised id event _ => if event.kind = .done then some id else none
  | .started _ _ _ => none

/-- What a request and its run leave behind in the process. -/
structure Hub.View where
  request : Option Request
  live : Entries Nat
  drawn : Nat
  /-- The workflows that have been started. -/
  starts : List EngineEntry
  /-- The runs whose end the engine has heard of. -/
  ends : List String

/-- What is to be seen of a request. -/
def Hub.view {κ α β : Type} (n : Nat) (h : Hub κ α β) : Hub.View where
  request := h.requests[n]?
  live := h.exchange.live
  drawn := h.runsDrawn
  starts := h.engine.record.filter EngineEntry.isStart
  ends := h.engine.record.filterMap EngineEntry.ends?

namespace Team

variable {κ α β ω : Type}

/-- The world as a thread sees it. -/
def world (s : Team κ α β ω) (m : Member) : World κ α β ω := ⟨m.context, s.hub, s.host⟩

/-- A thread has come to a place, and leaves the world like this. -/
def put (i : Nat) (x : Place × World κ α β ω) (s : Team κ α β ω) : Team κ α β ω where
  hub := x.2.hub
  host := x.2.host
  holder := if x.1.holds then some i else if s.holder = some i then none else s.holder
  members := s.members.set i ⟨x.2.context, x.1⟩

/-- One step of a thread, or something else. -/
inductive Step (n : Nat) : Team κ α β ω → Team κ α β ω → Prop
  /-- A thread enters with a copy of the context of another one. -/
  | join {s : Team κ α β ω} {m : Member} (mem : m ∈ s.members) :
      Step n s { s with members := s.members ++ [⟨m.context, .resting none⟩] }
  | ask {s : Team κ α β ω} {i : Nat} {m : Member} {last : Option Returned} (there : s.members[i]? = some m)
      (rests : m.place = .resting last) (serves : m.context.request = some n) (a : Ask) :
      Step n s (s.put i (.asking ⟨a, m.context.run⟩, s.world m))
  /-- A thread takes the lock. -/
  | enter {s : Team κ α β ω} {i : Nat} {m : Member} {c : Call} (there : s.members[i]? = some m)
      (asks : m.place = .asking c) (free : s.holder = none) : Step n s (s.put i (.inside c, s.world m))
  | move {s : Team κ α β ω} {i : Nat} {m : Member} (there : s.members[i]? = some m) (busy : m.place.busy = true) :
      Step n s (s.put i (m.place.go n (s.world m)))
  /-- The thread that has opened the request leaves it; what it has served before is served again. -/
  | leave {s : Team κ α β ω} {m : Member} {last : Option Returned} (outer : Option Nat)
      (there : s.members[0]? = some m) (rests : m.place = .resting last) (serves : m.context.request = some n) :
      Step n s (s.put 0 (.looking, s.world { m with context := { m.context with request := outer } }))
  /-- Whatever else happens in the process: the engine opens and closes, calls come and go, and so on. -/
  | elsewhere {s : Team κ α β ω} (hub : Hub κ α β) (host : ω) (apart : hub.view n = s.hub.view n) :
      Step n s { s with hub, host }

/-- Whatever can come of a team. -/
abbrev Later (n : Nat) : Team κ α β ω → Team κ α β ω → Prop := Relation.ReflTransGen (Step n)

/-- One thread has just opened a request, which may have a name; ids that have not been drawn are not in use. -/
structure Opens (n : Nat) (name : Option String) (s : Team κ α β ω) : Prop where
  alone : ∃ context, s.members = [⟨context, .resting none⟩] ∧ context.request = some n
  free : s.holder = none
  request : s.hub.requests[n]? = some { agentName := name }
  fresh : ∀ m, s.hub.runsDrawn < m → drawnRun m ∉ Entries.keys s.hub.exchange.live

end Team
end Rendezvous
