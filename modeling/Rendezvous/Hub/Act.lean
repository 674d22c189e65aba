import Rendezvous.Call.Exchange
import Rendezvous.Hub.Engine
import Rendezvous.Planning.Planner
import Rendezvous.Tracing.Tracer

/-!
# Acting on the hub

The hub is what the threads of a process share: the exchange of pending calls, the planners, the
scopes, the engine and the tracer.  Beside it every thread has a context of its own.  An action (`Act`)
runs on one thread: it starts from a context and the state of the hub, and it leaves a result, which may
be a failure, together with the context and the state as it left them; a failure undoes nothing.

The hub does not know what the calls are that it exchanges (`κ`), what comes of them (`α`), who takes
turns (`β`), and what else there is (`ω`).
-/

namespace Rendezvous

/-- What a thread carries with it. -/
structure Context where
  /-- Whether this is the execution of a call that the call activity has asked for. -/
  guarded : Bool := false
  /-- The run that calls belong to. -/
  run : Option String := none
  /-- The request that the thread serves. -/
  request : Option Nat := none
  /-- The span that the thread is inside of. -/
  span : Option TraceContext := none

/-- A request that starts at most one run, with its first routed call. -/
structure Request where
  agentName : Option String := none
  run : Option String := none

/-- What the threads of a process share. -/
structure Hub (κ α β : Type) where
  exchange : Exchange κ α := {}
  requests : List Request := []
  scopes : List Scope := []
  planners : List (Planner β) := []
  /-- The planners that are alive, by id. -/
  livePlanners : Entries Nat := []
  /-- The slots that the steps of orchestrations wait on; they are known by the order in which they
  came. -/
  turns : List (Slot Unit) := []
  engine : Engine := {}
  tracer : Tracer := {}
  /-- How many ids of runs, planners and calls have been drawn. -/
  runsDrawn : Nat := 0
  plannersDrawn : Nat := 0
  callsDrawn : Nat := 0

/-- The context of one thread, and all that it shares. -/
structure World (κ α β ω : Type) where
  context : Context := {}
  hub : Hub κ α β := {}
  host : ω

/-- An action of one thread. -/
def Act (κ α β ω γ : Type) : Type := World κ α β ω → Result γ × World κ α β ω

namespace Act

variable {κ α β ω γ δ : Type}

/-- An action that only has a result. -/
def ofResult (r : Result γ) : Act κ α β ω γ := fun w => (r, w)

instance : Monad (Act κ α β ω) where
  pure a := ofResult (.ok a)
  bind x f := fun w =>
    match x w with
    | (.ok a, w) => f a w
    | (.error e, w) => (.error e, w)

instance : MonadExceptOf Failure (Act κ α β ω) where
  throw f := ofResult (.error f)
  tryCatch x handle := fun w =>
    match x w with
    | (.ok a, w) => (.ok a, w)
    | (.error f, w) => handle f w

instance : Inhabited (Act κ α β ω γ) := ⟨throw default⟩

/-- The world as it is. -/
def world : Act κ α β ω (World κ α β ω) := fun w => (.ok w, w)

/-- Change the world. -/
def change (f : World κ α β ω → World κ α β ω) : Act κ α β ω Unit := fun w => (.ok (), f w)

/-- The result of an action, which may be a failure; the failure goes no further. -/
def attempt (x : Act κ α β ω γ) : Act κ α β ω (Result γ) := fun w =>
  match x w with
  | (r, w) => (.ok r, w)

/-- An action, and another one after it however it ends; a failure of the second one counts. -/
def andFinally (x : Act κ α β ω γ) (last : Act κ α β ω Unit) : Act κ α β ω γ := do
  let r ← attempt x
  last
  ofResult r

/-! ## The context -/

/-- The context of the thread. -/
def context : Act κ α β ω Context := fun w => (.ok w.context, w)

/-- Change the context of the thread. -/
def changeContext (f : Context → Context) : Act κ α β ω Unit :=
  change fun w => { w with context := f w.context }

/-- An action in a context made from that of the thread; afterwards a part of it is put back. -/
def within (enter : Context → Context) (leave : (before after : Context) → Context)
    (x : Act κ α β ω γ) : Act κ α β ω γ := do
  let before ← context
  changeContext enter
  andFinally x (changeContext (leave before))

/-- An action on a thread of its own, which begins with the given context. -/
def onThread (start : Context) (x : Act κ α β ω γ) : Act κ α β ω γ :=
  within (fun _ => start) (fun before _ => before) x

/-- An action as the execution of a call that the call activity has asked for. -/
def guarded (x : Act κ α β ω γ) : Act κ α β ω γ :=
  within (fun c => { c with guarded := true })
    (fun before after => { after with guarded := before.guarded }) x

/-- An action whose calls belong to a run. -/
def bindRun (run : Option String) (x : Act κ α β ω γ) : Act κ α β ω γ :=
  within (fun c => { c with run }) (fun before after => { after with run := before.run }) x

/-- From here on, calls belong to a run, or to none. -/
def setRun (run : Option String) : Act κ α β ω Unit := changeContext fun c => { c with run }

/-! ## The hub -/

/-- The hub. -/
def hub : Act κ α β ω (Hub κ α β) := fun w => (.ok w.hub, w)

/-- Change the hub. -/
def changeHub (f : Hub κ α β → Hub κ α β) : Act κ α β ω Unit :=
  change fun w => { w with hub := f w.hub }

/-- Change the exchange, and take something from it. -/
def onExchange (f : Exchange κ α → γ × Exchange κ α) : Act κ α β ω γ := fun w =>
  let (a, exchange) := f w.hub.exchange
  (.ok a, { w with hub := { w.hub with exchange } })

/-- Let the engine do something, which may fail. -/
def onEngine (f : Engine → Result Engine) : Act κ α β ω Unit := do
  let engine ← ofResult (f (← hub).engine)
  changeHub fun h => { h with engine }

/-- Change the tracer, and take something from it. -/
def onTracer (f : Tracer → γ × Tracer) : Act κ α β ω γ := fun w =>
  let (a, tracer) := f w.hub.tracer
  (.ok a, { w with hub := { w.hub with tracer } })

/-- The outcome in a slot.  Whoever reads a slot waits for it; where nobody is left to assign it, the
wait has no end. -/
def ofSlot (s : Slot γ) : Act κ α β ω γ :=
  match s.outcome? with
  | some outcome => ofResult outcome
  | none => throw (.of .blocked)

/-- The outcome of a call. -/
def await (slot : Nat) : Act κ α β ω α := do ofSlot ((← hub).exchange.slot slot)

/-! ## Lemmas -/

@[simp] theorem pure_apply (a : γ) (w : World κ α β ω) : (pure a : Act κ α β ω γ) w = (.ok a, w) := rfl

theorem bind_apply (x : Act κ α β ω γ) (f : γ → Act κ α β ω δ) (w : World κ α β ω) :
    (x >>= f) w = match x w with
      | (.ok a, w) => f a w
      | (.error e, w) => (.error e, w) := rfl

@[simp] theorem throw_apply (f : Failure) (w : World κ α β ω) :
    (throw f : Act κ α β ω γ) w = (.error f, w) := rfl

/-- What follows an action that has a result starts from where that action has left the world. -/
theorem bind_apply_of_ok {x : Act κ α β ω γ} {w w' : World κ α β ω} {a : γ}
    (h : x w = (.ok a, w')) (f : γ → Act κ α β ω δ) : (x >>= f) w = f a w' := by
  rw [bind_apply, h]

/-- A failure is the end, and the world stays as it was left. -/
theorem bind_apply_of_error {x : Act κ α β ω γ} {w w' : World κ α β ω} {e : Failure}
    (h : x w = (.error e, w')) (f : γ → Act κ α β ω δ) : (x >>= f) w = (.error e, w') := by
  rw [bind_apply, h]

instance : LawfulMonad (Act κ α β ω) := by
  refine LawfulMonad.mk' _ ?_ ?_ ?_
  · intro γ x
    funext w
    show (x >>= fun a => pure (id a)) w = x w
    rcases h : x w with ⟨_ | a, w'⟩
    · rw [bind_apply_of_error h]
    · rw [bind_apply_of_ok h, pure_apply, id]
  · intro γ δ a f
    rfl
  · intro γ δ ε x f g
    funext w
    rcases h : x w with ⟨_ | a, w'⟩
    · rw [bind_apply_of_error (bind_apply_of_error h f), bind_apply_of_error h]
    · rw [bind_apply_of_ok h, bind_apply (x >>= f), bind_apply_of_ok h, bind_apply]

@[simp] theorem attempt_apply (x : Act κ α β ω γ) (w : World κ α β ω) :
    attempt x w = (.ok (x w).1, (x w).2) := rfl

/-- An attempt never fails, so what follows it is always done. -/
theorem attempt_bind_apply (x : Act κ α β ω γ) (f : Result γ → Act κ α β ω δ) (w : World κ α β ω) :
    (attempt x >>= f) w = f (x w).1 (x w).2 := rfl

/-- Whatever an action does, and however it ends, its own thread ends with it. -/
theorem context_onThread (start : Context) (x : Act κ α β ω γ) (w : World κ α β ω) :
    (onThread start x w).2.context = w.context := rfl

/-- The guard is put back. -/
theorem guarded_guarded (x : Act κ α β ω γ) (w : World κ α β ω) :
    (guarded x w).2.context.guarded = w.context.guarded := rfl

/-- The run is put back. -/
theorem run_bindRun (run : Option String) (x : Act κ α β ω γ) (w : World κ α β ω) :
    (bindRun run x w).2.context.run = w.context.run := rfl

end Act
end Rendezvous
