import Rendezvous.Hub.Router

/-!
# Programs that call methods of shared objects

A `Body` is what a program or a method does on its thread: it reads and changes the objects that are wrapped,
and it calls their methods, whose failures it catches or hands on.  Methods are bodies again, so calls are
inside one another to any depth.

A body is performed twice.  `Body.interpret` leaves hub and router away: whoever is called is executed then
and there (`plainly`).  `Body.act` makes every call through the router, and so do the methods that are
executed (`performer`).
-/

namespace Rendezvous

set_option autoImplicit false

/-- What a program or a method does. -/
inductive Body (κ α ω γ : Type) where
  | done (r : Result γ)
  /-- The objects are read and changed. -/
  | touch (write : ω → ω) (next : ω → Body κ α ω γ)
  | call (c : RoutedCall κ) (next : Result α → Body κ α ω γ)

/-- The wrapped objects, and the methods that have been executed, in order. -/
structure Objects (κ ω : Type) where
  state : ω
  executed : List κ := []

namespace Objects

variable {κ ω : Type}

/-- A method is about to be executed. -/
def note (k : κ) (x : Objects κ ω) : Objects κ ω := { x with executed := x.executed ++ [k] }

/-- Change the objects themselves. -/
def touch (write : ω → ω) (x : Objects κ ω) : Objects κ ω := { x with state := write x.state }

end Objects

/-- What comes of a call, and what it makes of the objects. -/
abbrev Answering (κ α ω : Type) : Type := κ → Objects κ ω → Result α × Objects κ ω

/-- The failure of a call that has too many others around it. -/
def tooDeep : Failure := .of (.breakdown "maximum recursion depth exceeded")

variable {κ α β ω γ : Type}

/-! ## Without a router -/

namespace Body

/-- A body whose calls are answered. -/
def interpret (answer : Answering κ α ω) : Body κ α ω γ → Objects κ ω → Result γ × Objects κ ω
  | done r, x => (r, x)
  | touch write next, x => (next x.state).interpret answer (x.touch write)
  | call c next, x => (next (answer c.call x).1).interpret answer (answer c.call x).2

/-- The calls that a body makes itself, in order, and what comes of them. -/
def calls (answer : Answering κ α ω) : Body κ α ω γ → Objects κ ω → List (RoutedCall κ × Result α)
  | done _, _ => []
  | touch write next, x => (next x.state).calls answer (x.touch write)
  | call c next, x => (c, (answer c.call x).1) :: (next (answer c.call x).1).calls answer (answer c.call x).2

end Body

/-- Methods that are executed where they are called; so many calls may be inside one another. -/
def plainly (methods : κ → Body κ α ω α) : Nat → Answering κ α ω
  | 0, _, x => (.error tooDeep, x)
  | depth + 1, k, x => (methods k).interpret (plainly methods depth) (x.note k)

/-- Answers whose failures are those of the operation itself. -/
def unwrapped (answer : Answering κ α ω) : Answering κ α ω := fun k x =>
  ((answer k x).1.mapError Failure.rootCause, (answer k x).2)

/-! ## With a router -/

/-- A body that makes its calls through the router. -/
def Body.act (h : Performer κ α β (Objects κ ω)) : Body κ α ω γ → Act κ α β (Objects κ ω) γ
  | done r => Act.ofResult r
  | touch write next => do
    let x := (← Act.world).host
    Act.change fun w => { w with host := w.host.touch write }
    (next x.state).act h
  | call c next => do
    let r ← Act.attempt (Act.route h c)
    (next r).act h

/-- Methods that make their calls through the router. -/
def performer (methods : κ → Body κ α ω α) (text : α → Option String) :
    Nat → Performer κ α β (Objects κ ω)
  | 0 => { text, perform := fun _ => throw tooDeep }
  | depth + 1 => { text, perform := fun k => do
      Act.change fun w => { w with host := w.host.note k }
      (methods k).act (performer methods text depth) }

end Rendezvous
