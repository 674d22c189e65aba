import Rendezvous.Check

/-!
# The scope of an invocation

The state that the agents of one invocation share: agents read their inputs from it and write their
outputs to it, and conditions are asked about it.  A snapshot is a value of its own, so what is done
to it later cannot show in the scope.
-/

namespace Rendezvous

/-- The shared state of an invocation, and what else is known about it. -/
structure Scope where
  state : Entries Value := []
  metadata : Entries Value := []
  deriving Inhabited

namespace Scope

/-- A scope that holds the given state and, on top of it, the given values. -/
def of (state values : Entries Value) : Scope := { state := Entries.update state values }

/-- Store a value. -/
def write (key : String) (value : Value) (s : Scope) : Scope :=
  { s with state := Entries.put key value s.state }

/-- The value under a key, or a default. -/
def read (key : String) (default : Value) (s : Scope) : Value :=
  (Entries.get? key s.state).getD default

/-- Whether a key is known; its value may be null. -/
def has (key : String) (s : Scope) : Bool := Entries.has key s.state

/-- The state at this moment. -/
def snapshot (s : Scope) : Entries Value := s.state

@[simp] theorem read_write_self (key : String) (value default : Value) (s : Scope) :
    (s.write key value).read key default = value := by
  simp [read, write]

theorem read_write_of_ne {key other : String} (h : other ≠ key) (value default : Value) (s : Scope) :
    (s.write key value).read other default = s.read other default := by
  simp [read, write, Entries.get?_put_of_ne h]

/-- Read a scope from data. -/
def check : Value → Checked Scope := Check.object fun e =>
  Scope.mk <$> Check.defaulted [] Check.dict "state" e
    <*> Check.defaulted [] Check.dict "metadata" e

/-- All fields of a scope. -/
def toValue (s : Scope) : Value := .dict [
  ("state", .dict s.state), ("metadata", .dict s.metadata)]

end Scope
end Rendezvous
