import Rendezvous.Scope
import Rendezvous.Value.Order

/-!
# Conditions

A condition decides whether a loop ends or whether a sub-agent runs.  Its answer is a value: whoever
asks goes by whether the value counts as holding.
-/

namespace Rendezvous

/-- A question about the shared state and, for the end of a loop, the iteration. -/
inductive Condition where
  /-- Always the same answer. -/
  | constant (answer : Value)
  /-- Whether the loop has come to an iteration. -/
  | iterationFrom (least : Value)
  /-- The question itself fails. -/
  | failing (failure : Failure)
  /-- The value under a key; null if there is none. -/
  | holds (key : String)
  /-- Whether the value under a key is the same as another one. -/
  | equals (key : String) (other : Value)
  /-- Whether the value under a key, or zero if it does not hold, is at least another one. -/
  | atLeast (key : String) (other : Value)
  /-- Any other question. -/
  | rule (answer : Scope → Int → Result Value)

namespace Condition

/-- The answer of a condition. -/
def ask (s : Scope) (iteration : Int) : Condition → Result Value
  | constant answer => .ok answer
  | iterationFrom least => (Value.atLeast (.int iteration) least).map .bool
  | failing failure => .error failure
  | holds key => .ok (s.read key .null)
  | equals key other => .ok (.bool (Value.same (s.read key .null) other))
  | atLeast key other =>
    let found := s.read key .null
    (Value.atLeast (if found.truthy then found else .int 0) other).map .bool
  | rule answer => answer s iteration

/-- Whether a condition holds. -/
def verdict (s : Scope) (iteration : Int) (c : Condition) : Result Bool :=
  (c.ask s iteration).map Value.truthy

end Condition
end Rendezvous
