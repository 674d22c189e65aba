import Rendezvous.Condition
import Rendezvous.Failure.Described

/-!
# Conditions described by data

A description names a constant, an iteration, a failure, or a key of the shared state with a comparison.
-/

namespace Rendezvous.Condition

/-- The text under a key; empty if it is missing. -/
def textUnder (key : String) (v : Value) : String :=
  match v.field? key with
  | some (.text s) => s
  | _ => ""

/-- The condition that a value describes. -/
def described (v : Value) : Condition :=
  match v.field? "const", v.field? "iteration_ge", v.field? "raise" with
  | some answer, _, _ => constant answer
  | none, some least, _ => iterationFrom least
  | none, none, some failure => failing (.described failure)
  | none, none, none =>
    let key := textUnder "key" v
    let other := (v.field? "value").getD .null
    match textUnder "cmp" v with
    | "eq" => equals key other
    | "ge" => atLeast key other
    | _ => holds key

/-- The condition under a key of a description; a condition may be missing or null. -/
def describedAt? (key : String) (v : Value) : Option Condition :=
  match v.field? key with
  | none | some .null => none
  | some c => some (described c)

/-- The conditions of sub-agents, by their positions. -/
def describedAll (v : Value) : List (Int × Condition) :=
  match v with
  | .dict entries =>
    entries.filterMap fun (key, c) => key.toInt?.map fun n => (n, described c)
  | _ => []

end Rendezvous.Condition
