/-!
# What is wrong with a piece of data

Checking data against a model reports every `Problem` it finds, each with the path to the offending
part: names of fields and positions in lists from the outside in.
-/

namespace Rendezvous

/-- One step of a path into data. -/
inductive Step where
  | name (s : String)
  | position (n : Int)
  deriving Repr, DecidableEq

/-- The ways in which a part can fail its check. -/
inductive ProblemKind where
  | missing
  | notObject
  | notText
  | notList
  | notDict
  | notInteger
  | badIntegerText
  | integerTooLarge
  | fractional
  | notFinite
  | notBoolean
  | badBoolean
  | notNumber
  | badNumberText
  | notInEnum
  | notLiteral
  | belowLimit
  | refused (message : String)
  deriving Repr, DecidableEq

/-- A kind of trouble and where it is. -/
structure Problem where
  kind : ProblemKind
  path : List Step := []
  deriving Repr, DecidableEq

/-- The problem as seen from one level further out. -/
def Problem.under (step : Step) (p : Problem) : Problem := { p with path := step :: p.path }

end Rendezvous
