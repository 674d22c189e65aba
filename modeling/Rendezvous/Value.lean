import Rendezvous.Entries

/-!
# Value — the data that agents, tools and models pass around

A `Value` is what a tool takes and returns, what the shared state of an invocation holds and what
the arguments of a model's tool call are made of.  Integers are unbounded and are kept apart from
floats; a dictionary keeps its entries in the order in which its keys first came.
-/

namespace Rendezvous

/-- A piece of dynamic data. -/
inductive Value where
  | null
  | bool (b : Bool)
  | int (n : Int)
  | float (x : Float)
  | text (s : String)
  | list (items : List Value)
  | dict (entries : List (String × Value))
  deriving Inhabited

namespace Value

/-- Whether a value counts as holding: null, no, zero and the empty texts and containers do not. -/
def truthy : Value → Bool
  | null => false
  | bool b => b
  | int n => n != 0
  | float x => x != 0.0
  | text s => s != ""
  | list items => !items.isEmpty
  | dict entries => !entries.isEmpty

/-- A missing text is null. -/
def ofText? : Option String → Value
  | none => null
  | some s => text s

/-- A list of texts. -/
def ofTexts (ss : List String) : Value := list (ss.map text)

/-- A natural number. -/
def ofNat (n : Nat) : Value := int n

/-- The value under a key of a dictionary; nothing for any other value. -/
def field? (key : String) : Value → Option Value
  | dict entries => Entries.get? key entries
  | _ => none

end Value
end Rendezvous
