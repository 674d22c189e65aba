import Rendezvous.Value
import Rendezvous.Text.Quoted
import Rendezvous.Decimal.Layout

/-!
# How a value is shown

`Value.literal` writes a value so that its parts can be told apart: texts between quotes, lists in
brackets, dictionaries in braces with their entries in order.  `Value.shown` is the same, except that
a text on its own is shown as it is.  Payloads of recorded calls, rendered templates, answers of tools
and texts of results are all written by these two.
-/

namespace Rendezvous

/-- Write parts with a separator between them. -/
def joined (separator : String) (parts : List String) : String := separator.intercalate parts

namespace Value

mutual

/-- A value as it is written inside a larger one. -/
def literal : Value → String
  | null => "None"
  | bool true => "True"
  | bool false => "False"
  | int n => toString n
  | float x => Decimal.Layout.plain.write x
  | text s => Text.quoted s
  | list items => "[" ++ joined ", " (literals items) ++ "]"
  | dict entries => "\x7b" ++ joined ", " (entryLiterals entries) ++ "\x7d"
termination_by structural v => v

/-- The literals of the items of a list. -/
def literals : List Value → List String
  | [] => []
  | v :: rest => literal v :: literals rest
termination_by structural vs => vs

/-- The literals of the entries of a dictionary, each a key and a value. -/
def entryLiterals : List (String × Value) → List String
  | [] => []
  | (k, v) :: rest => (Text.quoted k ++ ": " ++ literal v) :: entryLiterals rest
termination_by structural es => es

end

/-- A value as text: a text is itself, anything else its literal. -/
def shown : Value → String
  | text s => s
  | v => literal v

end Value

/-- A list of texts as it is written in messages. -/
def listLiteral (ss : List String) : String := (Value.ofTexts ss).literal

/-- The recorded text of a call: positional arguments, then named ones, in brackets. -/
def describeArguments (args : List Value) (named : Entries Value) : String :=
  let pairs := named.map fun (k, v) => k ++ "=" ++ v.literal
  "[" ++ joined ", " (args.map Value.literal ++ pairs) ++ "]"

end Rendezvous
