import Rendezvous.Value.Order
import Rendezvous.Value.Shown

/-!
# Signatures

A signature lists the parameters of an operation.  `Signature.bind` gives each parameter its value from
positional and named arguments, or says what does not fit: positional arguments go to positional
parameters in order, named ones by name, defaults fill in, and what is left over goes to the rest
parameters if there are any.
-/

namespace Rendezvous

/-- How a parameter takes its arguments. -/
inductive ParameterKind where
  /-- By position or by name. -/
  | positional
  /-- By name only. -/
  | named
  /-- All positional arguments that are left over. -/
  | restPositional
  /-- All named arguments that are left over. -/
  | restNamed
  deriving Repr, DecidableEq

/-- What a parameter's values may be. -/
inductive ParameterType where
  | integer
  | number
  | text
  | boolean
  | anything
  | listOf (item : ParameterType)
  | dictOf (value : ParameterType)
  | optional (type : ParameterType)
  | either (first second : ParameterType)
  | oneOf (words : List String)

/-- A parameter of an operation. -/
structure Parameter where
  name : String
  kind : ParameterKind := .positional
  type : ParameterType := .anything
  default : Option Value := none

namespace Parameter

/-- Whether a parameter takes a single argument. -/
def takesOne (p : Parameter) : Bool := p.kind == .positional || p.kind == .named

/-- Whether an argument has to be given for a parameter. -/
def isRequired (p : Parameter) : Bool := p.takesOne && p.default.isNone

end Parameter

/-- The parameters of an operation, in order. -/
abbrev Signature := List Parameter

/-- The arguments of a call, sorted out. -/
structure Bound where
  /-- The values of the parameters that take one argument. -/
  values : Entries Value := []
  /-- Positional arguments that were left over. -/
  rest : List Value := []
  /-- Named arguments that were left over. -/
  extra : Entries Value := []

namespace Bound

/-- The value of a parameter. -/
def get (name : String) (b : Bound) : Value := (Entries.get? name b.values).getD .null

end Bound

namespace Signature

/-- The parameters of one kind. -/
def ofKind (kind : ParameterKind) (s : Signature) : Signature := s.filter (·.kind == kind)

/-- Names between quotes, with commas and a last "and". -/
def enumerated : List String → String
  | [] => ""
  | [a] => "'" ++ a ++ "'"
  | [a, b] => "'" ++ a ++ "' and '" ++ b ++ "'"
  | [a, b, c] => "'" ++ a ++ "', '" ++ b ++ "', and '" ++ c ++ "'"
  | a :: rest => "'" ++ a ++ "', " ++ enumerated rest

/-- A number of things. -/
def counted (n : Nat) (thing : String) : String :=
  toString n ++ " " ++ thing ++ (if n == 1 then "" else "s")

/-- The complaint about arguments that do not fit. -/
def misfit (callee text : String) : Failure := .of (.mismatch (callee ++ "() " ++ text))

/-- Sort out one named argument. -/
def place (callee : String) (s : Signature) (b : Bound) (argument : String × Value) : Result Bound :=
  let (name, value) := argument
  if s.any fun p => p.takesOne && p.name == name then
    if Entries.has name b.values then
      .error (misfit callee ("got multiple values for argument '" ++ name ++ "'"))
    else .ok { b with values := Entries.put name value b.values }
  else if s.any (·.kind == .restNamed) then .ok { b with extra := Entries.put name value b.extra }
  else .error (misfit callee ("got an unexpected keyword argument '" ++ name ++ "'"))

/-- The complaint about too many positional arguments; the receiver of the call counts as one. -/
def tooMany (callee : String) (s : Signature) (given : Nat) : Failure :=
  let ps := s.ofKind .positional
  let most := ps.length + 1
  let least := (ps.filter (·.default.isNone)).length + 1
  let range := if least == most then counted most "positional argument"
    else "from " ++ toString least ++ " to " ++ counted most "positional argument"
  misfit callee ("takes " ++ range ++ " but " ++ toString (given + 1)
    ++ (if given == 0 then " was given" else " were given"))

/-- The complaint about missing arguments of one kind. -/
def missing (callee kind : String) (names : List String) : Failure :=
  misfit callee ("missing " ++ counted names.length ("required " ++ kind ++ " argument") ++ ": "
    ++ enumerated names)

/-- The names of parameters of one kind that have neither an argument nor a default. -/
def lacking (kind : ParameterKind) (s : Signature) (b : Bound) : List String :=
  ((s.ofKind kind).filter fun p => p.default.isNone && !Entries.has p.name b.values).map (·.name)

/-- The values in the order of the parameters, defaults filled in. -/
def completed (s : Signature) (b : Bound) : Bound :=
  { b with values := (s.filter Parameter.takesOne).filterMap fun p =>
      ((Entries.get? p.name b.values).or p.default).map fun v => (p.name, v) }

/-- Give each parameter its value, or say what does not fit. -/
def bind (callee : String) (s : Signature) (args : List Value) (named : Entries Value) :
    Result Bound := do
  let ps := s.ofKind .positional
  let start : Bound := { values := (ps.map (·.name)).zip args, rest := args.drop ps.length }
  let b ← named.foldlM (place callee s) start
  if !b.rest.isEmpty && !s.any (·.kind == .restPositional) then
    throw (tooMany callee s args.length)
  match lacking .positional s b with
  | [] => pure ()
  | names => throw (missing callee "positional" names)
  match lacking .named s b with
  | [] => pure ()
  | names => throw (missing callee "keyword-only" names)
  return completed s b

end Signature
end Rendezvous
