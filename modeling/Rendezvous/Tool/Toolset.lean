import Rendezvous.Tool.Specification

/-!
# Toolsets

A toolset is an object that offers tools.  Beside them it may have other operations and attributes,
which are no business of a model and are never routed.  An attribute that is set on the object hides
whatever else is known by its name; a tool that is hidden cannot be described any more.

A call names one of these and gives arguments.  `Toolset.call` is the call itself, with nothing around
it; a tool is told whether its call is the execution that the call activity has asked for.
-/

namespace Rendezvous

/-- An object that offers tools. -/
structure Toolset where
  /-- The kind of object; an operation is called by it in complaints. -/
  kind : String
  tools : List Tool
  /-- Operations that are no tools, with their parameters. -/
  operations : Entries Signature := []
  /-- Attributes that are no operations. -/
  attributes : Entries Value := []
  /-- What the tools and the other operations do, once the arguments of a call are sorted out. -/
  perform : (guarded : Bool) → (operation : String) → Bound → Result Value

/-- A call on an object that offers tools. -/
structure ToolCall where
  operation : String
  args : List Value := []
  named : Entries Value := []

/-- What an object knows by a name. -/
inductive Attribute where
  | tool (t : Tool)
  /-- An operation that is no tool, with its parameters. -/
  | operation (signature : Signature)
  | value (v : Value)

namespace Toolset

/-- The names of the tools, in alphabetical order. -/
def toolNames (s : Toolset) : List String := s.tools.map (·.name)

/-- The tool with a name. -/
def tool? (name : String) (s : Toolset) : Option Tool := s.tools.find? (·.name == name)

/-- How a toolset shows itself. -/
def shown (s : Toolset) : String := s.kind ++ "()"

/-- How a toolset shows itself when its tools are routed. -/
def routedShown (s : Toolset) : String := "DurableToolProxy(" ++ s.shown ++ ")"

/-- The name of an operation in complaints. -/
def callee (s : Toolset) (operation : String) : String := s.kind ++ "." ++ operation

/-- The complaint that there is no such attribute. -/
def noAttribute (kind name : String) : Failure :=
  .of (.noAttribute ("'" ++ kind ++ "' object has no attribute '" ++ name ++ "'"))

/-- The complaint that a value cannot be called. -/
def notCallable (v : Value) : Failure :=
  .of (.mismatch ("'" ++ v.kindName ++ "' object is not callable"))

/-! ## Attributes -/

/-- What is known by a name. -/
def attribute? (name : String) (s : Toolset) : Option Attribute :=
  match Entries.get? name s.attributes, s.tool? name, Entries.get? name s.operations with
  | some v, _, _ => some (.value v)
  | none, some t, _ => some (.tool t)
  | none, none, signature => signature.map .operation

/-- Set an attribute. -/
def setAttribute (name : String) (value : Value) (s : Toolset) : Toolset :=
  { s with attributes := Entries.put name value s.attributes }

/-- An attribute that has been set is what is known by its name. -/
theorem attribute?_setAttribute (name : String) (value : Value) (s : Toolset) :
    (s.setAttribute name value).attribute? name = some (.value value) := by
  simp [attribute?, setAttribute]

/-! ## Specifications -/

/-- What a model is told about a tool, unless a value hides it. -/
def specification (s : Toolset) (t : Tool) : Result ToolSpec :=
  match Entries.get? t.name s.attributes with
  | some v => .error (.of (.mismatch (v.literal ++ " is not a callable object")))
  | none => t.specification

/-- What a model is told about the tools. -/
def specifications (s : Toolset) : Result (List ToolSpec) := s.tools.mapM s.specification

/-! ## Calls -/

/-- The call of what is known by a name. -/
def callAttribute (guarded : Bool) (c : ToolCall) (s : Toolset) : Attribute → Result Value
  | .value v => .error (notCallable v)
  | .operation signature =>
    (signature.bind (s.callee c.operation) c.args c.named).bind (s.perform guarded c.operation)
  | .tool t =>
    (t.signature.bind (s.callee t.name) c.args c.named).bind (s.perform guarded t.name)

/-- A call, with nothing around it. -/
def call (guarded : Bool) (c : ToolCall) (s : Toolset) : Result Value :=
  match s.attribute? c.operation with
  | none => .error (noAttribute s.kind c.operation)
  | some a => s.callAttribute guarded c a

end Toolset
end Rendezvous
