import Rendezvous.Tool.Toolset

/-!
# Toolsets whose tools are routed

Around a toolset there can be another object that offers the same and has its tools routed.  It has names
of its own, which hide what the toolset knows by them; everything else is looked up in the toolset.  Whoever
may ask for things by any name reaches all of these, not only the tools.
-/

namespace Rendezvous

/-- What an object around a toolset has for itself. -/
inductive OwnAttribute where
  /-- The operation that answers the names of the tools. -/
  | toolNames
  /-- The operation that answers what a model is told about the tools. -/
  | specifications
  /-- An operation that shows the object. -/
  | shown
  /-- The operation that looks an attribute of the toolset up. -/
  | getter
  /-- The operation that sets an attribute of the toolset. -/
  | setter
  /-- The operation that makes such an object around something else. -/
  | maker
  /-- The operation that puts the object around something else. -/
  | initializer
  /-- An operation that answers nothing. -/
  | nothing
  /-- An operation of every object that takes no arguments by name. -/
  | common
  /-- A part of the object itself, which cannot be called. -/
  | part

/-- What an object around a toolset knows by a name. -/
inductive RoutedAttribute where
  /-- Something of its own. -/
  | own (a : OwnAttribute)
  /-- A tool of the toolset; its calls are routed. -/
  | tool
  /-- Anything else that the toolset knows. -/
  | other (a : Attribute)

namespace Toolset

/-- The names of the parts of an object around a toolset. -/
def partNames : List String :=
  ["wrapped", "_target", "_router", "_tool_names", "__dict__", "__doc__", "__module__"]

/-- The names of the operations that every object has. -/
def commonNames : List String :=
  ["__delattr__", "__dir__", "__eq__", "__format__", "__ge__", "__getattribute__", "__getstate__",
   "__gt__", "__hash__", "__le__", "__lt__", "__ne__", "__new__", "__reduce__", "__reduce_ex__",
   "__sizeof__", "__subclasshook__"]

/-- What the object around a toolset knows by names of its own. -/
def ownAttributes : Entries OwnAttribute :=
  [("tool_names", .toolNames), ("tool_specifications", .specifications), ("__repr__", .shown),
   ("__str__", .shown), ("__getattr__", .getter), ("__setattr__", .setter), ("__class__", .maker),
   ("__init__", .initializer), ("__init_subclass__", .nothing)]
    ++ partNames.map (·, .part) ++ commonNames.map (·, .common)

/-- What the object around a toolset knows by a name. -/
def routed? (name : String) (s : Toolset) : Option RoutedAttribute :=
  match Entries.get? name ownAttributes with
  | some a => some (.own a)
  | none => if s.toolNames.contains name then some .tool else (s.attribute? name).map .other

/-! ## Calls of what the object around a toolset has for itself -/

/-- Sort out the arguments of an operation of the object around a toolset. -/
def ownArguments (c : ToolCall) (signature : Signature) : Result Bound :=
  signature.bind ("DurableToolProxy." ++ c.operation) c.args c.named

/-- An argument that has to be the name of an attribute. -/
def attributeName (b : Bound) : Result String :=
  match b.get "name" with
  | .text name => .ok name
  | v => .error (.of (.mismatch ("attribute name must be string, not '" ++ v.kindName ++ "'")))

/-- What is known by a name as a value; an operation is one only as far as it can be shown. -/
def lookUp (name : String) (s : Toolset) : Result Value :=
  match s.attribute? name with
  | none => .error (noAttribute s.kind name)
  | some (.value v) => .ok v
  | some (.tool _) => .ok (.text "<function DurableToolProxy.__getattr__.<locals>.routed>")
  | some (.operation _) => .ok (.text ("<bound method " ++ s.callee name ++ " of " ++ s.shown ++ ">"))

/-- A value in the place of a toolset: it offers no tools. -/
def around (v : Value) : Toolset where
  kind := v.kindName
  tools := []
  perform _ operation _ := .error (noAttribute v.kindName operation)

/-- The parameters of what is made or put around something. -/
def targetParameters : Signature := [{ name := "target" }, { name := "router" }]

/-- The call of something that the object around a toolset has for itself: what it answers, and the toolset
afterwards. -/
def callOwn (c : ToolCall) (s : Toolset) : OwnAttribute → Result (Value × Toolset)
  | .toolNames => do
    let _ ← ownArguments c []
    return (.ofTexts s.toolNames, s)
  | .specifications => do
    let _ ← ownArguments c []
    return (.list ((← s.specifications).map ToolSpec.toValue), s)
  | .shown => do
    let _ ← ownArguments c []
    return (.text s.routedShown, s)
  | .getter => do
    let b ← ownArguments c [{ name := "name" }]
    return (← s.lookUp (← attributeName b), s)
  | .setter => do
    let b ← ownArguments c [{ name := "name" }, { name := "value" }]
    return (.null, s.setAttribute (← attributeName b) (b.get "value"))
  | .maker => do
    let b ← ownArguments c targetParameters
    return (.text ("DurableToolProxy(" ++ (b.get "target").literal ++ ")"), s)
  | .initializer => do
    let b ← ownArguments c targetParameters
    return (.null, around (b.get "target"))
  | .nothing => do
    let _ ← ownArguments c []
    return (.null, s)
  | .common => .error (.of (.mismatch (c.operation ++ "() takes no keyword arguments")))
  | .part => .error (.of (.mismatch "object is not callable"))

end Toolset
end Rendezvous
