import Rendezvous.Tool.Signature
import Rendezvous.Text.Lines
import Rendezvous.Text.Given
import Rendezvous.Text.Title
import Rendezvous.Contract.Chat

/-!
# What a model is told about a tool

A tool is an operation that a model may ask for.  Its specification is made from its signature: every
parameter that takes one argument becomes a property of the argument schema, in the order of the
signature, and those without a default are required.  A receiver is no property, and neither is a
private name.
-/

namespace Rendezvous

/-- An operation that a model may ask for. -/
structure Tool where
  name : String
  /-- The documentation that comes with the operation. -/
  documentation : Option String := none
  /-- The description given when the operation was made a tool. -/
  described : Option String := none
  signature : Signature := []

namespace ParameterType

/-- The schema of a type. -/
def schema : ParameterType → Entries Value
  | integer => [("type", .text "integer")]
  | number => [("type", .text "number")]
  | text => [("type", .text "string")]
  | boolean => [("type", .text "boolean")]
  | anything => []
  | listOf item => [("items", .dict item.schema), ("type", .text "array")]
  | dictOf anything => [("additionalProperties", .bool true), ("type", .text "object")]
  | dictOf value => [("additionalProperties", .dict value.schema), ("type", .text "object")]
  | optional t => [("anyOf", .list [.dict t.schema, .dict [("type", .text "null")]])]
  | either a b => [("anyOf", .list [.dict a.schema, .dict b.schema])]
  | oneOf words => [("enum", .ofTexts words), ("type", .text "string")]

end ParameterType

namespace Parameter

/-- The title of a parameter: its words with capitals. -/
def title (p : Parameter) : String :=
  let spaced := (Text.titleCase p.name).toList.map fun c => if c = '_' then ' ' else c
  String.ofList (Text.strip spaced)

/-- Whether a parameter is a property of the argument schema. -/
def isProperty (p : Parameter) : Bool :=
  p.takesOne && p.name != "self" && !p.name.startsWith "_"

/-- The schema of a parameter. -/
def schema (p : Parameter) : Entries Value :=
  p.type.schema ++ (p.default.map fun v => ("default", v)).toList ++ [("title", .text p.title)]

end Parameter

namespace Tool

/-- The description of a tool: the one given, or else the first line of its documentation. -/
def description (t : Tool) : String :=
  Text.orElse t.described (String.ofList (Text.firstLine (Text.cleaned (t.documentation.getD ""))))

/-- The name that configures a schema and cannot be one of its properties. -/
def configurationName : String := "model_config"

/-- The names of a schema's own operations, which cannot be properties of it. -/
def reservedNames : List String :=
  ["model_validate", "model_validate_json", "model_validate_strings", "model_dump",
   "model_dump_json"]

/-- The parameters that are properties of the argument schema. -/
def properties (t : Tool) : List Parameter := t.signature.filter Parameter.isProperty

/-- The schema of the arguments of a tool, as an object with a property for each of them. -/
def argumentSchema (t : Tool) : Result (Entries Value) := do
  if t.properties.any (·.name == configurationName) then
    throw (.of (.mismatch "a schema cannot be configured by a parameter"))
  match t.properties.find? fun p => reservedNames.contains p.name with
  | some p => throw (.of (.badName p.name))
  | none => pure ()
  let required := t.properties.filter Parameter.isRequired
  return [("properties", .dict (t.properties.map fun p => (p.name, .dict p.schema)))]
    ++ (if required.isEmpty then [] else [("required", .ofTexts (required.map (·.name)))])
    ++ [("title", .text (t.name ++ "_args")), ("type", .text "object")]

/-- What a model is told about a tool. -/
def specification (t : Tool) : Result ToolSpec := do
  return { name := t.name, description := t.description, parameters := ← t.argumentSchema }

end Tool
end Rendezvous
