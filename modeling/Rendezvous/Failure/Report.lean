import Rendezvous.Failure
import Rendezvous.Value

/-!
# Failures as data

A failure is reported by the kind of its reason, its message where the message is part of what callers
rely on, and its cause in the same form.  Problems of data are reported by their kinds and their places.
-/

namespace Rendezvous

/-- A step of a path as data. -/
def Step.toValue : Step → Value
  | name s => .text s
  | position n => .int n

/-- The name of a kind of problem. -/
def ProblemKind.name : ProblemKind → String
  | missing => "missing"
  | notObject => "model_type"
  | notText => "string_type"
  | notList => "list_type"
  | notDict => "dict_type"
  | notInteger => "int_type"
  | badIntegerText => "int_parsing"
  | integerTooLarge => "int_parsing_size"
  | fractional => "int_from_float"
  | notFinite => "finite_number"
  | notBoolean => "bool_type"
  | badBoolean => "bool_parsing"
  | notNumber => "float_type"
  | badNumberText => "float_parsing"
  | notInEnum => "enum"
  | notLiteral => "literal_error"
  | belowLimit => "greater_than_equal"
  | refused _ => "value_error"

/-- A problem as data. -/
def Problem.toValue (p : Problem) : Value :=
  .dict <| [("type", .text p.kind.name), ("loc", .list (p.path.map Step.toValue))]
    ++ match p.kind with
      | .refused m => [("msg", .text ("Value error, " ++ m))]
      | _ => []

namespace Reason

/-- The name of a kind of reason. -/
def kindName : Reason → String
  | badValue _ => "ValueError"
  | breakdown _ => "RuntimeError"
  | noKey _ => "KeyError"
  | noItem _ => "IndexError"
  | unreachable _ => "ConnectionError"
  | mismatch _ => "TypeError"
  | notImplemented _ => "NotImplementedError"
  | tool _ => "ToolError"
  | plannerState _ => "PlannerStateError"
  | noAttribute _ => "AttributeError"
  | badName _ => "NameError"
  | badJson => "JSONDecodeError"
  | badYaml => "YAMLError"
  | noFile _ => "FileNotFoundError"
  | callExecution .. => "CallExecutionError"
  | bridgeState _ => "ApplicationError"
  | blocked => "Blocked"
  | invalid _ => "ValidationError"

/-- What is told of a reason beside its kind. -/
def details : Reason → Entries Value
  | mismatch _ | noAttribute _ | badName _ | badJson | badYaml => []
  | invalid problems => [("errors", .list (problems.map Problem.toValue))]
  | bridgeState m =>
    [("message", .text m), ("type", .text "BridgeStateError"), ("non_retryable", .bool true)]
  | r => [("message", .text r.message)]

/-- The report of a reason. -/
def report (r : Reason) : Entries Value := ("error", .text r.kindName) :: r.details

end Reason

namespace Failure

/-- The report of a reason and those behind it. -/
def reportFrom : Reason → List Reason → Entries Value
  | r, [] => r.report
  | r, c :: rest => r.report ++ [("cause", .dict (reportFrom c rest))]

/-- The report of a failure. -/
def report (f : Failure) : Entries Value := reportFrom f.reason f.causes

/-- A failure as data. -/
def toValue (f : Failure) : Value := .dict f.report

end Failure

/-- The report of a result: its value, or the report of the failure. -/
def Result.report : Result Value → Entries Value
  | .ok v => [("ok", v)]
  | .error f => f.report

/-- A result as data. -/
def Result.toValue (r : Result Value) : Value := .dict (Result.report r)

end Rendezvous
