import Rendezvous.Failure
import Rendezvous.Value

/-!
# Failures described by data

A tool, a model or a script can be told to fail, and how: the description names the kind of failure, its
message and, if there is one, the description of its cause.  A kind that is not known is a breakdown.
-/

namespace Rendezvous.Failure

/-- The kinds of failure that a message is all there is to say about. -/
def kinds : List (String × (String → Reason)) := [
  ("ValueError", .badValue), ("RuntimeError", .breakdown), ("KeyError", .noKey),
  ("ConnectionError", .unreachable), ("TypeError", .mismatch),
  ("NotImplementedError", .notImplemented), ("ToolError", .tool),
  ("PlannerStateError", .plannerState)]

/-- A text of a description; empty if it is missing. -/
def describedText (key : String) (entries : List (String × Value)) : String :=
  match Entries.get? key entries with
  | some (.text s) => s
  | _ => ""

/-- The reason that a description gives, without its cause. -/
def describedReason (entries : List (String × Value)) : Reason :=
  let kind := describedText "kind" entries
  if kind = "CallExecutionError" then
    .callExecution (describedText "operation" entries) (describedText "run_id" entries)
      (describedText "call_id" entries)
  else (kinds.lookup kind).getD .breakdown (describedText "message" entries)

mutual

/-- The failure that a value describes; nothing if it is no dictionary. -/
def described? : Value → Option Failure
  | .dict entries =>
    let reason := describedReason entries
    some (match describedCause? entries with
      | some cause => because reason cause
      | none => of reason)
  | _ => none
termination_by structural v => v

/-- The failure that a description gives as the cause. -/
def describedCause? : List (String × Value) → Option Failure
  | [] => none
  | (key, v) :: rest => if key = "cause" then described? v else describedCause? rest
termination_by structural entries => entries

end

/-- The failure that a value describes. -/
def described (v : Value) : Failure := (described? v).getD (of (.breakdown ""))

end Rendezvous.Failure
