import Rendezvous.Problem
import Rendezvous.Text.Quoted

/-!
# Failures

A `Failure` is a `Reason` together with the reasons that brought it about, the nearest first.  Code
that hands a failure on as the cause of its own puts its reason in front (`Failure.because`), so a chain
of any length is a list and `Failure.rootCause` is a plain recursion on it: it drops the reports of the
call activity as long as something is behind them.

`rootCause_of_not_report`, `rootCause_because_report` and `isReport_rootCause` say what it finds.
-/

namespace Rendezvous

/-- Why something failed. -/
inductive Reason where
  /-- An argument or a configuration that makes no sense. -/
  | badValue (message : String)
  /-- Something that should not have happened at run time. -/
  | breakdown (message : String)
  /-- A look-up of a key that is not there. -/
  | noKey (key : String)
  /-- A position past the end of a list. -/
  | noItem (message : String)
  /-- The workflow engine or another service cannot be reached. -/
  | unreachable (message : String)
  /-- A value of the wrong type, or arguments that do not fit. -/
  | mismatch (message : String)
  /-- An operation that has been declared and not written. -/
  | notImplemented (message : String)
  /-- A tool's own trouble. -/
  | tool (message : String)
  /-- A planner used outside its life cycle. -/
  | plannerState (message : String)
  /-- An attribute that the object does not have. -/
  | noAttribute (message : String)
  /-- A name that cannot be used for a field. -/
  | badName (message : String)
  /-- Text that is not JSON. -/
  | badJson
  /-- Text that is not YAML. -/
  | badYaml
  /-- A file that does not exist. -/
  | noFile (message : String)
  /-- The report of the call activity that a routed operation failed. -/
  | callExecution (operation runId callId : String)
  /-- A workflow refers to in-process state that has been torn down; trying again cannot help. -/
  | bridgeState (message : String)
  /-- A wait that has no end. -/
  | blocked
  /-- Data that does not fit its model. -/
  | invalid (problems : List Problem)
  deriving Repr, DecidableEq, Inhabited

/-- Problems on one line each: the path, then the kind. -/
def Problem.summary (p : Problem) : String :=
  ".".intercalate (p.path.map fun | .name s => s | .position n => toString n)

/-- The text of a reason. -/
def Reason.message : Reason → String
  | badValue m | breakdown m | unreachable m | mismatch m | notImplemented m | tool m
  | plannerState m | noItem m | noAttribute m | badName m | noFile m => m
  | bridgeState m => "BridgeStateError: " ++ m
  | noKey key => Text.quoted key
  | blocked => "nobody is left to assign the slot"
  | badJson => "not a JSON text"
  | badYaml => "not a YAML document"
  | callExecution operation _ _ => "Call execution failed: " ++ operation
  | invalid problems =>
    toString problems.length ++ " validation error(s): "
      ++ ", ".intercalate (problems.map Problem.summary)

/-- Whether a reason is the report of the call activity. -/
def Reason.isReport : Reason → Bool
  | callExecution .. => true
  | _ => false

/-- A reason and the chain of reasons behind it. -/
structure Failure where
  reason : Reason
  causes : List Reason := []
  deriving Repr, DecidableEq, Inhabited

namespace Failure

/-- The text of a failure. -/
def message (f : Failure) : String := f.reason.message

/-- A failure without a cause. -/
def of (reason : Reason) : Failure := { reason }

/-- A failure with another one as its cause. -/
def because (reason : Reason) (cause : Failure) : Failure :=
  { reason, causes := cause.reason :: cause.causes }

/-- The failure that is the direct cause, if there is one. -/
def cause? (f : Failure) : Option Failure :=
  match f.causes with
  | [] => none
  | r :: rest => some { reason := r, causes := rest }

@[simp] theorem cause?_of (reason : Reason) : (of reason).cause? = none := rfl

@[simp] theorem cause?_because (reason : Reason) (f : Failure) : (because reason f).cause? = some f := rfl

/-- The operation's own failure: reports of the call activity in front of it are dropped. -/
def rootCauseFrom : Reason → List Reason → Failure
  | r, [] => { reason := r }
  | r, c :: rest => if r.isReport then rootCauseFrom c rest else { reason := r, causes := c :: rest }

/-- The operation's own failure behind any reports of the call activity. -/
def rootCause (f : Failure) : Failure := rootCauseFrom f.reason f.causes

theorem rootCause_of_not_report {f : Failure} (h : f.reason.isReport = false) : f.rootCause = f := by
  obtain ⟨r, cs⟩ := f
  cases cs with
  | nil => rfl
  | cons c cs => simp only [rootCause, rootCauseFrom]; simp_all

theorem rootCause_because_report (operation runId callId : String) (f : Failure) :
    (because (.callExecution operation runId callId) f).rootCause = f.rootCause := by
  simp [because, rootCause, rootCauseFrom, Reason.isReport]

/-- What is found is no report, unless nothing is behind it. -/
theorem isReport_rootCause (f : Failure) :
    f.rootCause.reason.isReport = false ∨ f.rootCause.causes = [] := by
  obtain ⟨r, cs⟩ := f
  simp only [rootCause]
  induction cs generalizing r with
  | nil => exact Or.inr rfl
  | cons c cs ih =>
    simp only [rootCauseFrom]
    split
    · exact ih c
    · left; simp_all

end Failure

/-- A computation that may fail. -/
abbrev Result (α : Type) := Except Failure α

end Rendezvous
