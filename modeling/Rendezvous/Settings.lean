import Rendezvous.Check
import Rendezvous.Settings.EnvFile
import Rendezvous.Text.Title

/-!
# Settings

What a worker is configured with.  A setting comes from the program, else from the environment, else
from the environment file, else it has its default; names are the same in any spelling of capitals
everywhere but in the program.
-/

namespace Rendezvous

/-- What a worker is configured with. -/
structure Settings where
  address : String := "localhost:7233"
  namespaceName : String := "default"
  taskQueue : String := "durable-agents-task-queue"
  /-- How many activities run at a time; also the size of the pool of threads they run on. -/
  activities : Int := 64
  workflowTasks : Int := 10
  modelKey : Option String := none
  model : String := "gpt-4o-mini"
  traceSecret : String := ""
  tracePublic : String := ""
  traceLocation : String := "https://us.cloud.langfuse.com"
  logLevel : String := "INFO"

namespace Settings

/-- Whether the credentials for tracing are there. -/
def tracingEnabled (s : Settings) : Bool := s.tracePublic != "" && s.traceSecret != ""

/-- The names of the log levels. -/
def logLevels : List String :=
  ["CRITICAL", "FATAL", "ERROR", "WARN", "WARNING", "INFO", "DEBUG", "NOTSET"]

/-- A letter as a capital.  Of the letters outside ASCII only two are written with a capital that a
level has: the dotless i and the long s. -/
def capital (c : Char) : Char :=
  if c = '\u0131' then 'I' else if c = '\u017f' then 'S' else c.toUpper

/-- A number of things that run at a time. -/
def concurrency (v : Value) : Checked Int :=
  match Check.integer v with
  | .ok n => if n < 1 then Checked.fail (.refused "Worker concurrency limits must be at least 1") else .ok n
  | .error ps => .error ps

/-- The name of a log level, in capitals. -/
def level (v : Value) : Checked String :=
  match Check.text v with
  | .ok s =>
    let name := s.map capital
    if logLevels.contains name then .ok name
    else Checked.fail (.refused ("Unknown log level: " ++ s))
  | .error ps => .error ps

/-- Read settings from data, with a default for every one of them. -/
def check (e : Entries Value) : Checked Settings :=
  let defaults : Settings := {}
  Settings.mk <$> Check.defaulted defaults.address Check.text "temporal_address" e
    <*> Check.defaulted defaults.namespaceName Check.text "temporal_namespace" e
    <*> Check.defaulted defaults.taskQueue Check.text "temporal_task_queue" e
    <*> Check.defaulted defaults.activities concurrency "worker_max_concurrent_activities" e
    <*> Check.defaulted defaults.workflowTasks concurrency "worker_max_concurrent_workflow_tasks" e
    <*> Check.defaulted defaults.modelKey (Check.optional Check.text) "openai_api_key" e
    <*> Check.defaulted defaults.model Check.text "openai_model" e
    <*> Check.defaulted defaults.traceSecret Check.text "langfuse_secret_key" e
    <*> Check.defaulted defaults.tracePublic Check.text "langfuse_public_key" e
    <*> Check.defaulted defaults.traceLocation Check.text "langfuse_base_url" e
    <*> Check.defaulted defaults.logLevel level "log_level" e

/-- All settings, and whether tracing is enabled. -/
def toValue (s : Settings) : Value := .dict [
  ("temporal_address", .text s.address), ("temporal_namespace", .text s.namespaceName),
  ("temporal_task_queue", .text s.taskQueue),
  ("worker_max_concurrent_activities", .int s.activities),
  ("worker_max_concurrent_workflow_tasks", .int s.workflowTasks),
  ("openai_api_key", .ofText? s.modelKey), ("openai_model", .text s.model),
  ("langfuse_secret_key", .text s.traceSecret), ("langfuse_public_key", .text s.tracePublic),
  ("langfuse_base_url", .text s.traceLocation), ("log_level", .text s.logLevel),
  ("tracing_enabled", .bool s.tracingEnabled)]

/-- A name in small letters. -/
def smallName (name : String) : String := String.ofList (name.toList.flatMap Text.smallForm)

/-- Entries under their names in small letters; of names that become the same the last one counts. -/
def smallNames {α : Type} (e : Entries α) : Entries α :=
  Entries.ofPairs (e.map fun (k, v) => (smallName k, v))

/-- The data that settings are read from: the file's bindings that have a value, over them the
environment, and over both what the program gives. -/
def merged (given : Entries Value) (environment : Entries String) (file : Option String) :
    Entries Value :=
  let bound := smallNames (EnvFile.resolve environment ((file.map EnvFile.bindings).getD []))
  let fromFile := bound.filterMap fun (k, v) => v.map fun s => (k, Value.text s)
  let fromEnvironment := (smallNames environment).map fun (k, v) => (k, Value.text v)
  Entries.update (Entries.update fromFile fromEnvironment) given

/-- Settings from the program, the environment and the environment file. -/
def load (given : Entries Value) (environment : Entries String) (file : Option String) :
    Result Settings :=
  (check (merged given environment file)).toResult

end Settings
end Rendezvous
