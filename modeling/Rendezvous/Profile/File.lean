import Rendezvous.Profile
import Rendezvous.Yaml.Data

/-!
# Profiles from files

A profile can be kept in a YAML file.  What is wrong with the file is the cause of the complaint about
it: that it is not YAML, that it is no mapping with texts as keys, or that a field does not fit.
-/

namespace Rendezvous.Profile

/-- How a key that is no text appears in a path. -/
def keyStep : Yaml.Data → Step
  | .int n => if -Decimal.wordLimit ≤ n ∧ n < Decimal.wordLimit then .position n else .name (toString n)
  | .bool b => .position (if b then 1 else 0)
  | .null => .name "None"
  | .float x => .name (Decimal.Layout.plain.write x)
  | k => .name k.keyText

/-- The problems with keys of a dictionary that are no texts. -/
def keyProblems (field : String) (entries : List (Yaml.Data × Yaml.Data)) : List Problem :=
  entries.filterMap fun (k, _) =>
    match k with
    | .text _ => none
    | k => some { kind := .notText, path := [.name field, keyStep k, .name "[key]"] }

/-- A text key of an entry. -/
def textKey? : Yaml.Data × Yaml.Data → Option (String × Yaml.Data)
  | (.text s, v) => some (s, v)
  | _ => none

/-- The problems with the keys of the metadata. -/
def metadataProblems (fields : List (String × Yaml.Data)) : List Problem :=
  match fields.lookup "metadata" with
  | some (.map entries) => keyProblems "metadata" entries
  | _ => []

/-- A field of a profile as a value; data that has no value of its own fits no field. -/
def fieldValue : Yaml.Data → Value
  | .other _ => .list []
  | d => d.toValue

/-- A profile from data. -/
def ofData : Yaml.Data → Result Profile
  | .map entries =>
    match entries.mapM textKey? with
    | none => .error (.of (.mismatch "keywords must be strings"))
    | some fields =>
      let found := check (.dict (fields.map fun (k, v) => (k, fieldValue v)))
      match found, metadataProblems fields with
      | .ok p, [] => .ok p
      | .ok _, problems => .error (.of (.invalid problems))
      | .error problems, more => .error (.of (.invalid (problems ++ more)))
  | _ => .error (.of (.mismatch "the data is no mapping"))

/-- A profile from the text of the file at a path; no text means that there is no such file. -/
def ofFile (path : String) : Option String → Result Profile
  | none => .error (.of (.noFile ("Config file not found: " ++ path)))
  | some text =>
    match Yaml.Data.ofText text with
    | .error .malformed =>
      .error (.because (.badValue ("Invalid YAML in config file " ++ path)) (.of .badYaml))
    | .error (.unreadable message) => .error (.of (.badValue message))
    | .error (.unknownWord word) => .error (.of (.noKey word))
    | .ok .null => .error (.of (.badValue ("Config file " ++ path ++ " is empty")))
    | .ok data =>
      match ofData data with
      | .ok p => .ok p
      | .error cause => .error (.because (.badValue ("Error loading config from " ++ path)) cause)

end Rendezvous.Profile
