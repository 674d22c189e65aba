import Rendezvous.Yaml.Node
import Rendezvous.Yaml.Plain
import Rendezvous.Value.Order
import Rendezvous.Decimal.Layout

/-!
# YAML as data

`Data.ofText?` reads a text as data: every node becomes what its tag says.  A mapping may take over the
entries of others by a merge key; its own entries win over those.  The keys of a mapping may be any
simple data, but no collection, and of two keys that are equal the later value counts.
-/

namespace Rendezvous.Yaml

/-- Data with keys of any kind.  What has no place in a profile (dates, bytes, sets) is kept apart by
how it shows itself. -/
inductive Data where
  | null
  | bool (b : Bool)
  | int (n : Int)
  | float (x : Float)
  | text (s : String)
  | list (items : List Data)
  | map (entries : List (Data × Data))
  | other (shown : String)
  deriving Inhabited

/-- Why a text is not data. -/
inductive Trouble where
  /-- It is not well formed, or a tag does not fit. -/
  | malformed
  /-- A number that its tag announces cannot be read. -/
  | unreadable (message : String)
  /-- A word that its tag announces is unknown. -/
  | unknownWord (word : String)
  deriving Repr, DecidableEq

namespace Data

/-- Whether data may be a key. -/
def isSimple : Data → Bool
  | list _ | map _ => false
  | _ => true

/-- The value of simple data. -/
def simpleValue : Data → Value
  | bool b => .bool b
  | int n => .int n
  | float x => .float x
  | text s => .text s
  | _ => .null

/-- Whether two keys are the same. -/
def sameKey : Data → Data → Bool
  | null, null => true
  | other a, other b => a == b
  | null, _ => false
  | _, null => false
  | other _, _ => false
  | _, other _ => false
  | a, b => Value.same a.simpleValue b.simpleValue

/-- Write an entry: in the place of an equal key, or at the end. -/
def putEntry (key value : Data) : List (Data × Data) → List (Data × Data)
  | [] => [(key, value)]
  | (k, v) :: rest => if sameKey k key then (k, value) :: rest else (k, v) :: putEntry key value rest

/-- A mapping of entries, if their keys may be keys. -/
def ofEntries (entries : List (Data × Data)) : Except Trouble Data :=
  if entries.all fun (k, _) => k.isSimple then
    .ok (.map (entries.foldl (fun es (k, v) => putEntry k v es) []))
  else .error .malformed

/-! ## Scalars -/

/-- The value of digits in a base, low lines left out. -/
def digitsIn (base : Nat) (cs : List Char) : Option Nat :=
  if cs.isEmpty then none
  else cs.foldlM (fun n c => (Json.hexValue? c).bind fun d => if d < base then some (base * n + d) else none) 0

/-- Text between colons in base sixty. -/
def sixtieths {α : Type} (zero : α) (step : α → List Char → Option α) (cs : List Char) : Option α :=
  (Text.splitAt ':' cs).foldlM step zero

/-- An integer in any of its spellings. -/
def readInteger (s : String) : Except Trouble Data :=
  let cs := s.toList.filter (· != '_')
  let negative := cs.head? == some '-'
  let body := Plain.unsigned cs
  let read (base : Nat) (digits : List Char) : Except Trouble Nat :=
    match digitsIn base digits with
    | some n => .ok n
    | none => .error (.unreadable ("invalid literal for int() with base " ++ toString base ++ ": "
        ++ Text.quoted (String.ofList digits)))
  let magnitude : Except Trouble Nat :=
    match body with
    | ['0'] => .ok 0
    | '0' :: 'b' :: rest => read 2 rest
    | '0' :: 'x' :: rest => read 16 rest
    | '0' :: rest => read 8 ('0' :: rest)
    | _ =>
      if body.contains ':' then
        match sixtieths 0 (fun n part => (digitsIn 10 part).map (60 * n + ·)) body with
        | some n => .ok n
        | none => .error (.unreadable ("invalid literal for int() with base 10: "
            ++ Text.quoted (String.ofList body)))
      else read 10 body
  magnitude.map fun n => .int (if negative then -(n : Int) else n)

/-- A float in any of its spellings. -/
def readNumber (s : String) : Except Trouble Data :=
  let cs := (s.toList.filter (· != '_')).map Char.toLower
  let negative := cs.head? == some '-'
  let body := Plain.unsigned cs
  let sign (x : Float) : Data := .float (if negative then -x else x)
  if body == ".inf".toList then .ok (sign (1.0 / 0.0))
  else if body == ".nan".toList then .ok (.float (0.0 / 0.0))
  else if body.contains ':' then
    match sixtieths (0.0 : Float) (fun x part =>
        (Check.signedNumber? part).map fun y => 60.0 * x + y) body with
    | some x => .ok (sign x)
    | none => .error (.unreadable ("could not convert string to float: "
        ++ Text.quoted (String.ofList body)))
  else
    match Check.signedNumber? body with
    | some x => .ok (sign x)
    | none => .error (.unreadable ("could not convert string to float: "
        ++ Text.quoted (String.ofList body)))

/-- Yes or no. -/
def readBoolean (s : String) : Except Trouble Data :=
  let word := s.map Char.toLower
  match Plain.booleanWords.lookup word with
  | some b => .ok (.bool b)
  | none => .error (.unknownWord word)

/-- What a scalar with a tag stands for. -/
def ofScalar (tag s : String) : Except Trouble Data :=
  if tag == standardTag "null" then .ok .null
  else if tag == standardTag "str" then .ok (.text s)
  else if tag == standardTag "bool" then readBoolean s
  else if tag == standardTag "int" then readInteger s
  else if tag == standardTag "float" then readNumber s
  else if tag == standardTag "timestamp" || tag == standardTag "binary" then .ok (.other s)
  else .error .malformed

/-- The tag of a scalar: its own, or the one that its text decides on. -/
def scalarTag (tag : Option String) (s : String) : String :=
  tag.getD (standardTag (Kind.of s).name)

/-! ## Trees -/

/-- Whether a key stands for the entries of another mapping. -/
def isMergeKey : Node → Bool
  | .scalar tag s => scalarTag tag s == standardTag "merge"
  | _ => false

/-- Whether a key is the sign for the value of a mapping, which is text where a key is wanted. -/
def isValueKey : Node → Bool
  | .scalar tag s => scalarTag tag s == standardTag "value"
  | _ => false

/-- Entries as pairs. -/
def pairs (entries : List (Data × Data)) : Data := .list (entries.map fun (k, v) => .list [k, v])

/-- The single entries of items that are mappings of one entry each. -/
def singles : List Data → Except Trouble (List (Data × Data))
  | [] => .ok []
  | .map [e] :: rest => (singles rest).map (e :: ·)
  | _ :: _ => .error .malformed

mutual

/-- The data that a tree stands for. -/
def ofNode : Node → Except Trouble Data
  | .scalar tag s => ofScalar (scalarTag tag s) s
  | .sequence tag items => do
    let ds ← ofItems items
    if tag == standardTag "seq" then return .list ds
    else if tag == standardTag "omap" || tag == standardTag "pairs" then return pairs (← singles ds)
    else throw .malformed
  | .mapping tag entries => do
    let (merged, own) ← ofEntryNodes entries
    if tag == standardTag "map" then ofEntries (merged ++ own)
    else if tag == standardTag "set" then
      let _ ← ofEntries (merged ++ own)
      return .other "set"
    else throw .malformed
termination_by structural n => n

/-- The data of the items of a sequence. -/
def ofItems : List Node → Except Trouble (List Data)
  | [] => .ok []
  | n :: rest => do
    let d ← ofNode n
    return d :: (← ofItems rest)
termination_by structural ns => ns

/-- The entries of a mapping: those it takes over, and its own. -/
def ofEntryNodes : List (Node × Node) → Except Trouble (List (Data × Data) × List (Data × Data))
  | [] => .ok ([], [])
  | (k, v) :: rest => do
    if isMergeKey k then
      let taken ← takenFrom v
      let (merged, own) ← ofEntryNodes rest
      return (taken ++ merged, own)
    else
      let key ← if isValueKey k then pure (.text "=") else ofNode k
      let value ← ofNode v
      let (merged, own) ← ofEntryNodes rest
      return (merged, (key, value) :: own)
termination_by structural es => es

/-- The entries that a mapping takes over from the value of a merge key: a mapping, or a sequence of
mappings, the first of which wins. -/
def takenFrom : Node → Except Trouble (List (Data × Data))
  | .mapping _ entries => do
    let (merged, own) ← ofEntryNodes entries
    return merged ++ own
  | .sequence _ items => takenFromAll items
  | .scalar .. => .error .malformed
termination_by structural n => n

/-- The entries of mappings, those of the last one in front. -/
def takenFromAll : List Node → Except Trouble (List (Data × Data))
  | [] => .ok []
  | .mapping _ entries :: rest => do
    let (merged, own) ← ofEntryNodes entries
    return (← takenFromAll rest) ++ (merged ++ own)
  | _ :: _ => .error .malformed
termination_by structural ns => ns

end

/-- The data of a text; an empty text is null. -/
def ofText (text : String) : Except Trouble Data :=
  match (Token.ofText? text).bind Node.ofTokens? with
  | none => .error .malformed
  | some none => .ok .null
  | some (some n) => ofNode n

/-! ## As values -/

/-- A key as it is written where keys are texts. -/
def keyText : Data → String
  | null => "null"
  | bool b => if b then "true" else "false"
  | int n => toString n
  | float x => Decimal.Layout.json.write x
  | text s => s
  | other s => s
  | _ => ""

mutual

/-- Data as a value; keys that are no texts are written out. -/
def toValue : Data → Value
  | null => .null
  | bool b => .bool b
  | int n => .int n
  | float x => .float x
  | text s => .text s
  | list items => .list (toValues items)
  | map entries => .dict (Entries.ofPairs (toEntries entries))
  | other s => .text s
termination_by structural d => d

/-- A list of data as values. -/
def toValues : List Data → List Value
  | [] => []
  | d :: rest => toValue d :: toValues rest
termination_by structural ds => ds

/-- Entries of data as entries of values. -/
def toEntries : List (Data × Data) → List (String × Value)
  | [] => []
  | (k, v) :: rest => (keyText k, toValue v) :: toEntries rest
termination_by structural es => es

end

end Data
end Rendezvous.Yaml
