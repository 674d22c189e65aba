import Rendezvous.Value
import Rendezvous.Text.Quoted
import Rendezvous.Decimal.Layout

/-!
# Writing JSON

`Json.write` writes a value as one line of ASCII: `", "` and `": "` separate, characters outside
ASCII are escaped by their UTF-16 units, entries keep their order.
-/

namespace Rendezvous.Json

/-- The UTF-16 units of a character. -/
def utf16 (c : Char) : List Nat :=
  let n := c.toNat
  if n < 0x10000 then [n] else [0xd800 + (n - 0x10000) / 0x400, 0xdc00 + (n - 0x10000) % 0x400]

/-- One UTF-16 unit as an escape. -/
def unitEscape (unit : Nat) : List Char := '\\' :: 'u' :: Text.hexDigits 4 unit

/-- How one character is written in a string. -/
def writeChar (c : Char) : List Char :=
  if c = '"' then ['\\', '"']
  else if c = '\\' then ['\\', '\\']
  else if c = '\n' then ['\\', 'n']
  else if c = '\r' then ['\\', 'r']
  else if c = '\t' then ['\\', 't']
  else if c = '\x08' then ['\\', 'b']
  else if c = '\x0c' then ['\\', 'f']
  else if 0x20 ≤ c.toNat ∧ c.toNat < 0x7f then [c]
  else (utf16 c).flatMap unitEscape

/-- A string between its quotes. -/
def writeString (s : String) : List Char := '"' :: (s.toList.flatMap writeChar ++ ['"'])

mutual

/-- The characters of a value. -/
def writeValue : Value → List Char
  | .null => "null".toList
  | .bool true => "true".toList
  | .bool false => "false".toList
  | .int n => (toString n).toList
  | .float x => (Decimal.Layout.json.write x).toList
  | .text s => writeString s
  | .list items => '[' :: writeItems items
  | .dict entries => '\x7b' :: writeEntries entries
termination_by structural v => v

/-- The items of a list and the closing bracket. -/
def writeItems : List Value → List Char
  | [] => [']']
  | [v] => writeValue v ++ [']']
  | v :: rest => writeValue v ++ (',' :: ' ' :: writeItems rest)
termination_by structural vs => vs

/-- The entries of a dictionary and the closing brace. -/
def writeEntries : List (String × Value) → List Char
  | [] => ['\x7d']
  | [(k, v)] => writeString k ++ (':' :: ' ' :: writeValue v) ++ ['\x7d']
  | (k, v) :: rest => writeString k ++ (':' :: ' ' :: writeValue v) ++ (',' :: ' ' :: writeEntries rest)
termination_by structural es => es

end

/-- A value as JSON text. -/
def write (v : Value) : String := String.ofList (writeValue v)

end Rendezvous.Json
