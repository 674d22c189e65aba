import Rendezvous.Value
import Rendezvous.Decimal.Reader

/-!
# Reading JSON

`Json.read?` reads one JSON text.  An object keeps its keys in order (of a repeated key the last
value wins, at the place of the first), a number without fraction and exponent is an integer of any
size, and `NaN`, `Infinity` and `-Infinity` are numbers.  Each part of the grammar is a function from
the characters left to a result and the characters after it.  A step either takes a character or is followed by one that does, so twice the
length of the text is fuel enough for all of them.
-/

namespace Rendezvous.Json

/-- The blanks that may stand between tokens. -/
def isSpace (c : Char) : Bool := c == ' ' || c == '\t' || c == '\n' || c == '\r'

/-- The characters after any blanks. -/
def skipSpace (cs : List Char) : List Char := cs.dropWhile isSpace

/-- The value of a hexadecimal digit. -/
def hexValue? (c : Char) : Option Nat :=
  if '0' ≤ c ∧ c ≤ '9' then some (c.toNat - 48)
  else if 'a' ≤ c ∧ c ≤ 'f' then some (c.toNat - 87)
  else if 'A' ≤ c ∧ c ≤ 'F' then some (c.toNat - 55)
  else none

/-- The UTF-16 unit that four hexadecimal digits name. -/
def readUnit? : List Char → Option (Nat × List Char)
  | a :: b :: c :: d :: rest => do
    let a ← hexValue? a
    let b ← hexValue? b
    let c ← hexValue? c
    let d ← hexValue? d
    some (a * 4096 + b * 256 + c * 16 + d, rest)
  | _ => none

/-- The character of an escape other than a numeric one. -/
def plainEscape? : Char → Option Char
  | '"' => some '"'
  | '\\' => some '\\'
  | '/' => some '/'
  | 'b' => some '\x08'
  | 'f' => some '\x0c'
  | 'n' => some '\n'
  | 'r' => some '\r'
  | 't' => some '\t'
  | _ => none

/-- A character from its UTF-16 unit, together with the next escape if the two are a pair. A unit
without its other half stands for no character and is shown as the replacement character. -/
def joinUnits (unit : Nat) (rest : List Char) : Char × List Char :=
  if 0xd800 ≤ unit ∧ unit ≤ 0xdbff then
    match rest with
    | '\\' :: 'u' :: more =>
      match readUnit? more with
      | some (low, after) =>
        if 0xdc00 ≤ low ∧ low ≤ 0xdfff then
          (Char.ofNat (0x10000 + (unit - 0xd800) * 0x400 + (low - 0xdc00)), after)
        else ('\ufffd', rest)
      | none => ('\ufffd', rest)
    | _ => ('\ufffd', rest)
  else if 0xdc00 ≤ unit ∧ unit ≤ 0xdfff then ('\ufffd', rest)
  else (Char.ofNat unit, rest)

/-- The characters of a string up to its closing quote, and what follows the quote. -/
def readChars : (fuel : Nat) → List Char → Option (List Char × List Char)
  | 0, _ => none
  | _ + 1, [] => none
  | fuel + 1, c :: rest =>
    if c = '"' then some ([], rest)
    else if c = '\\' then
      match rest with
      | [] => none
      | e :: more =>
        if e = 'u' then do
          let (unit, after) ← readUnit? more
          let (c, after) := joinUnits unit after
          let (cs, after) ← readChars fuel after
          some (c :: cs, after)
        else do
          let c ← plainEscape? e
          let (cs, after) ← readChars fuel more
          some (c :: cs, after)
    else if c.toNat < 0x20 then none
    else do
      let (cs, after) ← readChars fuel rest
      some (c :: cs, after)

/-- A string whose opening quote has been read. -/
def readString? (fuel : Nat) (cs : List Char) : Option (String × List Char) := do
  let (s, rest) ← readChars fuel cs
  some (String.ofList s, rest)

/-- The digits at the front, and what follows. -/
def spanDigits (cs : List Char) : List Char × List Char := cs.span Decimal.isDigit

/-- The fraction at the front: a point and at least one digit. -/
def readFraction (cs : List Char) : Option (List Char) × List Char :=
  match cs with
  | '.' :: rest =>
    match spanDigits rest with
    | ([], _) => (none, cs)
    | (ds, after) => (some ds, after)
  | _ => (none, cs)

/-- The exponent at the front: a letter, an optional sign and at least one digit. -/
def readExponent (cs : List Char) : Option Int × List Char :=
  match cs with
  | e :: rest =>
    if e = 'e' ∨ e = 'E' then
      let (negative, digits) :=
        match rest with
        | '-' :: more => (true, more)
        | '+' :: more => (false, more)
        | _ => (false, rest)
      match spanDigits digits with
      | ([], _) => (none, cs)
      | (ds, after) =>
        let n : Int := Decimal.digitsValue ds
        (some (if negative then -n else n), after)
    else (none, cs)
  | [] => (none, cs)

/-- A number at the front, its sign already read. -/
def readNumber? (negative : Bool) (cs : List Char) : Option (Value × List Char) :=
  let (whole, rest) :=
    match cs with
    | '0' :: rest => (['0'], rest)
    | _ => spanDigits cs
  if whole.isEmpty then none
  else
    let (fraction, rest) := readFraction rest
    let (exponent, rest) := readExponent rest
    if fraction.isNone && exponent.isNone then
      let n : Int := Decimal.digitsValue whole
      some (.int (if negative then -n else n), rest)
    else
      some (.float (Decimal.Written.toFloat
        { negative, whole, fraction := fraction.getD [], exponent := exponent.getD 0 }), rest)

/-- The rest after a word, if the characters start with it. -/
def dropWord? : (word : List Char) → List Char → Option (List Char)
  | [], cs => some cs
  | _ :: _, [] => none
  | w :: ws, c :: cs => if w = c then dropWord? ws cs else none

/-- The values that are written as words. -/
def words : List (List Char × Value) :=
  [("null".toList, .null), ("true".toList, .bool true), ("false".toList, .bool false),
   ("NaN".toList, .float (0.0 / 0.0)), ("Infinity".toList, .float (1.0 / 0.0)),
   ("-Infinity".toList, .float (-1.0 / 0.0))]

/-- A word at the front. -/
def readWord? (cs : List Char) : Option (Value × List Char) :=
  words.findSome? fun (w, v) => (dropWord? w cs).map fun rest => (v, rest)

mutual

/-- A value at the front. -/
def readValue : (fuel : Nat) → List Char → Option (Value × List Char)
  | 0, _ => none
  | _ + 1, [] => none
  | fuel + 1, c :: rest =>
    if c = '"' then (readString? (fuel + 1) rest).map fun (s, after) => (.text s, after)
    else if c = '[' then
      match skipSpace rest with
      | ']' :: after => some (.list [], after)
      | _ => (readItems fuel rest).map fun (vs, after) => (.list vs, after)
    else if c = '\x7b' then
      match skipSpace rest with
      | '\x7d' :: after => some (.dict [], after)
      | _ => (readMembers fuel rest).map fun (ms, after) => (.dict (Entries.ofPairs ms), after)
    else
      match readWord? (c :: rest) with
      | some found => some found
      | none => if c = '-' then readNumber? true rest else readNumber? false (c :: rest)

/-- The items of a list that is not empty, and its closing bracket. -/
def readItems : (fuel : Nat) → List Char → Option (List Value × List Char)
  | 0, _ => none
  | fuel + 1, cs => do
    let (v, rest) ← readValue fuel (skipSpace cs)
    match skipSpace rest with
    | ']' :: after => some ([v], after)
    | ',' :: more => do
      let (vs, after) ← readItems fuel more
      some (v :: vs, after)
    | _ => none

/-- The members of an object that is not empty, and its closing brace. -/
def readMembers : (fuel : Nat) → List Char → Option (List (String × Value) × List Char)
  | 0, _ => none
  | fuel + 1, cs => do
    match skipSpace cs with
    | '"' :: more =>
      let (k, rest) ← readString? (fuel + 1) more
      match skipSpace rest with
      | ':' :: rest =>
        let (v, rest) ← readValue fuel (skipSpace rest)
        match skipSpace rest with
        | '\x7d' :: after => some ([(k, v)], after)
        | ',' :: more => do
          let (ms, after) ← readMembers fuel more
          some ((k, v) :: ms, after)
        | _ => none
      | _ => none
    | _ => none

end

/-- Read one JSON text: a value with nothing but blanks around it. -/
def read? (s : String) : Option Value := do
  let cs := skipSpace s.toList
  let (v, rest) ← readValue (2 * cs.length + 2) cs
  if (skipSpace rest).isEmpty then some v else none

end Rendezvous.Json
