import Rendezvous.Yaml.Cell
import Rendezvous.Check
import Rendezvous.Json.Reader

/-!
# What plain scalars stand for

A plain scalar is null, yes or no, a number, a date, a sign of its own or else text.  `Kind.of` decides
by its characters alone.  Integers may be binary, octal, hexadecimal or in base sixty, with low lines
among their digits; a float has a point, and its exponent a sign.
-/

namespace Rendezvous.Yaml

/-- What a plain scalar stands for. -/
inductive Kind where
  | null
  | boolean
  | integer
  | number
  | date
  | merge
  | value
  | text
  deriving Repr, DecidableEq

/-- The name of a kind among the tags of the standard. -/
def Kind.name : Kind → String
  | null => "null"
  | boolean => "bool"
  | integer => "int"
  | number => "float"
  | date => "timestamp"
  | merge => "merge"
  | value => "value"
  | text => "str"

namespace Plain

/-- The three spellings of a word: small, with a capital, in capitals. -/
def spellings (word : String) : List String := [word, word.capitalize, word.toUpper]

/-- The words for yes and no. -/
def booleanWords : List (String × Bool) :=
  [("yes", true), ("no", false), ("true", true), ("false", false), ("on", true), ("off", false)]

/-- Whether a text is a word for yes or no. -/
def isBoolean (s : String) : Bool := booleanWords.any fun (w, _) => (spellings w).contains s

/-- Whether a text says that there is nothing. -/
def isNull (s : String) : Bool := s == "" || s == "~" || (spellings "null").contains s

/-- The characters behind a sign, if there is one. -/
def unsigned : List Char → List Char
  | '+' :: rest => rest
  | '-' :: rest => rest
  | cs => cs

/-- A digit of a number, or a low line between digits. -/
def isDigitOrLine (c : Char) : Bool := Decimal.isDigit c || c == '_'

/-- Whether the characters are a colon-separated number of base sixty behind its first part: one or
two digits after every colon, the first of two below six. -/
def isSixtieths : List Char → Bool
  | [':', a] => Decimal.isDigit a
  | [':', a, b] => '0' ≤ a && a ≤ '5' && Decimal.isDigit b
  | ':' :: a :: ':' :: rest => Decimal.isDigit a && isSixtieths (':' :: rest)
  | ':' :: a :: b :: ':' :: rest =>
    '0' ≤ a && a ≤ '5' && Decimal.isDigit b && isSixtieths (':' :: rest)
  | _ => false

/-- Whether a text is an integer. -/
def isInteger (s : String) : Bool :=
  match unsigned s.toList with
  | ['0'] => true
  | '0' :: 'b' :: rest => !rest.isEmpty && rest.all fun c => c == '0' || c == '1' || c == '_'
  | '0' :: 'x' :: rest => !rest.isEmpty && rest.all fun c => (Json.hexValue? c).isSome || c == '_'
  | '0' :: rest => rest.all fun c => ('0' ≤ c && c ≤ '7') || c == '_'
  | d :: rest =>
    Decimal.isDigit d &&
      (rest.all isDigitOrLine || isSixtieths (rest.dropWhile isDigitOrLine))
  | [] => false

/-- Whether the characters are nothing or an exponent with a sign. -/
def isExponentOrNothing : List Char → Bool
  | [] => true
  | e :: sign :: digits =>
    (e == 'e' || e == 'E') && (sign == '+' || sign == '-') && !digits.isEmpty
      && digits.all Decimal.isDigit
  | _ => false

/-- Whether the characters are the part of a number behind its point. -/
def isFraction (cs : List Char) : Bool := isExponentOrNothing (cs.dropWhile isDigitOrLine)

/-- Whether the characters are infinity behind its point. -/
def isInfinity (cs : List Char) : Bool :=
  (["inf", "Inf", "INF"].map String.toList).contains cs

/-- Whether the characters are "not a number" behind its point. -/
def isNan (cs : List Char) : Bool := (["nan", "NaN", "NAN"].map String.toList).contains cs

/-- Whether a text is a float. -/
def isNumber (s : String) : Bool :=
  let cs := s.toList
  let body := unsigned cs
  match body with
  | '.' :: rest =>
    isInfinity rest || (body.length == cs.length &&
      (isNan rest || ((rest.head?.map Decimal.isDigit).getD false && isFraction rest)))
  | d :: rest =>
    Decimal.isDigit d &&
      match rest.dropWhile isDigitOrLine with
      | '.' :: fraction => isFraction fraction
      | sixtieths =>
        let (whole, fraction) := sixtieths.span (· != '.')
        isSixtieths whole && !fraction.isEmpty && (fraction.drop 1).all isDigitOrLine
  | [] => false

/-- The rest after one or two digits. -/
def dropTwoDigits? : List Char → Option (List Char)
  | a :: b :: rest =>
    if Decimal.isDigit a then some (if Decimal.isDigit b then rest else b :: rest) else none
  | [a] => if Decimal.isDigit a then some [] else none
  | [] => none

/-- The rest after a number of digits. -/
def dropDigits? : (n : Nat) → List Char → Option (List Char)
  | 0, cs => some cs
  | n + 1, c :: rest => if Decimal.isDigit c then dropDigits? n rest else none
  | _ + 1, [] => none

/-- The rest after a character. -/
def dropChar? (c : Char) : List Char → Option (List Char)
  | [] => none
  | d :: rest => if c = d then some rest else none

/-- Whether the characters are nothing or a time zone. -/
def isZoneOrNothing (cs : List Char) : Bool :=
  match cs with
  | [] => true
  | _ =>
    match cs.dropWhile isInnerBlank with
    | ['Z'] => true
    | sign :: rest =>
      (sign == '+' || sign == '-') &&
        match dropTwoDigits? rest with
        | some [] => true
        | some (':' :: more) => dropDigits? 2 more == some []
        | _ => false
    | [] => false
where
  isInnerBlank (c : Char) : Bool := c == ' ' || c == '\t'

/-- Whether the characters are a time of day behind a date. -/
def isTime (cs : List Char) : Bool :=
  let hours? :=
    match cs with
    | 'T' :: rest => some rest
    | 't' :: rest => some rest
    | c :: _ => if c == ' ' || c == '\t' then some (cs.dropWhile fun c => c == ' ' || c == '\t') else none
    | [] => none
  let behind? := do
    let rest ← hours?
    let rest ← dropTwoDigits? rest
    let rest ← dropChar? ':' rest
    let rest ← dropDigits? 2 rest
    let rest ← dropChar? ':' rest
    dropDigits? 2 rest
  match behind? with
  | some ('.' :: rest) => isZoneOrNothing (rest.dropWhile Decimal.isDigit)
  | some rest => isZoneOrNothing rest
  | none => false

/-- Whether a text is a date, with or without a time of day. -/
def isDate (s : String) : Bool :=
  let year? := (dropDigits? 4 s.toList).bind (dropChar? '-')
  let plain? := ((year?.bind (dropDigits? 2)).bind (dropChar? '-')).bind (dropDigits? 2)
  let loose? := ((year?.bind dropTwoDigits?).bind (dropChar? '-')).bind dropTwoDigits?
  plain? == some [] || loose?.any isTime

end Plain

/-- What a plain scalar stands for. -/
def Kind.of (s : String) : Kind :=
  if Plain.isNull s then .null
  else if Plain.isBoolean s then .boolean
  else if Plain.isNumber s then .number
  else if Plain.isInteger s then .integer
  else if Plain.isDate s then .date
  else if s == "<<" then .merge
  else if s == "=" then .value
  else .text

end Rendezvous.Yaml
