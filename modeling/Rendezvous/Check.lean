import Rendezvous.Value
import Rendezvous.Failure
import Rendezvous.Decimal.Reader
import Rendezvous.Decimal.Binary

/-!
# Checking data against a model

A check turns a `Value` into a typed value or reports what is wrong with it.  Checks are lenient in
the way form data needs: a text that reads as an integer is an integer, an integral float too, yes and
no come in many spellings.  Checking an object goes on after a problem, so that all problems of all
fields are reported, in the order in which the fields are declared (`Checked.both`, `Checked.seq_error`).

What a message is written as passes its check unchanged; the last section has the part of this that
holds for every message (`optional_ofText?`, `naturalFrom_ofNat`, `list_map`).
-/

namespace Rendezvous

/-- A typed value, or all the problems that were found. -/
abbrev Checked (α : Type) := Except (List Problem) α

namespace Checked

variable {α β : Type}

/-- A single problem at the top. -/
def fail (kind : ProblemKind) : Checked α := .error [{ kind }]

/-- The problems as seen from one level further out. -/
def under (step : Step) : Checked α → Checked α
  | .ok a => .ok a
  | .error ps => .error (ps.map (Problem.under step))

/-- Both parts, or the problems of both. -/
def both (f : Checked (α → β)) (a : Unit → Checked α) : Checked β :=
  match f, a () with
  | .ok f, .ok a => .ok (f a)
  | .ok _, .error ps => .error ps
  | .error ps, .ok _ => .error ps
  | .error ps, .error qs => .error (ps ++ qs)

/-- Checks of several parts in a row report the problems of all of them. -/
instance : Seq (Except (List Problem)) := ⟨both⟩

@[simp] theorem under_ok (step : Step) (a : α) : under step (.ok a) = .ok a := rfl

@[simp] theorem map_ok (f : α → β) (a : α) : (f <$> (.ok a : Checked α)) = .ok (f a) := rfl

@[simp] theorem seq_ok (f : α → β) (a : α) :
    ((.ok f : Checked (α → β)) <*> (.ok a : Checked α)) = .ok (f a) := rfl

/-- Two parts that both fail report the problems of the first and then those of the second. -/
@[simp] theorem seq_error (ps qs : List Problem) :
    ((.error ps : Checked (α → β)) <*> (.error qs : Checked α)) = .error (ps ++ qs) := rfl

/-- The result of a check as a computation that may fail. -/
def toResult : Checked α → Result α
  | .ok a => .ok a
  | .error ps => .error (.of (.invalid ps))

end Checked

namespace Check

variable {α : Type}

/-! ## Texts -/

/-- A text, and nothing that would have to be turned into one. -/
def text : Value → Checked String
  | .text s => .ok s
  | _ => Checked.fail .notText

/-- Null, or what the check makes of anything else. -/
def optional (check : Value → Checked α) : Value → Checked (Option α)
  | .null => .ok none
  | v => (check v).map some

/-! ## Numbers -/

/-- White space in the narrower sense: the information separators are not part of it. -/
def isSpace (c : Char) : Bool :=
  c == ' ' || (0x9 ≤ c.toNat && c.toNat ≤ 0xd) || c.toNat == 0x85 || c.toNat == 0xa0
    || c.toNat == 0x1680 || (0x2000 ≤ c.toNat && c.toNat ≤ 0x200a) || c.toNat == 0x2028
    || c.toNat == 0x2029 || c.toNat == 0x202f || c.toNat == 0x205f || c.toNat == 0x3000

/-- The characters without white space at both ends. -/
def trim (cs : List Char) : List Char :=
  ((cs.dropWhile isSpace).reverse.dropWhile isSpace).reverse

/-- Whether every low line stands alone between other characters. -/
def singleLowLines : List Char → Bool
  | [] => true
  | ['_'] => false
  | '_' :: '_' :: _ => false
  | _ :: rest => singleLowLines rest

/-- The characters without their low lines, if those stand alone and inside. -/
def dropLowLines? (cs : List Char) : Option (List Char) :=
  if cs.contains '_' && cs.head? != some '_' && singleLowLines cs
  then some (cs.filter (· != '_')) else none

/-- What is left of an unsigned number without the zeros in front. -/
def dropLeadingZeros : List Char → List Char
  | ['0'] => ['0']
  | '0' :: '.' :: rest => '0' :: '.' :: rest
  | '0' :: rest => dropLeadingZeros rest
  | cs => cs

/-- Whether the characters are a fraction of zeros only: a point and nothing else after it. -/
def isZeroFraction : List Char → Bool
  | '.' :: zeros => zeros.all (· == '0')
  | _ => false

/-- A decimal integer without superfluous zeros. -/
def plainInteger? (cs : List Char) : Option Nat :=
  match cs with
  | [] => none
  | ['0'] => some 0
  | '0' :: _ => none
  | _ => if cs.all Decimal.isDigit then some (Decimal.digitsValue cs) else none

/-- The integer that a text spells: white space around it, a sign, zeros in front of an unsigned
number, single low lines between digits and a fraction of zeros are all allowed. -/
def integerText? (s : String) : Option Int :=
  let cs := trim s.toList
  let body? : Option (Bool × List Char) :=
    match cs with
    | '+' :: '-' :: _ => none
    | '+' :: rest => some (false, dropLeadingZeros rest)
    | '-' :: rest => some (true, rest)
    | _ => some (false, dropLeadingZeros cs)
  match body? with
  | none => none
  | some (negative, body) =>
    let (whole, fraction) := body.span (· != '.')
    if !fraction.isEmpty && !isZeroFraction fraction then none
    else
      let digits := (dropLowLines? whole).getD whole
      (plainInteger? digits).map fun n => if negative then -(n : Int) else n

/-- The longest text that is read as an integer. -/
def integerTextLimit : Nat := 4300

/-- An integer, or something that is one on closer inspection. -/
def integer : Value → Checked Int
  | .int n => .ok n
  | .bool b => .ok (if b then 1 else 0)
  | .float x =>
    match Decimal.Binary.ofFloat x with
    | .finite .. =>
      match Decimal.integer? x with
      | none => Checked.fail .fractional
      | some n => if -Decimal.wordLimit < n ∧ n < Decimal.wordLimit then .ok n else Checked.fail .integerTooLarge
    | _ => Checked.fail .notFinite
  | .text s =>
    match integerText? s with
    | some n => if s.utf8ByteSize ≤ integerTextLimit then .ok n else Checked.fail .integerTooLarge
    | none => Checked.fail .badIntegerText
  | _ => Checked.fail .notInteger

/-- An integer that is not below a limit. -/
def integerFrom (least : Int) (v : Value) : Checked Int :=
  match integer v with
  | .ok n => if least ≤ n then .ok n else Checked.fail .belowLimit
  | .error ps => .error ps

/-- A natural number that is not below a limit. -/
def naturalFrom (least : Nat) (v : Value) : Checked Nat :=
  (integerFrom least v).map Int.toNat

/-- The spellings of yes. -/
def yesWords : List String := ["1", "true", "t", "yes", "y", "on"]

/-- The spellings of no. -/
def noWords : List String := ["0", "false", "f", "no", "n", "off"]

/-- One and zero stand for yes and no. -/
def booleanOfInt (n : Int) : Checked Bool :=
  if n = 0 then .ok false else if n = 1 then .ok true else Checked.fail .badBoolean

/-- Yes or no, in any of their spellings. -/
def boolean : Value → Checked Bool
  | .bool b => .ok b
  | .text s =>
    let word := s.map Char.toLower
    if yesWords.contains word then .ok true
    else if noWords.contains word then .ok false
    else Checked.fail .badBoolean
  | .int n => if -Decimal.wordLimit ≤ n ∧ n < Decimal.wordLimit then booleanOfInt n else Checked.fail .notBoolean
  | .float x =>
    match Decimal.integer? x with
    | some n => if -Decimal.wordLimit < n ∧ n < Decimal.wordLimit then booleanOfInt n else Checked.fail .notBoolean
    | none => Checked.fail .notBoolean
  | _ => Checked.fail .notBoolean

/-- An optional exponent at the end: a letter, an optional sign and digits. -/
def exponent? : List Char → Option Int
  | [] => some 0
  | e :: rest =>
    if e = 'e' ∨ e = 'E' then
      let (negative, ds) :=
        match rest with
        | '-' :: more => (true, more)
        | '+' :: more => (false, more)
        | _ => (false, rest)
      if ds.isEmpty || !ds.all Decimal.isDigit then none
      else
        let n : Int := Decimal.digitsValue ds
        some (if negative then -n else n)
    else none

/-- The number that unsigned characters spell: digits with or without a point, or a word. -/
def unsignedNumber? (negative : Bool) (cs : List Char) : Option Float :=
  let word := String.ofList (cs.map Char.toLower)
  let infinity : Float := 1.0 / 0.0
  if word == "inf" || word == "infinity" then some (if negative then -infinity else infinity)
  else if word == "nan" then some (0.0 / 0.0)
  else
    let (whole, rest) := cs.span Decimal.isDigit
    let (fraction, rest) :=
      match rest with
      | '.' :: more => more.span Decimal.isDigit
      | _ => ([], rest)
    if whole.isEmpty && fraction.isEmpty then none
    else (exponent? rest).map fun exponent =>
      Decimal.Written.toFloat { negative, whole, fraction, exponent }

/-- The number that characters spell, with an optional sign. -/
def signedNumber? : List Char → Option Float
  | '-' :: rest => unsignedNumber? true rest
  | '+' :: rest => unsignedNumber? false rest
  | cs => unsignedNumber? false cs

/-- The number that a text spells; single low lines between characters are allowed. -/
def numberText? (s : String) : Option Float :=
  match signedNumber? (trim s.toList) with
  | some x => some x
  | none => (dropLowLines? s.toList).bind signedNumber?

/-- A number of any kind. -/
def number : Value → Checked Float
  | .float x => .ok x
  | .int n => .ok (Decimal.ofInt n)
  | .bool b => .ok (if b then 1.0 else 0.0)
  | .text s =>
    match numberText? s with
    | some x => .ok x
    | none => Checked.fail .badNumberText
  | _ => Checked.fail .notNumber

/-! ## Choices and containers -/

/-- One of the listed words; `kind` is the trouble with anything else. -/
def choice (kind : ProblemKind) (words : List (String × α)) : Value → Checked α
  | .text s =>
    match words.lookup s with
    | some a => .ok a
    | none => Checked.fail kind
  | _ => Checked.fail kind

/-- The checked items of a list, counted from `n`; all problems are reported. -/
def itemsFrom (check : Value → Checked α) (n : Int) : List Value → Checked (List α)
  | [] => .ok []
  | v :: rest =>
    Checked.both ((Checked.under (.position n) (check v)).map List.cons)
      fun _ => itemsFrom check (n + 1) rest

/-- A list whose items all pass. -/
def list (check : Value → Checked α) : Value → Checked (List α)
  | .list vs => itemsFrom check 0 vs
  | _ => Checked.fail .notList

/-- A dictionary with any values. -/
def dict : Value → Checked (Entries Value)
  | .dict entries => .ok entries
  | _ => Checked.fail .notDict

/-! ## Objects -/

/-- The entries of an object. -/
def object (build : Entries Value → Checked α) : Value → Checked α
  | .dict entries => build entries
  | _ => Checked.fail .notObject

/-- A field that has to be there. -/
def required (check : Value → Checked α) (name : String) (entries : Entries Value) : Checked α :=
  Checked.under (.name name) <|
    match Entries.get? name entries with
    | some v => check v
    | none => Checked.fail .missing

/-- A field with a default. -/
def defaulted (default : α) (check : Value → Checked α) (name : String) (entries : Entries Value) :
    Checked α :=
  match Entries.get? name entries with
  | some v => Checked.under (.name name) (check v)
  | none => .ok default

/-! ## Reading what was written -/

@[simp] theorem text_text (s : String) : text (.text s) = .ok s := rfl

@[simp] theorem integer_int (n : Int) : integer (.int n) = .ok n := rfl

@[simp] theorem boolean_bool (b : Bool) : boolean (.bool b) = .ok b := rfl

@[simp] theorem number_float (x : Float) : number (.float x) = .ok x := rfl

@[simp] theorem dict_dict (entries : Entries Value) : dict (.dict entries) = .ok entries := rfl

@[simp] theorem object_dict (build : Entries Value → Checked α) (entries : Entries Value) :
    object build (.dict entries) = build entries := rfl

@[simp] theorem optional_ofText? (s : Option String) : optional text (.ofText? s) = .ok s := by
  cases s <;> rfl

/-- A natural number that is not below the limit reads back. -/
theorem naturalFrom_ofNat {least n : Nat} (h : least ≤ n) :
    naturalFrom least (.ofNat n) = .ok n := by
  have : (least : Int) ≤ n := Int.ofNat_le.2 h
  simp [naturalFrom, integerFrom, Value.ofNat, this, Except.map]

@[simp] theorem naturalFrom_zero_ofNat (n : Nat) : naturalFrom 0 (.ofNat n) = .ok n :=
  naturalFrom_ofNat n.zero_le

theorem itemsFrom_map {check : Value → Checked α} {write : α → Value}
    (h : ∀ a, check (write a) = .ok a) (n : Int) (as : List α) :
    itemsFrom check n (as.map write) = .ok as := by
  induction as generalizing n with
  | nil => rfl
  | cons a as ih => simp [itemsFrom, h, ih, Checked.both, Except.map]

/-- A list reads back if each of its items does. -/
theorem list_map {check : Value → Checked α} {write : α → Value}
    (h : ∀ a, check (write a) = .ok a) (as : List α) :
    list check (.list (as.map write)) = .ok as :=
  itemsFrom_map h 0 as

end Check
end Rendezvous
