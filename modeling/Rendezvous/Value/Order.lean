import Rendezvous.Value
import Rendezvous.Failure
import Rendezvous.Decimal.Binary

/-!
# Comparing values

Two values are equal if they are the same data: numbers are compared by their exact value whatever
their kind, yes counts as one and no as zero, and the order of a dictionary's entries does not matter.
Only numbers with numbers, texts with texts and lists with lists have an order; lists are ordered by
the first items that differ.
-/

namespace Rendezvous.Value

/-- What kind of data a value is, as it is called in messages. -/
def kindName : Value → String
  | null => "NoneType"
  | bool _ => "bool"
  | int _ => "int"
  | float _ => "float"
  | text _ => "str"
  | list _ => "list"
  | dict _ => "dict"

/-- A number of any kind: an exact integer or a float. -/
inductive Number where
  | exact (n : Int)
  | inexact (x : Float)

/-- The number that a value is, if it is one. -/
def number? : Value → Option Number
  | bool b => some (.exact (if b then 1 else 0))
  | int n => some (.exact n)
  | float x => some (.inexact x)
  | _ => none

/-- Whether two numbers are the same. -/
def Number.same : Number → Number → Bool
  | exact a, exact b => a == b
  | inexact a, inexact b => a == b
  | exact a, inexact b => Decimal.compareInt? a b == some .eq
  | inexact a, exact b => Decimal.compareInt? b a == some .eq

/-- Whether the first number is at least the second. -/
def Number.atLeast : Number → Number → Bool
  | exact a, exact b => b ≤ a
  | inexact a, inexact b => b ≤ a
  | exact a, inexact b => (Decimal.compareInt? a b).any (· != .lt)
  | inexact a, exact b => (Decimal.compareInt? b a).any (· != .gt)

mutual

/-- Whether two values are the same data. -/
def same : Value → Value → Bool
  | null, null => true
  | text a, text b => a == b
  | list as, list bs => sameItems as bs
  | dict as, dict bs => as.length == bs.length && sameEntries as bs
  | bool a, b => (number? b).any (Number.same (.exact (if a then 1 else 0)))
  | int a, b => (number? b).any (Number.same (.exact a))
  | float a, b => (number? b).any (Number.same (.inexact a))
  | _, _ => false
termination_by structural a => a

/-- Whether two lists hold the same data. -/
def sameItems : List Value → List Value → Bool
  | [], [] => true
  | a :: as, b :: bs => same a b && sameItems as bs
  | _, _ => false
termination_by structural as => as

/-- Whether every entry is found with the same data in another dictionary. -/
def sameEntries : List (String × Value) → Entries Value → Bool
  | [], _ => true
  | (k, a) :: rest, bs => (Entries.get? k bs).any (same a) && sameEntries rest bs
termination_by structural as => as

end

/-- The complaint that two values have no order. -/
def noOrder (a b : Value) : Failure :=
  .of (.mismatch ("'>=' not supported between instances of '" ++ a.kindName ++ "' and '"
    ++ b.kindName ++ "'"))

mutual

/-- Whether the first value is at least the second. -/
def atLeast : Value → Value → Result Bool
  | text a, text b => .ok (decide (b ≤ a))
  | list as, list bs => atLeastItems as bs
  | a, b =>
    match number? a, number? b with
    | some m, some n => .ok (m.atLeast n)
    | _, _ => .error (noOrder a b)
termination_by structural a => a

/-- Whether the first list is at least the second. -/
def atLeastItems : List Value → List Value → Result Bool
  | _, [] => .ok true
  | [], _ :: _ => .ok false
  | a :: as, b :: bs => if same a b then atLeastItems as bs else atLeast a b
termination_by structural as => as

end

end Rendezvous.Value
