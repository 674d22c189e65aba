import Rendezvous.Decimal.Reader
import Rendezvous.Json.Reader
import Rendezvous.Text.Quoted

/-!
# The texts of JSON values

A value has many texts (`Spelled`): there may be blanks between tokens, a character of a string may stand for itself or be
escaped in several ways, and an object may have a key more than once.  The grammar here says which texts those are, apart from
anything that reads or writes them.  Of numbers it has the integers only.

What a text spells has no floats in it, and no dictionary has a key twice (`Settled`, `Spelled.settled`).
-/

namespace Rendezvous.Json

set_option autoImplicit false

/-! ## Characters -/

/-- Blanks may stand between tokens. -/
def Blank (cs : List Char) : Prop := ∀ c ∈ cs, c ∈ [' ', '\t', '\n', '\r']

/-- A digit of base sixteen, in either case. -/
def HexDigit (n : Nat) (c : Char) : Prop := n < 16 ∧ (c = Text.hexDigit n ∨ c = (Text.hexDigit n).toUpper)

/-- The four digits of a UTF-16 unit. -/
def SpelledUnit (n : Nat) (cs : List Char) : Prop :=
  ∃ x y z u a b c d, n = x * 4096 + y * 256 + z * 16 + u ∧ cs = [a, b, c, d] ∧
    HexDigit x a ∧ HexDigit y b ∧ HexDigit z c ∧ HexDigit u d

/-- What may stand behind a backslash, and what it means there. -/
def escapes : List (Char × Char) :=
  [('"', '"'), ('\\', '\\'), ('/', '/'), ('b', '\x08'), ('f', '\x0c'), ('n', '\n'), ('r', '\r'), ('t', '\t')]

/-- The spellings of a character inside of a string. -/
inductive SpelledChar (c : Char) : List Char → Prop
  | plain (quote : c ≠ '"') (backslash : c ≠ '\\') (large : 0x20 ≤ c.toNat) : SpelledChar c [c]
  | escaped (letter : Char) (known : (letter, c) ∈ escapes) : SpelledChar c ['\\', letter]
  | unit {ds : List Char} (named : SpelledUnit c.toNat ds) : SpelledChar c ('\\' :: 'u' :: ds)
  /-- A large character is spelled by a pair of units. -/
  | pair (high low : Nat) {hs ls : List Char} (isHigh : high < 0x400) (isLow : low < 0x400)
      (named : c.toNat = 0x10000 + high * 0x400 + low) (first : SpelledUnit (0xd800 + high) hs)
      (second : SpelledUnit (0xdc00 + low) ls) : SpelledChar c ('\\' :: 'u' :: hs ++ '\\' :: 'u' :: ls)

/-- The spellings of characters in a row. -/
inductive SpelledChars : List Char → List Char → Prop
  | nil : SpelledChars [] []
  | cons {c : Char} {s cs more : List Char} (first : SpelledChar c cs) (rest : SpelledChars s more) :
      SpelledChars (c :: s) (cs ++ more)

/-- The spellings of a string. -/
inductive SpelledText (s : String) : List Char → Prop
  | mk {cs : List Char} (chars : SpelledChars s.toList cs) : SpelledText s ('"' :: (cs ++ ['"']))

/-! ## Integers -/

/-- The digits of a number, without a zero in front. -/
structure Numeral (n : Nat) (ds : List Char) : Prop where
  digits : ∀ c ∈ ds, Decimal.isDigit c = true
  nonempty : ds ≠ []
  /-- The only numeral with a zero in front is that of zero. -/
  leading : ds.head? = some '0' → ds = ['0']
  value : Decimal.digitsValue ds = n

/-- The spellings of an integer; zero may have a sign as well. -/
inductive SpelledInt : Int → List Char → Prop
  | plain {n : Nat} {ds : List Char} (numeral : Numeral n ds) : SpelledInt n ds
  | minus {n : Nat} {ds : List Char} (numeral : Numeral n ds) : SpelledInt (-n) ('-' :: ds)

/-! ## Values -/

mutual

/-- The spellings of a value.  Of a key that comes more than once, the last value counts, at the place of the first. -/
inductive Spelled : Value → List Char → Prop
  | null : Spelled .null "null".toList
  | yes : Spelled (.bool true) "true".toList
  | no : Spelled (.bool false) "false".toList
  | int {n : Int} {cs : List Char} (spelled : SpelledInt n cs) : Spelled (.int n) cs
  | text {s : String} {cs : List Char} (spelled : SpelledText s cs) : Spelled (.text s) cs
  | emptyList {bs : List Char} (blank : Blank bs) : Spelled (.list []) ('[' :: (bs ++ [']']))
  | list {items : List Value} {cs : List Char} (spelled : SpelledItems items cs) : Spelled (.list items) ('[' :: cs)
  | emptyDict {bs : List Char} (blank : Blank bs) : Spelled (.dict []) ('\x7b' :: (bs ++ ['\x7d']))
  | dict {members : List (String × Value)} {cs : List Char} (spelled : SpelledMembers members cs) :
      Spelled (.dict (Entries.ofPairs members)) ('\x7b' :: cs)

/-- The spellings of the items of a list, up to the closing bracket. -/
inductive SpelledItems : List Value → List Char → Prop
  | last {v : Value} {before cs after : List Char} (blank : Blank before) (spelled : Spelled v cs)
      (blank' : Blank after) : SpelledItems [v] (before ++ (cs ++ (after ++ [']'])))
  | cons {v : Value} {items : List Value} {before cs after more : List Char} (blank : Blank before)
      (spelled : Spelled v cs) (blank' : Blank after) (rest : SpelledItems items more) :
      SpelledItems (v :: items) (before ++ (cs ++ (after ++ ',' :: more)))

/-- The spellings of a key and its value. -/
inductive SpelledMember : String → Value → List Char → Prop
  | mk {k : String} {v : Value} {before ks between between' cs : List Char} (blank : Blank before)
      (key : SpelledText k ks) (blank' : Blank between) (blank'' : Blank between') (spelled : Spelled v cs) :
      SpelledMember k v (before ++ (ks ++ (between ++ ':' :: (between' ++ cs))))

/-- The spellings of the members of an object, up to the closing brace. -/
inductive SpelledMembers : List (String × Value) → List Char → Prop
  | last {k : String} {v : Value} {cs after : List Char} (member : SpelledMember k v cs) (blank : Blank after) :
      SpelledMembers [(k, v)] (cs ++ (after ++ ['\x7d']))
  | cons {k : String} {v : Value} {members : List (String × Value)} {cs after more : List Char}
      (member : SpelledMember k v cs) (blank : Blank after) (rest : SpelledMembers members more) :
      SpelledMembers ((k, v) :: members) (cs ++ (after ++ ',' :: more))

end

/-- A text is JSON for a value. -/
def Denotes (s : String) (v : Value) : Prop :=
  ∃ before cs after, Blank before ∧ Spelled v cs ∧ Blank after ∧ s.toList = before ++ (cs ++ after)

/-! ## What is spelled -/

/-- There are no floats in a value, and no dictionary has a key twice. -/
inductive Settled : Value → Prop
  | null : Settled .null
  | bool (b : Bool) : Settled (.bool b)
  | int (n : Int) : Settled (.int n)
  | text (s : String) : Settled (.text s)
  | list {items : List Value} (all : ∀ v ∈ items, Settled v) : Settled (.list items)
  | dict {entries : List (String × Value)} (keys : (Entries.keys entries).Nodup) (all : ∀ e ∈ entries, Settled e.2) :
      Settled (.dict entries)

theorem mem_of_mem_update {α : Type} {e : String × α} {entries pairs : List (String × α)}
    (mem : e ∈ Entries.update entries pairs) : e ∈ entries ∨ e ∈ pairs := by
  induction pairs generalizing entries with
  | nil => exact .inl mem
  | cons p pairs ih =>
    rcases ih mem with old | new
    · exact (Entries.mem_of_mem_put old).imp_right fun (same : e = p) => same ▸ List.mem_cons_self
    · exact .inr (List.mem_cons_of_mem _ new)

/-- Dictionaries that are made of settled values are settled. -/
theorem Settled.ofPairs {pairs : List (String × Value)} (all : ∀ e ∈ pairs, Settled e.2) :
    Settled (.dict (Entries.ofPairs pairs)) :=
  .dict (Entries.nodup_keys_ofPairs pairs) fun e mem =>
    all e ((mem_of_mem_update mem).resolve_left List.not_mem_nil)

mutual

theorem Spelled.settled {v : Value} {cs : List Char} : Spelled v cs → Settled v
  | .null => .null
  | .yes | .no => .bool _
  | .int _ => .int _
  | .text _ => .text _
  | .emptyList _ => .list (List.forall_mem_nil _)
  | .list spelled => .list spelled.settled
  | .emptyDict _ => .dict List.nodup_nil (List.forall_mem_nil _)
  | .dict spelled => .ofPairs spelled.settled

theorem SpelledItems.settled {items : List Value} {cs : List Char} : SpelledItems items cs → ∀ v ∈ items, Settled v
  | .last _ spelled _ => List.forall_mem_singleton.mpr spelled.settled
  | .cons _ spelled _ rest => List.forall_mem_cons.mpr ⟨spelled.settled, rest.settled⟩

theorem SpelledMember.settled {k : String} {v : Value} {cs : List Char} : SpelledMember k v cs → Settled v
  | .mk _ _ _ _ spelled => spelled.settled

theorem SpelledMembers.settled {members : List (String × Value)} {cs : List Char} :
    SpelledMembers members cs → ∀ e ∈ members, Settled e.2
  | .last member _ => List.forall_mem_singleton.mpr member.settled
  | .cons member _ rest => List.forall_mem_cons.mpr ⟨member.settled, rest.settled⟩

end

end Rendezvous.Json
