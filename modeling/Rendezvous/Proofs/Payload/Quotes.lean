import Mathlib.Algebra.Group.Nat.Defs
import Rendezvous.Proofs.Json.Reading

/-!
# What is written between quotes

A character that is written between quotes can be read back, whatever comes behind it (`unquote?_quotedChar`): an escape says by
its letter how many digits belong to it, and no other character begins with a backslash.  As the quote in use is escaped, a
text ends at the next one.  So a quoted text says what it is the text of and where it ends (`quoted_cancel`).
-/

namespace Rendezvous.Text

set_option autoImplicit false

/-! ## Digits of base sixteen -/

/-- The number that digits of base sixteen stand for. -/
def hexNumber (ds : List Char) : Nat := ds.foldl (fun n d => n * 16 + (Json.hexValue? d).getD 0) 0

theorem length_hexDigits (width n : Nat) : (hexDigits width n).length = width := by
  induction width generalizing n with
  | zero => rfl
  | succ width ih => rw [hexDigits, List.length_append, ih, List.length_singleton]

theorem hexNumber_hexDigits {width n : Nat} (small : n < 16 ^ width) : hexNumber (hexDigits width n) = n := by
  induction width generalizing n with
  | zero =>
    have zero : n = 0 := by omega
    exact zero.symm
  | succ width ih =>
    have front : hexNumber (hexDigits width (n / 16)) = n / 16 := by
      apply ih
      rw [Nat.pow_succ] at small
      omega
    have last : Json.hexValue? (hexDigit (n % 16)) = some (n % 16) :=
      Json.hexValue?_of_hexDigit ⟨Nat.mod_lt n (by decide), .inl rfl⟩
    unfold hexNumber at front ⊢
    rw [hexDigits, List.foldl_append, front, List.foldl_cons, List.foldl_nil, last, Option.getD_some]
    omega

/-! ## Characters -/

/-- The character whose number is written in some digits at the front of a text, and what follows them. -/
def numbered (width : Nat) (cs : List Char) : Char × List Char :=
  (Char.ofNat (hexNumber (cs.take width)), cs.drop width)

/-- The character that an escape is for, by its letter, and what follows it. -/
def escaped (letter : Char) (rest : List Char) : Char × List Char :=
  match letter with
  | 'n' => ('\n', rest)
  | 'r' => ('\r', rest)
  | 't' => ('\t', rest)
  | 'x' => numbered 2 rest
  | 'u' => numbered 4 rest
  | 'U' => numbered 8 rest
  | c => (c, rest)

/-- The character that is written at the front of a text between quotes, and what follows it. -/
def unquote? : List Char → Option (Char × List Char)
  | [] => none
  | [c] => some (c, [])
  | c :: letter :: rest => some (if c = '\\' then escaped letter rest else (c, letter :: rest))

theorem numbered_hexDigits (width : Nat) {c : Char} (small : c.toNat < 16 ^ width) (rest : List Char) :
    numbered width (hexDigits width c.toNat ++ rest) = (c, rest) := by
  have length := length_hexDigits width c.toNat
  rw [numbered, List.take_left' length, List.drop_left' length, hexNumber_hexDigits small, Char.ofNat_toNat]

theorem unquote?_plain {c : Char} (plain : c ≠ '\\') (rest : List Char) : unquote? (c :: rest) = some (c, rest) := by
  cases rest with
  | nil => rfl
  | cons letter rest => rw [unquote?, if_neg plain]

theorem unquote?_numericEscape (c : Char) (rest : List Char) :
    unquote? (numericEscape c ++ rest) = some (c, rest) := by
  have valid : c.toNat < 0xd800 ∨ 0xdfff < c.toNat ∧ c.toNat < 0x110000 := c.valid
  unfold numericEscape
  dsimp only
  split
  · exact congrArg some (numbered_hexDigits 2 (by omega) rest)
  · split
    · exact congrArg some (numbered_hexDigits 4 (by omega) rest)
    · exact congrArg some (numbered_hexDigits 8 (by omega) rest)

/-- A text is written between single or double quotes. -/
def IsQuote (quote : Char) : Prop := quote = '\'' ∨ quote = '"'

theorem isQuote_quoteFor (cs : List Char) : IsQuote (quoteFor cs) := by
  unfold quoteFor
  split
  · exact .inr rfl
  · exact .inl rfl

/-- A character that is written between quotes is read back. -/
theorem unquote?_quotedChar {quote : Char} (known : IsQuote quote) (c : Char) (rest : List Char) :
    unquote? (quotedChar quote c ++ rest) = some (c, rest) := by
  unfold quotedChar
  split_ifs with escaped feed back tab printable
  · rcases escaped with rfl | rfl
    · rcases known with rfl | rfl <;> rfl
    · rfl
  · rw [feed]
    rfl
  · rw [back]
    rfl
  · rw [tab]
    rfl
  · exact unquote?_plain (fun backslash => escaped (.inr backslash)) rest
  · exact unquote?_numericEscape c rest

/-- Nothing that is written between quotes begins with the quote in use. -/
theorem quotedChar_head {quote : Char} (known : IsQuote quote) (c : Char) :
    ∃ d more, quotedChar quote c = d :: more ∧ d ≠ quote := by
  have backslash : '\\' ≠ quote := by rcases known with rfl | rfl <;> decide
  unfold quotedChar numericEscape
  dsimp only
  split_ifs with escaped
  all_goals first
    | exact ⟨_, _, rfl, backslash⟩
    | exact ⟨_, _, rfl, fun same => escaped (.inl same)⟩

/-! ## Texts -/

/-- Up to the quote in use, one text only is written in this way. -/
theorem chars_cancel {quote : Char} (known : IsQuote quote) {cs ds r s : List Char}
    (same : cs.flatMap (quotedChar quote) ++ quote :: r = ds.flatMap (quotedChar quote) ++ quote :: s) :
    cs = ds ∧ r = s := by
  induction cs generalizing ds with
  | nil =>
    cases ds with
    | nil => exact ⟨rfl, (List.cons.inj same).2⟩
    | cons d ds =>
      obtain ⟨e, more, begins, other⟩ := quotedChar_head known d
      rw [List.flatMap_cons, begins] at same
      exact absurd (List.cons.inj same).1.symm other
  | cons c cs ih =>
    cases ds with
    | nil =>
      obtain ⟨e, more, begins, other⟩ := quotedChar_head known c
      rw [List.flatMap_cons, begins] at same
      exact absurd (List.cons.inj same).1 other
    | cons d ds =>
      rw [List.flatMap_cons, List.flatMap_cons, List.append_assoc, List.append_assoc] at same
      have reads := congrArg unquote? same
      rw [unquote?_quotedChar known, unquote?_quotedChar known] at reads
      obtain ⟨rfl, rest⟩ := Prod.mk.inj (Option.some.inj reads)
      obtain ⟨rfl, rfl⟩ := ih rest
      exact ⟨rfl, rfl⟩

theorem toList_quoted (s : String) : ∃ quote, IsQuote quote ∧
    (quoted s).toList = quote :: (s.toList.flatMap (quotedChar quote) ++ [quote]) :=
  ⟨_, isQuote_quoteFor s.toList, by rw [quoted, String.toList_ofList]⟩

/-- A quoted text says which text it is, and where it ends. -/
theorem quoted_cancel {s t : String} {r r' : List Char} (same : (quoted s).toList ++ r = (quoted t).toList ++ r') :
    s = t ∧ r = r' := by
  obtain ⟨quote, known, written⟩ := toList_quoted s
  obtain ⟨other, -, written'⟩ := toList_quoted t
  rw [written, written'] at same
  obtain ⟨rfl, same⟩ := List.cons.inj same
  have inner : s.toList.flatMap (quotedChar quote) ++ quote :: r = t.toList.flatMap (quotedChar quote) ++ quote :: r' := by
    simpa using same
  obtain ⟨chars, rfl⟩ := chars_cancel known inner
  exact ⟨String.toList_inj.mp chars, rfl⟩

end Rendezvous.Text
