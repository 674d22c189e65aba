import Mathlib.Data.List.TakeDrop
import Rendezvous.Proofs.Json.Grammar

/-!
# Every JSON text is read

What a text spells is what is read from it (`read?_of_denotes`).  Each part of the grammar has its lemma: a spelling in front of
other characters is read as what it spells, and those are left.
-/

namespace Rendezvous.Json

set_option autoImplicit false

/-! ## Blanks -/

theorem isSpace_of_blank {bs : List Char} (blank : Blank bs) : ∀ c ∈ bs, isSpace c = true := by
  intro c mem
  have known := blank c mem
  revert known
  simp only [List.mem_cons, List.not_mem_nil, or_false]
  rintro (rfl | rfl | rfl | rfl) <;> rfl

theorem skipSpace_append {bs : List Char} (blank : Blank bs) (cs : List Char) : skipSpace (bs ++ cs) = skipSpace cs :=
  List.dropWhile_append_of_pos (isSpace_of_blank blank)

theorem skipSpace_cons {c : Char} (solid : isSpace c = false) (cs : List Char) : skipSpace (c :: cs) = c :: cs :=
  List.dropWhile_cons_of_neg (by rw [solid]; decide)

/-! ## Characters -/

theorem hexValue?_of_hexDigit {n : Nat} {c : Char} (digit : HexDigit n c) : hexValue? c = some n := by
  have all : ∀ m < 16, hexValue? (Text.hexDigit m) = some m ∧ hexValue? (Text.hexDigit m).toUpper = some m := by
    decide
  obtain ⟨small, rfl | rfl⟩ := digit
  · exact (all n small).1
  · exact (all n small).2

theorem readUnit?_spelled {n : Nat} {ds : List Char} (spelled : SpelledUnit n ds) (rest : List Char) :
    readUnit? (ds ++ rest) = some (n, rest) := by
  obtain ⟨x, y, z, u, a, b, c, d, rfl, rfl, first, second, third, fourth⟩ := spelled
  show readUnit? (a :: b :: c :: d :: rest) = _
  rw [readUnit?, hexValue?_of_hexDigit first, hexValue?_of_hexDigit second, hexValue?_of_hexDigit third,
    hexValue?_of_hexDigit fourth]
  rfl

/-- A unit that is a character. -/
theorem joinUnits_char (c : Char) (rest : List Char) : joinUnits c.toNat rest = (c, rest) := by
  have valid : c.toNat < 0xd800 ∨ 0xdfff < c.toNat ∧ c.toNat < 0x110000 := c.valid
  unfold joinUnits
  rw [if_neg (by omega), if_neg (by omega), Char.ofNat_toNat]

/-- Two units that are a pair. -/
theorem joinUnits_pair {c : Char} {high low : Nat} {ls : List Char} (isHigh : high < 0x400) (isLow : low < 0x400)
    (named : c.toNat = 0x10000 + high * 0x400 + low) (spelled : SpelledUnit (0xdc00 + low) ls) (rest : List Char) :
    joinUnits (0xd800 + high) ('\\' :: 'u' :: (ls ++ rest)) = (c, rest) := by
  have decoded : 0x10000 + (0xd800 + high - 0xd800) * 0x400 + (0xdc00 + low - 0xdc00) = c.toNat := by omega
  rw [joinUnits, if_pos (by omega)]
  simp only [readUnit?_spelled spelled]
  rw [if_pos (by omega), decoded, Char.ofNat_toNat]

theorem plainEscape?_of_mem {letter c : Char} (known : (letter, c) ∈ escapes) :
    letter ≠ 'u' ∧ plainEscape? letter = some c := by
  have all : ∀ e ∈ escapes, e.1 ≠ 'u' ∧ plainEscape? e.1 = some e.2 := by decide
  exact all _ known

/-- A character in front of what is read. -/
def readBefore (c : Char) (later : Option (List Char × List Char)) : Option (List Char × List Char) :=
  later.map fun (s, after) => (c :: s, after)

section

variable (fuel : Nat)

theorem readChars_plain {c : Char} (quote : c ≠ '"') (backslash : c ≠ '\\') (large : 0x20 ≤ c.toNat)
    (more : List Char) : readChars (fuel + 1) (c :: more) = readBefore c (readChars fuel more) := by
  have step : readChars (fuel + 1) (c :: more) =
      if c = '"' then _ else if c = '\\' then _ else if c.toNat < 0x20 then none
      else (readChars fuel more).bind fun (s, after) => some (c :: s, after) := rfl
  rw [step, if_neg quote, if_neg backslash, if_neg (Nat.not_lt.mpr large)]
  cases readChars fuel more <;> rfl

theorem readChars_escaped {letter c : Char} (other : letter ≠ 'u') (meant : plainEscape? letter = some c)
    (more : List Char) : readChars (fuel + 1) ('\\' :: letter :: more) = readBefore c (readChars fuel more) := by
  have step : readChars (fuel + 1) ('\\' :: letter :: more) =
      if letter = 'u' then _ else (plainEscape? letter).bind fun c =>
        (readChars fuel more).bind fun (s, after) => some (c :: s, after) := rfl
  rw [step, if_neg other, meant]
  cases readChars fuel more <;> rfl

theorem readChars_unit {n : Nat} {c : Char} {digits after more : List Char} (names : readUnit? digits = some (n, after))
    (joined : joinUnits n after = (c, more)) :
    readChars (fuel + 1) ('\\' :: 'u' :: digits) = readBefore c (readChars fuel more) := by
  have step : readChars (fuel + 1) ('\\' :: 'u' :: digits) = (readUnit? digits).bind fun found =>
      (readChars fuel (joinUnits found.1 found.2).2).bind fun later =>
        some ((joinUnits found.1 found.2).1 :: later.1, later.2) := rfl
  rw [step, names, Option.bind_some, joined]
  cases readChars fuel more <;> rfl

/-- What is read of a spelled character is put in front of what is read of the others. -/
theorem readChars_char {c : Char} {cs : List Char} (spelled : SpelledChar c cs) (more : List Char) :
    readChars (fuel + 1) (cs ++ more) = readBefore c (readChars fuel more) := by
  cases spelled with
  | plain quote backslash large => exact readChars_plain fuel quote backslash large more
  | escaped letter known =>
    obtain ⟨other, meant⟩ := plainEscape?_of_mem known
    exact readChars_escaped fuel other meant more
  | unit named => exact readChars_unit fuel (readUnit?_spelled named more) (joinUnits_char c more)
  | @pair high low hs ls isHigh isLow named first second =>
    rw [List.append_assoc]
    exact readChars_unit fuel (readUnit?_spelled first _) (joinUnits_pair isHigh isLow named second more)

end

theorem readChars_spelled {s cs : List Char} (spelled : SpelledChars s cs) {fuel : Nat} (enough : cs.length < fuel)
    (rest : List Char) : readChars fuel (cs ++ '"' :: rest) = some (s, rest) := by
  induction spelled generalizing fuel with
  | nil =>
    obtain ⟨fuel, rfl⟩ := Nat.exists_eq_succ_of_ne_zero (Nat.ne_of_gt enough)
    rfl
  | @cons c s cs more first others ih =>
    have taken : 0 < cs.length := by
      cases first <;> exact Nat.succ_pos _
    obtain ⟨fuel, rfl⟩ := Nat.exists_eq_succ_of_ne_zero (Nat.ne_of_gt (Nat.zero_lt_of_lt enough))
    rw [List.length_append] at enough
    rw [List.append_assoc, readChars_char fuel first, ih (by omega)]
    rfl

theorem readString?_spelled {s : String} {cs : List Char} (spelled : SpelledText s cs) (fuel : Nat)
    (enough : cs.length ≤ fuel + 1) (rest : List Char) :
    ∃ more, cs ++ rest = '"' :: more ∧ readString? fuel more = some (s, rest) := by
  obtain ⟨chars⟩ := spelled
  rename_i body
  simp only [List.length_cons, List.length_append, List.length_nil] at enough
  refine ⟨body ++ '"' :: rest, by simp, ?_⟩
  rw [readString?, readChars_spelled chars (by omega) rest]
  exact congrArg (fun t => some (t, rest)) String.ofList_toList

/-! ## Numbers -/

/-- What may follow a value: nothing, a blank, or what ends a value inside of another one. -/
def Delimited (rest : List Char) : Prop := ∀ c ∈ rest.head?, c ∈ [' ', '\t', '\n', '\r', ',', ']', '\x7d']

theorem Delimited.of_blank {bs rest : List Char} (blank : Blank bs) (ends : Delimited rest) : Delimited (bs ++ rest) := by
  cases bs with
  | nil => exact ends
  | cons b bs =>
    intro c mem
    obtain rfl : b = c := Option.some.inj mem
    have known := blank b List.mem_cons_self
    exact List.mem_append_left [',', ']', '\x7d'] known

theorem Delimited.cons {c : Char} (ends : c ∈ [',', ']', '\x7d']) (rest : List Char) : Delimited (c :: rest) := by
  intro d mem
  obtain rfl : c = d := Option.some.inj mem
  exact List.mem_append_right [' ', '\t', '\n', '\r'] ends

theorem Delimited.head {c : Char} {rest : List Char} (ends : Delimited (c :: rest)) :
    Decimal.isDigit c = false ∧ c ≠ '.' ∧ c ≠ 'e' ∧ c ≠ 'E' := by
  have known := ends c rfl
  simp only [List.mem_cons, List.not_mem_nil, or_false] at known
  rcases known with rfl | rfl | rfl | rfl | rfl | rfl | rfl <;> decide

theorem spanDigits_append {ds rest : List Char} (digits : ∀ c ∈ ds, Decimal.isDigit c = true) (ends : Delimited rest) :
    spanDigits (ds ++ rest) = (ds, rest) := by
  have none : rest.takeWhile Decimal.isDigit = [] ∧ rest.dropWhile Decimal.isDigit = rest := by
    cases rest with
    | nil => exact ⟨rfl, rfl⟩
    | cons c rest =>
      have other := ends.head.1
      exact ⟨List.takeWhile_cons_of_neg (by rw [other]; decide), List.dropWhile_cons_of_neg (by rw [other]; decide)⟩
  rw [spanDigits, List.span_eq_takeWhile_dropWhile, List.takeWhile_append_of_pos digits,
    List.dropWhile_append_of_pos digits, none.1, none.2, List.append_nil]

theorem readFraction_delimited {rest : List Char} (ends : Delimited rest) : readFraction rest = (none, rest) := by
  unfold readFraction
  split
  · exact absurd rfl ends.head.2.1
  · rfl

theorem readExponent_delimited {rest : List Char} (ends : Delimited rest) : readExponent rest = (none, rest) := by
  cases rest with
  | nil => rfl
  | cons c rest =>
    obtain ⟨-, -, small, large⟩ := ends.head
    exact if_neg (by rintro (h | h) <;> contradiction)

theorem readNumber?_numeral (negative : Bool) {n : Nat} {ds rest : List Char} (numeral : Numeral n ds)
    (ends : Delimited rest) :
    readNumber? negative (ds ++ rest) = some (.int (if negative then -n else n), rest) := by
  have some : ds.isEmpty = false := List.isEmpty_eq_false_iff.mpr numeral.nonempty
  unfold readNumber?
  split
  rename_i digits after found
  have whole : digits = ds ∧ after = rest := by
    split at found
    · rename_i more same
      obtain ⟨d, ds, rfl⟩ := List.exists_cons_of_ne_nil numeral.nonempty
      obtain ⟨rfl, tail⟩ := List.cons.inj same
      obtain ⟨-, rfl⟩ := List.cons.inj (numeral.leading rfl)
      obtain ⟨rfl, rfl⟩ := Prod.mk.inj found
      exact ⟨rfl, tail.symm⟩
    · rw [spanDigits_append numeral.digits ends] at found
      obtain ⟨rfl, rfl⟩ := Prod.mk.inj found
      exact ⟨rfl, rfl⟩
  obtain ⟨rfl, rfl⟩ := whole
  simp only [some, readFraction_delimited ends, readExponent_delimited ends, numeral.value]
  rfl

/-! ## Words -/

theorem ne_of_isDigit {c d : Char} (digit : Decimal.isDigit c = true) (other : Decimal.isDigit d = false) : c ≠ d := by
  rintro rfl
  rw [digit] at other
  cases other

/-- No word begins with a digit. -/
theorem readWord?_digit {c : Char} (digit : Decimal.isDigit c = true) (rest : List Char) : readWord? (c :: rest) = none := by
  have other (d : Char) (letter : Decimal.isDigit d = false) : d ≠ c := (ne_of_isDigit digit letter).symm
  simp [readWord?, words, dropWord?, other 'n' rfl, other 't' rfl, other 'f' rfl, other 'N' rfl, other 'I' rfl,
    other '-' rfl]

/-- The only word that begins with a sign goes on with a letter. -/
theorem readWord?_minus {c : Char} (digit : Decimal.isDigit c = true) (rest : List Char) :
    readWord? ('-' :: c :: rest) = none := by
  have other : 'I' ≠ c := (ne_of_isDigit digit rfl).symm
  simp [readWord?, words, dropWord?, other]

/-! ## Values -/

theorem Numeral.head {n : Nat} {ds : List Char} (numeral : Numeral n ds) :
    ∃ c more, ds = c :: more ∧ Decimal.isDigit c = true := by
  obtain ⟨c, more, rfl⟩ := List.exists_cons_of_ne_nil numeral.nonempty
  exact ⟨c, more, rfl, numeral.digits c List.mem_cons_self⟩

theorem readValue_digit {c : Char} (digit : Decimal.isDigit c = true) (fuel : Nat) (rest : List Char) :
    readValue (fuel + 1) (c :: rest) = readNumber? false (c :: rest) := by
  have other (d : Char) (letter : Decimal.isDigit d = false) : c ≠ d := ne_of_isDigit digit letter
  rw [readValue, if_neg (other '"' rfl), if_neg (other '[' rfl), if_neg (other '\x7b' rfl), readWord?_digit digit]
  exact if_neg (other '-' rfl)

theorem readValue_minus {c : Char} (digit : Decimal.isDigit c = true) (fuel : Nat) (rest : List Char) :
    readValue (fuel + 1) ('-' :: c :: rest) = readNumber? true (c :: rest) := by
  rw [readValue, if_neg (by decide), if_neg (by decide), if_neg (by decide), readWord?_minus digit]
  rfl

theorem readValue_spelledInt {n : Int} {cs : List Char} (spelled : SpelledInt n cs) (fuel : Nat) {rest : List Char}
    (ends : Delimited rest) : readValue (fuel + 1) (cs ++ rest) = some (.int n, rest) := by
  cases spelled with
  | plain numeral =>
    obtain ⟨c, more, rfl, digit⟩ := numeral.head
    exact (readValue_digit digit fuel _).trans (readNumber?_numeral false numeral ends)
  | minus numeral =>
    obtain ⟨c, more, rfl, digit⟩ := numeral.head
    exact (readValue_minus digit fuel _).trans (readNumber?_numeral true numeral ends)

theorem readValue_spelledText {s : String} {cs : List Char} (spelled : SpelledText s cs) {fuel : Nat}
    (enough : cs.length ≤ fuel + 1) (rest : List Char) : readValue (fuel + 1) (cs ++ rest) = some (.text s, rest) := by
  obtain ⟨more, quotes, reads⟩ := readString?_spelled spelled (fuel + 1) (Nat.le_succ_of_le enough) rest
  rw [quotes, readValue, if_pos rfl, reads]
  rfl

/-- A value does not begin with a blank, nor with a closing bracket. -/
theorem Spelled.head {v : Value} {cs : List Char} (spelled : Spelled v cs) :
    ∃ c more, cs = c :: more ∧ isSpace c = false ∧ c ≠ ']' := by
  have solid {c : Char} (digit : Decimal.isDigit c = true) : isSpace c = false ∧ c ≠ ']' := by
    have other (d : Char) (letter : Decimal.isDigit d = false) : c ≠ d := ne_of_isDigit digit letter
    exact ⟨by simp [isSpace, other ' ' rfl, other '\t' rfl, other '\n' rfl, other '\r' rfl], other ']' rfl⟩
  cases spelled with
  | null | yes | no | emptyList | list | emptyDict | dict => exact ⟨_, _, rfl, rfl, by decide⟩
  | text spelled =>
    cases spelled
    exact ⟨_, _, rfl, rfl, by decide⟩
  | int spelled =>
    cases spelled with
    | plain numeral =>
      obtain ⟨c, more, rfl, digit⟩ := numeral.head
      exact ⟨c, more, rfl, solid digit⟩
    | minus => exact ⟨_, _, rfl, rfl, by decide⟩

theorem Spelled.skipSpace_append {v : Value} {bs cs : List Char} (blank : Blank bs) (spelled : Spelled v cs)
    (rest : List Char) : skipSpace (bs ++ (cs ++ rest)) = cs ++ rest := by
  obtain ⟨c, more, rfl, solid, -⟩ := spelled.head
  rw [Json.skipSpace_append blank]
  exact skipSpace_cons solid (more ++ rest)

/-! ## Lists and objects -/

/-- What is made of an item that has been read, by what follows it. -/
def itemsFrom (fuel : Nat) (v : Value) : List Char → Option (List Value × List Char)
  | ']' :: after => some ([v], after)
  | ',' :: more => do
    let (vs, after) ← readItems fuel more
    some (v :: vs, after)
  | _ => none

/-- What is made of a member that has been read, by what follows it. -/
def membersFrom (fuel : Nat) (k : String) (v : Value) : List Char → Option (List (String × Value) × List Char)
  | '\x7d' :: after => some ([(k, v)], after)
  | ',' :: more => do
    let (ms, after) ← readMembers fuel more
    some ((k, v) :: ms, after)
  | _ => none

theorem readItems_succ {fuel : Nat} {cs rest : List Char} {v : Value}
    (reads : readValue fuel (skipSpace cs) = some (v, rest)) :
    readItems (fuel + 1) cs = itemsFrom fuel v (skipSpace rest) := by
  rw [readItems, reads]
  rfl

theorem readMembers_succ {fuel : Nat} {cs more rest after rest' : List Char} {k : String} {v : Value}
    (quotes : skipSpace cs = '"' :: more) (key : readString? (fuel + 1) more = some (k, rest))
    (colon : skipSpace rest = ':' :: after) (reads : readValue fuel (skipSpace after) = some (v, rest')) :
    readMembers (fuel + 1) cs = membersFrom fuel k v (skipSpace rest') := by
  simp only [readMembers, quotes, key, Option.bind_eq_bind, Option.bind_some, colon, reads]
  rfl

theorem readValue_list {fuel : Nat} {rest : List Char} (some : ∀ after, skipSpace rest ≠ ']' :: after) :
    readValue (fuel + 1) ('[' :: rest) = (readItems fuel rest).map fun (vs, after) => (.list vs, after) := by
  rw [readValue, if_neg (by decide), if_pos rfl]
  split
  · exact absurd ‹_› (some _)
  · rfl

theorem readValue_dict {fuel : Nat} {rest : List Char} (some : ∀ after, skipSpace rest ≠ '\x7d' :: after) :
    readValue (fuel + 1) ('\x7b' :: rest) =
      (readMembers fuel rest).map fun (ms, after) => (.dict (Entries.ofPairs ms), after) := by
  rw [readValue, if_neg (by decide), if_neg (by decide), if_pos rfl]
  split
  · exact absurd ‹_› (some _)
  · rfl

/-- The items of a list do not begin with its end. -/
theorem SpelledItems.head {items : List Value} {cs : List Char} (spelled : SpelledItems items cs)
    (rest after : List Char) : skipSpace (cs ++ rest) ≠ ']' :: after := by
  cases spelled with
  | last blank spelled | cons blank spelled =>
    intro ended
    rw [List.append_assoc, List.append_assoc, spelled.skipSpace_append blank] at ended
    obtain ⟨c, more, rfl, -, other⟩ := spelled.head
    exact other (List.cons.inj ended).1

/-- A member of an object begins with a quote. -/
theorem SpelledMember.head {k : String} {v : Value} {cs : List Char} (spelled : SpelledMember k v cs) (rest : List Char) :
    ∃ more, skipSpace (cs ++ rest) = '"' :: more := by
  cases spelled with
  | mk blank key =>
    cases key
    rw [List.append_assoc, Json.skipSpace_append blank]
    exact ⟨_, rfl⟩

theorem SpelledMembers.head {members : List (String × Value)} {cs : List Char} (spelled : SpelledMembers members cs)
    (rest after : List Char) : skipSpace (cs ++ rest) ≠ '\x7d' :: after := by
  cases spelled with
  | last member | cons member =>
    intro ended
    rw [List.append_assoc] at ended
    obtain ⟨more, quotes⟩ := member.head (_ ++ rest)
    rw [quotes] at ended
    exact absurd (List.cons.inj ended).1 (by decide)

mutual

/-- With enough fuel, a value is read that is spelled in front of other characters. -/
theorem Spelled.read {v : Value} {cs : List Char} : Spelled v cs → ∀ {fuel : Nat}, 2 * cs.length ≤ fuel →
    ∀ {rest : List Char}, Delimited rest → readValue fuel (cs ++ rest) = some (v, rest)
  | spelled, 0, enough, rest, ends => by
    obtain ⟨c, more, rfl, -⟩ := spelled.head
    cases enough
  | .null, _ + 1, _, _, _ | .yes, _ + 1, _, _, _ | .no, _ + 1, _, _, _ => rfl
  | .int spelled, fuel + 1, _, _, ends => readValue_spelledInt spelled fuel ends
  | .text spelled, fuel + 1, enough, rest, _ => readValue_spelledText spelled (by omega) rest
  | .emptyList blank, fuel + 1, _, rest, _ => by
    have ended := skipSpace_append blank (']' :: rest)
    simp only [List.cons_append, List.append_assoc, List.nil_append]
    rw [readValue, if_neg (by decide), if_pos rfl, ended]
    rfl
  | .list spelled, fuel + 1, enough, rest, _ => by
    rw [List.length_cons] at enough
    rw [List.cons_append, readValue_list (spelled.head rest), spelled.read (by omega) rest]
    rfl
  | .emptyDict blank, fuel + 1, _, rest, _ => by
    have ended := skipSpace_append blank ('\x7d' :: rest)
    simp only [List.cons_append, List.append_assoc, List.nil_append]
    rw [readValue, if_neg (by decide), if_neg (by decide), if_pos rfl, ended]
    rfl
  | .dict spelled, fuel + 1, enough, rest, _ => by
    rw [List.length_cons] at enough
    rw [List.cons_append, readValue_dict (spelled.head rest), spelled.read (by omega) rest]
    rfl

theorem SpelledItems.read {items : List Value} {cs : List Char} : SpelledItems items cs → ∀ {fuel : Nat},
    2 * cs.length ≤ fuel → ∀ rest : List Char, readItems fuel (cs ++ rest) = some (items, rest)
  | .last _ _ _, 0, enough, _ | .cons _ _ _ _, 0, enough, _ => by
    simp only [List.length_append, List.length_cons] at enough
    omega
  | .last blank spelled blank', fuel + 1, enough, rest => by
    simp only [List.length_append, List.length_cons] at enough
    simp only [List.append_assoc, List.cons_append, List.nil_append]
    have ends : Delimited (_ ++ ']' :: rest) := .of_blank blank' (.cons (by decide) rest)
    have reads : readValue fuel _ = _ := spelled.read (by omega) ends
    rw [← spelled.skipSpace_append blank] at reads
    rw [readItems_succ reads, skipSpace_append blank']
    rfl
  | @SpelledItems.cons _ _ _ _ _ more blank spelled blank' others, fuel + 1, enough, rest => by
    simp only [List.length_append, List.length_cons] at enough
    simp only [List.append_assoc, List.cons_append]
    have ends : Delimited (_ ++ ',' :: (more ++ rest)) := .of_blank blank' (.cons (by decide) _)
    have reads : readValue fuel _ = _ := spelled.read (by omega) ends
    have later : readItems fuel (more ++ rest) = _ := others.read (by omega) rest
    rw [← spelled.skipSpace_append blank] at reads
    rw [readItems_succ reads, skipSpace_append blank', skipSpace_cons rfl, itemsFrom, later]
    rfl

theorem SpelledMember.read {k : String} {v : Value} {cs : List Char} : SpelledMember k v cs → ∀ {fuel : Nat},
    2 * cs.length ≤ fuel + 1 → ∀ {rest : List Char}, Delimited rest →
      readMembers (fuel + 1) (cs ++ rest) = membersFrom fuel k v (skipSpace rest)
  | @SpelledMember.mk _ _ _ _ between between' cs blank key blank' blank'' spelled, fuel, enough, rest, ends => by
    simp only [List.length_append, List.length_cons] at enough
    simp only [List.append_assoc, List.cons_append]
    obtain ⟨more, quotes, name⟩ :=
      readString?_spelled key (fuel + 1) (by omega) (between ++ ':' :: (between' ++ (cs ++ rest)))
    have begins := (skipSpace_append blank _).trans ((congrArg skipSpace quotes).trans (skipSpace_cons rfl more))
    have colon := (skipSpace_append blank' (':' :: (between' ++ (cs ++ rest)))).trans (skipSpace_cons rfl _)
    have reads : readValue fuel _ = _ := spelled.read (by omega) ends
    rw [← spelled.skipSpace_append blank''] at reads
    exact readMembers_succ begins name colon reads

theorem SpelledMembers.read {members : List (String × Value)} {cs : List Char} : SpelledMembers members cs →
    ∀ {fuel : Nat}, 2 * cs.length ≤ fuel → ∀ rest : List Char, readMembers fuel (cs ++ rest) = some (members, rest)
  | .last _ _, 0, enough, _ | .cons _ _ _, 0, enough, _ => by
    simp only [List.length_append, List.length_cons] at enough
    omega
  | .last member blank, fuel + 1, enough, rest => by
    simp only [List.length_append, List.length_cons] at enough
    simp only [List.append_assoc, List.cons_append, List.nil_append]
    have ends : Delimited (_ ++ '\x7d' :: rest) := .of_blank blank (.cons (by decide) rest)
    rw [member.read (by omega) ends, skipSpace_append blank]
    rfl
  | @SpelledMembers.cons _ _ _ _ _ more member blank others, fuel + 1, enough, rest => by
    simp only [List.length_append, List.length_cons] at enough
    simp only [List.append_assoc, List.cons_append]
    have ends : Delimited (_ ++ ',' :: (more ++ rest)) := .of_blank blank (.cons (by decide) _)
    have later : readMembers fuel (more ++ rest) = _ := others.read (by omega) rest
    rw [member.read (by omega) ends, skipSpace_append blank, skipSpace_cons rfl, membersFrom, later]
    rfl

end

/-- A text is read as the value that it is JSON for. -/
theorem read?_of_denotes {s : String} {v : Value} (denotes : Denotes s v) : read? s = some v := by
  obtain ⟨before, cs, after, blank, spelled, blank', chars⟩ := denotes
  have ends : Delimited (after ++ []) := .of_blank blank' fun c mem => nomatch mem
  have starts := spelled.skipSpace_append blank (after ++ [])
  have finished : (skipSpace (after ++ [])).isEmpty = true := by rw [skipSpace_append blank']; rfl
  rw [List.append_nil] at starts ends finished
  have reads : readValue (2 * (cs ++ after).length + 2) (cs ++ after) = _ :=
    spelled.read (by rw [List.length_append]; omega) ends
  rw [read?, chars, starts, reads]
  exact if_pos finished

/-- One value for each text. -/
theorem Denotes.unique {s : String} {v w : Value} (denotes : Denotes s v) (denotes' : Denotes s w) : v = w :=
  Option.some.inj ((read?_of_denotes denotes).symm.trans (read?_of_denotes denotes'))

/-! ## What is no object -/

theorem readWord?_ne_dict {cs after : List Char} {entries : List (String × Value)} :
    readWord? cs ≠ some (.dict entries, after) := by
  intro reads
  obtain ⟨⟨w, v⟩, known, found⟩ := List.exists_of_findSome?_eq_some reads
  obtain ⟨rest, -, same⟩ := Option.map_eq_some_iff.mp found
  obtain ⟨rfl, -⟩ := Prod.mk.inj same
  simp [words] at known

theorem readNumber?_ne_dict {negative : Bool} {cs after : List Char} {entries : List (String × Value)} :
    readNumber? negative cs ≠ some (.dict entries, after) := by
  intro reads
  unfold readNumber? at reads
  repeat' split at reads
  all_goals cases reads

/-- What is read as an object begins with a brace. -/
theorem brace_of_readValue {fuel : Nat} {c : Char} {rest after : List Char} {entries : List (String × Value)}
    (reads : readValue fuel (c :: rest) = some (.dict entries, after)) : c = '\x7b' := by
  cases fuel with
  | zero => cases reads
  | succ fuel =>
    rw [readValue] at reads
    by_contra other
    rw [if_neg other] at reads
    split at reads
    · obtain ⟨found, -, same⟩ := Option.map_eq_some_iff.mp reads
      cases same
    split at reads
    · split at reads
      · cases reads
      · obtain ⟨found, -, same⟩ := Option.map_eq_some_iff.mp reads
        cases same
    split at reads
    · rename_i word
      cases reads
      exact readWord?_ne_dict word
    split at reads <;> exact readNumber?_ne_dict reads

/-- A text is no object unless it has a brace in front, after blanks. -/
theorem brace_of_read? {s : String} {entries : List (String × Value)} (reads : read? s = some (.dict entries)) :
    ∃ rest, skipSpace s.toList = '\x7b' :: rest := by
  unfold read? at reads
  obtain ⟨⟨v, after⟩, found, finished⟩ := Option.bind_eq_some_iff.mp reads
  obtain ⟨-, same⟩ := Option.ite_none_right_eq_some.mp finished
  obtain rfl := Option.some.inj same
  cases chars : skipSpace s.toList with
  | nil =>
    rw [chars] at found
    cases found
  | cons c rest =>
    rw [chars] at found
    exact ⟨rest, by rw [brace_of_readValue found]⟩

end Rendezvous.Json
