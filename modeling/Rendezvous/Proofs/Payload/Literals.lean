import Rendezvous.Value.Shown
import Rendezvous.Proofs.Json.Writing
import Rendezvous.Proofs.Payload.Quotes

/-!
# Literals tell values apart

A value without floats is the only one with its literal, and the literal says where it ends, if something follows that may
follow a value (`Settled.apart`).  The first character says what kind of value it is (`Settled.begins`).  A row of
things that are told apart is told apart, too, up to its closing bracket (`row_cancel`): so are lists and dictionaries, by
induction.
-/

namespace Rendezvous

set_option autoImplicit false

open Json (Settled Delimited)

/-! ## Rows -/

section

variable {α : Type} (write : α → List Char) (Known : α → Prop)

/-- In front of what may follow it, something is written as nothing else that is known. -/
def ToldApart (a : α) : Prop := ∀ b, Known b → ∀ {r s : List Char}, Delimited r → Delimited s →
  write a ++ r = write b ++ s → a = b ∧ r = s

/-- Things in a row, with commas between them. -/
def row (as : List α) : List Char := List.intercalate [',', ' '] (as.map write)

/-- What is written of the others after the first one of a row. -/
def rowTail (as : List α) : List Char := as.flatMap fun a => ',' :: ' ' :: write a

end

section

variable {α : Type} {write : α → List Char} {Known : α → Prop} {as bs : List α} {close : Char} {r s : List Char}

theorem row_cons (a : α) (as : List α) : row write (a :: as) = write a ++ rowTail write as := by
  induction as generalizing a with
  | nil => simp [row, rowTail]
  | cons b as ih =>
    have later := ih b
    unfold row rowTail at later ⊢
    rw [List.map_cons] at later ⊢
    rw [List.map_cons, List.intercalate_cons_cons, later, List.flatMap_cons]
    simp

/-- The others of a row, or what closes it, may follow the first one. -/
theorem delimited_rowTail (closes : close ∈ [']', '\x7d']) (as : List α) (r : List Char) :
    Delimited (rowTail write as ++ close :: r) := by
  cases as with
  | nil => exact .cons (List.mem_cons_of_mem _ closes) r
  | cons a as => exact .cons (List.mem_cons_self) _

theorem rowTail_cancel (closes : close ∈ [']', '\x7d']) (apart : ∀ a ∈ as, ToldApart write Known a) (known : ∀ b ∈ bs, Known b)
    (same : rowTail write as ++ close :: r = rowTail write bs ++ close :: s) : as = bs ∧ r = s := by
  have comma : ',' ≠ close := by
    simp only [List.mem_cons, List.not_mem_nil, or_false] at closes
    rcases closes with rfl | rfl <;> decide
  induction as generalizing bs with
  | nil =>
    cases bs with
    | nil => exact ⟨rfl, (List.cons.inj same).2⟩
    | cons b bs => exact absurd (List.cons.inj same).1.symm comma
  | cons a as ih =>
    cases bs with
    | nil => exact absurd (List.cons.inj same).1 comma
    | cons b bs =>
      obtain ⟨first, later⟩ := List.forall_mem_cons.mp apart
      obtain ⟨knownFirst, knownOthers⟩ := List.forall_mem_cons.mp known
      have items : write a ++ (rowTail write as ++ close :: r) = write b ++ (rowTail write bs ++ close :: s) := by
        simpa [rowTail] using same
      obtain ⟨rfl, rest⟩ := first b knownFirst (delimited_rowTail closes as r) (delimited_rowTail closes bs s) items
      obtain ⟨rfl, rfl⟩ := ih later knownOthers rest
      exact ⟨rfl, rfl⟩

/-- A row of things that are told apart says which they are, and where it is closed. -/
theorem row_cancel (closes : close ∈ [']', '\x7d']) (apart : ∀ a ∈ as, ToldApart write Known a) (known : ∀ a ∈ as, Known a)
    (known' : ∀ b ∈ bs, Known b) (opens : ∀ a, Known a → ∃ c more, write a = c :: more ∧ c ≠ close)
    (same : row write as ++ close :: r = row write bs ++ close :: s) : as = bs ∧ r = s := by
  cases as with
  | nil =>
    cases bs with
    | nil => exact ⟨rfl, (List.cons.inj same).2⟩
    | cons b bs =>
      obtain ⟨c, more, begins, other⟩ := opens b (known' b List.mem_cons_self)
      rw [row_cons, begins] at same
      exact absurd (List.cons.inj same).1.symm other
  | cons a as =>
    obtain ⟨first, later⟩ := List.forall_mem_cons.mp apart
    cases bs with
    | nil =>
      obtain ⟨c, more, begins, other⟩ := opens a (known a List.mem_cons_self)
      rw [row_cons, begins] at same
      exact absurd (List.cons.inj same).1 other
    | cons b bs =>
      obtain ⟨knownFirst, knownOthers⟩ := List.forall_mem_cons.mp known'
      rw [row_cons, row_cons, List.append_assoc, List.append_assoc] at same
      obtain ⟨rfl, rest⟩ := first b knownFirst (delimited_rowTail closes as r) (delimited_rowTail closes bs s) same
      obtain ⟨rfl, rfl⟩ := rowTail_cancel closes later knownOthers rest
      exact ⟨rfl, rfl⟩

theorem toList_joined (f : α → String) (as : List α) :
    (joined ", " (as.map f)).toList = row (fun a => (f a).toList) as := by
  rw [joined, String.toList_intercalate, List.map_map]
  rfl

end

/-! ## The literals of each kind of value -/

namespace Value

/-- An entry of a dictionary as it is written there. -/
def entryLiteral (e : String × Value) : String := Text.quoted e.1 ++ ": " ++ e.2.literal

theorem literals_eq_map (items : List Value) : literals items = items.map literal := by
  induction items with
  | nil => rfl
  | cons v items ih => rw [literals, ih, List.map_cons]

theorem entryLiterals_eq_map (entries : List (String × Value)) : entryLiterals entries = entries.map entryLiteral := by
  induction entries with
  | nil => rfl
  | cons e entries ih => rw [entryLiterals, ih, List.map_cons, entryLiteral]

/-- The characters of a literal. -/
def letters (v : Value) : List Char := v.literal.toList

theorem letters_list (items : List Value) : (list items).letters = '[' :: (row letters items ++ [']']) := by
  rw [letters, literal, literals_eq_map, String.toList_append, String.toList_append, toList_joined]
  rfl

/-- The characters of an entry of a dictionary. -/
def entryLetters (e : String × Value) : List Char := (entryLiteral e).toList

theorem letters_dict (entries : List (String × Value)) :
    (dict entries).letters = '\x7b' :: (row entryLetters entries ++ ['\x7d']) := by
  rw [letters, literal, entryLiterals_eq_map, String.toList_append, String.toList_append, toList_joined]
  rfl

theorem entryLetters_eq (e : String × Value) :
    entryLetters e = (Text.quoted e.1).toList ++ ':' :: ' ' :: e.2.letters := by
  rw [entryLetters, entryLiteral, String.toList_append, String.toList_append, List.append_assoc]
  rfl

/-! ## The first character -/

/-- The first characters that the literal of a value may have. -/
inductive Begins : Value → Char → Prop
  | null : Begins null 'N'
  | yes : Begins (bool true) 'T'
  | no : Begins (bool false) 'F'
  | digit (n : Int) {c : Char} (digit : Decimal.isDigit c = true) : Begins (int n) c
  | minus (n : Int) : Begins (int n) '-'
  | quote (s : String) {c : Char} (known : Text.IsQuote c) : Begins (text s) c
  | list (items : List Value) : Begins (list items) '['
  | dict (entries : List (String × Value)) : Begins (dict entries) '\x7b'

/-- Two values of one kind. -/
inductive Alike : Value → Value → Prop
  | null : Alike null null
  | bool (b : Bool) : Alike (bool b) (bool b)
  | int (m n : Int) : Alike (int m) (int n)
  | text (s t : String) : Alike (text s) (text t)
  | list (items items' : List Value) : Alike (list items) (list items')
  | dict (entries entries' : List (String × Value)) : Alike (dict entries) (dict entries')

theorem Begins.alike {v w : Value} {c : Char} (begins : Begins v c) (begins' : Begins w c) : Alike v w := by
  have noDigit {d : Char} (known : Text.IsQuote d) : Decimal.isDigit d = false := by
    rcases known with rfl | rfl <;> rfl
  cases begins with
  | digit n digit =>
    cases begins' with
    | digit | minus => constructor
    | quote s known => rw [noDigit known] at digit; cases digit
    | _ => cases digit
  | quote s known =>
    cases begins' with
    | quote => constructor
    | digit n digit => rw [noDigit known] at digit; cases digit
    | _ => rcases known with h | h <;> cases h
  | _ =>
    cases begins' with
    | digit n digit => cases digit
    | quote s known => rcases known with h | h <;> cases h
    | _ => constructor

end Value

/-! ## Values are told apart -/

namespace Json

open Value (letters entryLetters Begins)

theorem SpelledInt.begins {n : Int} {cs : List Char} (spelled : SpelledInt n cs) :
    ∃ c more, cs = c :: more ∧ Begins (.int n) c := by
  cases spelled with
  | plain numeral =>
    obtain ⟨c, more, rfl, digit⟩ := numeral.head
    exact ⟨c, more, rfl, .digit _ digit⟩
  | minus => exact ⟨_, _, rfl, .minus _⟩

theorem Settled.begins {v : Value} (settled : Settled v) : ∃ c more, v.letters = c :: more ∧ Begins v c := by
  cases settled with
  | null => exact ⟨_, _, rfl, .null⟩
  | bool b => cases b with
    | true => exact ⟨_, _, rfl, .yes⟩
    | false => exact ⟨_, _, rfl, .no⟩
  | int n => exact (spelledInt_toString n).begins
  | text s =>
    obtain ⟨quote, known, written⟩ := Text.toList_quoted s
    exact ⟨quote, _, written, .quote s known⟩
  | @list items => exact ⟨_, _, Value.letters_list items, .list items⟩
  | @dict entries => exact ⟨_, _, Value.letters_dict entries, .dict entries⟩

/-- No literal begins with a closing bracket. -/
theorem Settled.opens {v : Value} (settled : Settled v) : ∃ c more, v.letters = c :: more ∧ c ≠ ']' := by
  obtain ⟨c, more, written, begins⟩ := settled.begins
  refine ⟨c, more, written, ?_⟩
  rintro rfl
  cases begins with
  | digit n digit => cases digit
  | quote s known => rcases known with h | h <;> cases h

/-- Values of two kinds have literals that begin differently. -/
theorem Settled.alike {v w : Value} (settled : Settled v) (settled' : Settled w) {r s : List Char}
    (same : v.letters ++ r = w.letters ++ s) : Value.Alike v w := by
  obtain ⟨c, more, written, begins⟩ := settled.begins
  obtain ⟨d, more', written', begins'⟩ := settled'.begins
  rw [written, written'] at same
  obtain rfl : c = d := (List.cons.inj same).1
  exact begins.alike begins'

theorem int_cancel {m n : Int} {r s : List Char} (ends : Delimited r) (ends' : Delimited s)
    (same : (Value.int m).letters ++ r = (Value.int n).letters ++ s) : m = n ∧ r = s := by
  have reads := readValue_spelledInt (spelledInt_toString m) 0 ends
  have reads' := readValue_spelledInt (spelledInt_toString n) 0 ends'
  have both : some (Value.int m, r) = some (Value.int n, s) := reads.symm.trans ((congrArg (readValue 1) same).trans reads')
  simpa using both

theorem apart_entry {e : String × Value} (apart : ToldApart letters Settled e.2) :
    ToldApart entryLetters (fun e => Settled e.2) e := by
  intro e' settled r s ends ends' same
  rw [Value.entryLetters_eq, Value.entryLetters_eq, List.append_assoc, List.append_assoc] at same
  obtain ⟨key, rest⟩ := Text.quoted_cancel same
  obtain ⟨value, rest⟩ := apart e'.2 settled ends ends' (List.cons.inj (List.cons.inj rest).2).2
  exact ⟨Prod.ext key value, rest⟩

theorem entryLetters_opens (e : String × Value) : ∃ c more, entryLetters e = c :: more ∧ c ≠ '\x7d' := by
  obtain ⟨quote, known, written⟩ := Text.toList_quoted e.1
  rw [Value.entryLetters_eq, written]
  exact ⟨quote, _, rfl, by rcases known with rfl | rfl <;> decide⟩

/-- The literal of a value is the literal of no other one, and says where it ends. -/
theorem Settled.apart {v : Value} (settled : Settled v) : ToldApart letters Settled v := by
  induction settled with
  | null | bool =>
    intro w settled' r s ends ends' same
    cases Settled.alike (by constructor) settled' same
    exact ⟨rfl, List.append_cancel_left same⟩
  | int m =>
    intro w settled' r s ends ends' same
    cases Settled.alike (.int m) settled' same
    obtain ⟨rfl, rfl⟩ := int_cancel ends ends' same
    exact ⟨rfl, rfl⟩
  | text t =>
    intro w settled' r s ends ends' same
    cases Settled.alike (.text t) settled' same
    obtain ⟨rfl, rfl⟩ := Text.quoted_cancel same
    exact ⟨rfl, rfl⟩
  | @list items all ih =>
    intro w settled' r s ends ends' same
    cases Settled.alike (.list all) settled' same
    rename_i others
    cases settled' with
    | list all' =>
      rw [Value.letters_list, Value.letters_list] at same
      have rows : row letters items ++ ']' :: r = row letters others ++ ']' :: s := by simpa using same
      obtain ⟨rfl, rfl⟩ := row_cancel (by decide) ih all all' (fun v known => known.opens) rows
      exact ⟨rfl, rfl⟩
  | @dict entries keys all ih =>
    intro w settled' r s ends ends' same
    cases Settled.alike (.dict keys all) settled' same
    rename_i others
    cases settled' with
    | dict keys' all' =>
      rw [Value.letters_dict, Value.letters_dict] at same
      have rows : row entryLetters entries ++ '\x7d' :: r = row entryLetters others ++ '\x7d' :: s := by simpa using same
      obtain ⟨rfl, rfl⟩ := row_cancel (by decide) (fun e mem => apart_entry (ih e mem)) all all'
        (fun e _ => entryLetters_opens e) rows
      exact ⟨rfl, rfl⟩

end Json
end Rendezvous
