import Mathlib.Data.List.Basic
import Rendezvous.Text.Word
import Rendezvous.Proofs.Payload.Literals

/-!
# The text of a call says which call it is

The text that is recorded of a call has its arguments in a row, those by name with the name and an equals sign in front.  No
literal is mistaken for a name (`letters_ne_named`): up to the equals sign there are only characters of a name, and what follows
a literal is none.  So the text tells the arguments apart, in their order, and whether they were given by position or by name
(`describeArguments_inj`).
-/

namespace Rendezvous

set_option autoImplicit false

open Json (Settled Delimited)
open Value (letters)

/-! ## Names -/

/-- What the characters below U+0080 say of a name: they are letters, digits and low lines, and no digit comes first.  Which
other characters a name may have is left open, so every identifier is a name. -/
structure IsName (name : String) : Prop where
  some : name.toList ≠ []
  start : ∀ c ∈ name.toList.head?, Decimal.isDigit c = false
  word : ∀ c ∈ name.toList, c.toNat < 0x80 → Text.isWord c = true

theorem IsName.notMem {name : String} (isName : IsName name) {c : Char} (small : c.toNat < 0x80)
    (other : Text.isWord c = false) : c ∉ name.toList := by
  intro mem
  have word := isName.word c mem small
  rw [other] at word
  cases word

theorem IsName.equals_notMem {name : String} (isName : IsName name) : '=' ∉ name.toList :=
  isName.notMem (by decide) (by decide)

/-- What may follow a value is no character of a name, nor the equals sign behind it. -/
theorem IsName.not_delimited {name : String} (isName : IsName name) {c : Char} {rest : List Char}
    (part : c ∈ name.toList ∨ c = '=') : ¬ Delimited (c :: rest) := by
  intro ends
  have known := ends c rfl
  simp only [List.mem_cons, List.not_mem_nil, or_false] at known
  rcases part with mem | rfl
  · rcases known with rfl | rfl | rfl | rfl | rfl | rfl | rfl
    all_goals exact isName.notMem (by decide) (by decide) mem
  · revert known
    decide

/-- A name ends at the first equals sign. -/
theorem name_cancel {cs ds r s : List Char} (plain : '=' ∉ cs) (plain' : '=' ∉ ds)
    (same : cs ++ '=' :: r = ds ++ '=' :: s) : cs = ds ∧ r = s := by
  induction cs generalizing ds with
  | nil =>
    cases ds with
    | nil => exact ⟨rfl, (List.cons.inj same).2⟩
    | cons d ds => exact absurd ((List.cons.inj same).1 ▸ List.mem_cons_self) plain'
  | cons c cs ih =>
    cases ds with
    | nil => exact absurd ((List.cons.inj same).1 ▸ List.mem_cons_self) plain
    | cons d ds =>
      obtain ⟨rfl, rest⟩ := List.cons.inj same
      obtain ⟨rfl, rfl⟩ := ih (List.not_mem_of_not_mem_cons plain) (List.not_mem_of_not_mem_cons plain') rest
      exact ⟨rfl, rfl⟩

/-! ## Arguments -/

/-- An argument as a call gives it. -/
inductive Argument where
  | positional (v : Value)
  | named (name : String) (v : Value)

namespace Argument

/-- An argument as it is recorded. -/
def shown : Argument → String
  | positional v => v.literal
  | named name v => name ++ "=" ++ v.literal

/-- The arguments of a call, in their order. -/
def ofCall (args : List Value) (named : Entries Value) : List Argument :=
  args.map positional ++ named.map fun e => .named e.1 e.2

theorem ofCall_injective {args args' : List Value} {named named' : Entries Value}
    (same : ofCall args named = ofCall args' named') : args = args' ∧ named = named' := by
  induction args generalizing args' with
  | nil =>
    cases args' with
    | cons v args' => cases named <;> cases same
    | nil =>
      have apart : Function.Injective fun e : String × Value => Argument.named e.1 e.2 := by
        intro e e' same
        obtain ⟨key, value⟩ := Argument.named.inj same
        exact Prod.ext key value
      exact ⟨rfl, List.map_injective_iff.mpr apart same⟩
  | cons v args ih =>
    cases args' with
    | nil => cases named' <;> cases same
    | cons w args' =>
      obtain ⟨first, rest⟩ := List.cons.inj same
      obtain ⟨rfl, rfl⟩ := ih rest
      exact ⟨by rw [positional.inj first], rfl⟩

/-- The characters of an argument. -/
def letters (a : Argument) : List Char := a.shown.toList

theorem letters_named (name : String) (v : Value) : (named name v).letters = name.toList ++ '=' :: v.letters := by
  rw [letters, shown, String.toList_append, String.toList_append, List.append_assoc]
  rfl

/-- Arguments without floats, by names that are names. -/
def Plain : Argument → Prop
  | positional v => Settled v
  | named name v => IsName name ∧ Settled v

end Argument

/-- A literal is not mistaken for a name with an equals sign behind it. -/
theorem letters_ne_named {v : Value} (settled : Settled v) {name : String} (isName : IsName name) {r s : List Char}
    (ends : Delimited r) : v.letters ++ r ≠ name.toList ++ '=' :: s := by
  intro same
  -- a word may be the beginning of a name, but what follows it is not the rest of one
  have word (plain : '=' ∉ v.letters) : False := by
    rcases List.append_eq_append_iff.mp same with ⟨more, longer, rest⟩ | ⟨more, longer, rest⟩
    · cases more with
      | nil => exact isName.not_delimited (.inr rfl) (rest ▸ ends)
      | cons c more =>
        have mem : c ∈ name.toList := longer ▸ List.mem_append_right _ List.mem_cons_self
        exact isName.not_delimited (.inl mem) (rest ▸ ends)
    · cases more with
      | nil =>
        obtain rfl : '=' :: s = r := rest
        exact isName.not_delimited (.inr rfl) ends
      | cons c more =>
        obtain rfl : '=' = c := (List.cons.inj rest).1
        exact plain (longer ▸ List.mem_append_right _ List.mem_cons_self)
  obtain ⟨c, more, written, begins⟩ := settled.begins
  obtain ⟨d, name', chars⟩ := List.exists_cons_of_ne_nil isName.some
  rw [written, chars] at same
  obtain rfl : c = d := (List.cons.inj same).1
  have mem : c ∈ name.toList := chars ▸ List.mem_cons_self
  cases begins with
  | null | yes | no => exact word (by decide)
  | digit n digit =>
    have other := isName.start c (by rw [chars]; rfl)
    rw [digit] at other
    cases other
  | minus | list | dict => exact isName.notMem (by decide) (by decide) mem
  | quote s known => rcases known with rfl | rfl <;> exact isName.notMem (by decide) (by decide) mem

/-- An argument is written as no other one, and its text says where it ends. -/
theorem Argument.Plain.apart {a : Argument} (plain : a.Plain) : ToldApart Argument.letters Argument.Plain a := by
  intro b plain' r s ends ends' same
  cases a with
  | positional v =>
    cases b with
    | positional w =>
      obtain ⟨rfl, rfl⟩ := Settled.apart plain w plain' ends ends' same
      exact ⟨rfl, rfl⟩
    | named name w =>
      rw [letters_named, List.append_assoc] at same
      exact absurd same (letters_ne_named plain plain'.1 ends)
  | named name v =>
    cases b with
    | positional w =>
      rw [letters_named, List.append_assoc] at same
      exact absurd same.symm (letters_ne_named plain' plain.1 ends')
    | named name' w =>
      rw [letters_named, letters_named, List.append_assoc, List.append_assoc] at same
      obtain ⟨names, values⟩ := name_cancel plain.1.equals_notMem plain'.1.equals_notMem same
      obtain ⟨rfl, rfl⟩ := plain.2.apart w plain'.2 ends ends' values
      obtain rfl := String.toList_inj.mp names
      exact ⟨rfl, rfl⟩

theorem Argument.Plain.opens {a : Argument} (plain : a.Plain) : ∃ c more, a.letters = c :: more ∧ c ≠ ']' := by
  cases a with
  | positional v => exact Settled.opens plain
  | named name v =>
    obtain ⟨c, more, chars⟩ := List.exists_cons_of_ne_nil plain.1.some
    rw [letters_named, chars]
    refine ⟨c, _, rfl, ?_⟩
    rintro rfl
    exact plain.1.notMem (by decide) (by decide) (chars ▸ List.mem_cons_self)

/-! ## Calls -/

theorem toList_describeArguments (args : List Value) (named : Entries Value) :
    (describeArguments args named).toList = '[' :: (row Argument.letters (Argument.ofCall args named) ++ [']']) := by
  have parts : describeArguments args named = "[" ++ joined ", " ((Argument.ofCall args named).map Argument.shown) ++ "]" := by
    rw [Argument.ofCall, List.map_append, List.map_map, List.map_map]
    rfl
  rw [parts, String.toList_append, String.toList_append, toList_joined]
  rfl

/-- The arguments of a call hold no floats, and those by name have names. -/
structure PlainCall (args : List Value) (named : Entries Value) : Prop where
  positional : ∀ v ∈ args, Settled v
  named : ∀ e ∈ named, IsName e.1 ∧ Settled e.2

theorem PlainCall.arguments {args : List Value} {named : Entries Value} (plain : PlainCall args named) :
    ∀ a ∈ Argument.ofCall args named, a.Plain := by
  intro a mem
  rcases List.mem_append.mp mem with mem | mem
  · obtain ⟨v, given, rfl⟩ := List.mem_map.mp mem
    exact plain.positional v given
  · obtain ⟨e, given, rfl⟩ := List.mem_map.mp mem
    exact plain.named e given

/-- Two calls have the same text only if they have the same arguments: equal values by position, in their order, and equal
values under the same names, in their order. -/
theorem describeArguments_inj {args args' : List Value} {named named' : Entries Value} (plain : PlainCall args named)
    (plain' : PlainCall args' named') :
    describeArguments args named = describeArguments args' named' ↔ args = args' ∧ named = named' := by
  constructor
  · intro same
    have texts := congrArg String.toList same
    rw [toList_describeArguments, toList_describeArguments] at texts
    have rows := (List.cons.inj texts).2
    have arguments := row_cancel (by decide) (fun a mem => (plain.arguments a mem).apart) plain.arguments plain'.arguments
      (fun a known => known.opens) rows
    exact Argument.ofCall_injective arguments.1
  · rintro ⟨rfl, rfl⟩
    rfl

/-- Quotes, commas and brackets inside of a text are not those around it. -/
theorem describeArguments_inj_quotes :
    PlainCall [.text "a', 'b"] [("n", .int 1)] ∧ PlainCall [.text "a", .text "b"] [("n", .bool true)] ∧
      describeArguments [.text "a', 'b"] [("n", .int 1)] ≠ describeArguments [.text "a", .text "b"] [("n", .bool true)] := by
  have isName : IsName "n" := by
    refine ⟨List.cons_ne_nil 'n' [], ?_, ?_⟩
    · intro c head
      obtain rfl : 'n' = c := Option.some.inj head
      rfl
    · intro c mem _
      obtain rfl : c = 'n' := List.mem_singleton.mp mem
      rfl
  have one : PlainCall [.text "a', 'b"] [("n", .int 1)] :=
    ⟨List.forall_mem_singleton.mpr (.text _), List.forall_mem_singleton.mpr ⟨isName, .int 1⟩⟩
  have two : PlainCall [.text "a", .text "b"] [("n", .bool true)] :=
    ⟨List.forall_mem_cons.mpr ⟨.text _, List.forall_mem_singleton.mpr (.text _)⟩,
      List.forall_mem_singleton.mpr ⟨isName, .bool true⟩⟩
  refine ⟨one, two, fun same => ?_⟩
  have lengths := congrArg List.length ((describeArguments_inj one two).mp same).1
  exact absurd lengths (by decide)

end Rendezvous
