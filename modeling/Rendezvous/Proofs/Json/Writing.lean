import Mathlib.Data.Nat.Init
import Rendezvous.Json.Writer
import Rendezvous.Proofs.Json.Reading

/-!
# What is written is JSON

The text that is written for a settled value is JSON for that value (`Settled.denotes_write`), and so it is read back
(`Settled.read?_write`).  Settled values are all that JSON texts without floats are for.
-/

namespace Rendezvous.Json

set_option autoImplicit false

/-! ## Integers -/

theorem isDigit_of_core {c : Char} (digit : c.isDigit = true) : Decimal.isDigit c = true := by
  simp only [Char.isDigit, Bool.and_eq_true, decide_eq_true_eq] at digit
  simp only [Decimal.isDigit, Bool.and_eq_true, decide_eq_true_eq]
  exact digit

/-- The digits of a number begin with zero only if it is the number zero. -/
theorem head_toDigits (n : Nat) : (Nat.toDigits 10 n).head? = some '0' → n = 0 := by
  induction n using Nat.strong_induction_on with
  | _ n ih =>
    rw [Nat.toDigits_eq_if (by decide)]
    split
    · rename_i small
      have all : ∀ m < 10, [m.digitChar].head? = some '0' → m = 0 := by decide
      exact all n small
    · rename_i large
      obtain ⟨d, ds, digits⟩ := List.exists_cons_of_ne_nil (Nat.toDigits_ne_nil : Nat.toDigits 10 (n / 10) ≠ [])
      have none := ih (n / 10) (by omega)
      rw [digits] at none ⊢
      intro zero
      have zero' := none zero
      omega

theorem numeral_toDigits (n : Nat) : Numeral n (Nat.toDigits 10 n) where
  digits c mem := isDigit_of_core (Nat.isDigit_of_mem_toDigits (by decide) (by decide) mem)
  nonempty := Nat.toDigits_ne_nil
  leading zero := by
    rw [head_toDigits n zero]
    rfl
  value := Nat.ofDigitChars_toDigits (by decide) (by decide)

theorem spelledInt_toString (n : Int) : SpelledInt n (toString n).toList := by
  cases n with
  | ofNat n =>
    have digits : (toString (Int.ofNat n)).toList = Nat.toDigits 10 n := Nat.toList_repr
    rw [digits]
    exact .plain (numeral_toDigits n)
  | negSucc n =>
    have digits : (toString (Int.negSucc n)).toList = '-' :: Nat.toDigits 10 (n + 1) := by
      show ("-" ++ (n + 1).repr).toList = _
      rw [String.toList_append, Nat.toList_repr]
      rfl
    rw [digits]
    exact .minus (numeral_toDigits (n + 1))

/-! ## Strings -/

theorem spelledUnit_hexDigits {n : Nat} (small : n < 0x10000) : SpelledUnit n (Text.hexDigits 4 n) := by
  refine ⟨n / 16 / 16 / 16 % 16, n / 16 / 16 % 16, n / 16 % 16, n % 16, _, _, _, _, by omega, rfl, ?_, ?_, ?_, ?_⟩
  all_goals exact ⟨Nat.mod_lt _ (by decide), .inl rfl⟩

theorem spelledChar_writeChar (c : Char) : SpelledChar c (writeChar c) := by
  unfold writeChar
  split_ifs with quote backslash feed back tab delete form printable
  · exact quote.symm ▸ .escaped '"' (by decide)
  · exact backslash.symm ▸ .escaped '\\' (by decide)
  · exact feed.symm ▸ .escaped 'n' (by decide)
  · exact back.symm ▸ .escaped 'r' (by decide)
  · exact tab.symm ▸ .escaped 't' (by decide)
  · exact delete.symm ▸ .escaped 'b' (by decide)
  · exact form.symm ▸ .escaped 'f' (by decide)
  · exact .plain quote backslash printable.1
  · unfold utf16
    dsimp only
    split
    · rename_i small
      exact .unit (spelledUnit_hexDigits small)
    · rename_i large
      have valid : c.toNat < 0xd800 ∨ 0xdfff < c.toNat ∧ c.toNat < 0x110000 := c.valid
      refine .pair ((c.toNat - 0x10000) / 0x400) ((c.toNat - 0x10000) % 0x400) (by omega) (by omega) (by omega)
        (spelledUnit_hexDigits (by omega)) (spelledUnit_hexDigits (by omega))

theorem spelledText_writeString (s : String) : SpelledText s (writeString s) := by
  have chars (cs : List Char) : SpelledChars cs (cs.flatMap writeChar) := by
    induction cs with
    | nil => exact .nil
    | cons c cs ih => exact .cons (spelledChar_writeChar c) ih
  exact .mk (chars s.toList)

/-! ## Values -/

theorem blank_nil : Blank [] := List.forall_mem_nil _

theorem blank_space : Blank [' '] := by
  rintro c mem
  exact List.mem_cons.mpr (.inl (List.mem_singleton.mp mem))

theorem spelledItems_writeItems {items : List Value} (all : ∀ v ∈ items, Spelled v (writeValue v)) (some : items ≠ [])
    {bs : List Char} (blank : Blank bs) : SpelledItems items (bs ++ writeItems items) := by
  induction items generalizing bs with
  | nil => exact absurd rfl some
  | cons v items ih =>
    obtain ⟨first, others⟩ := List.forall_mem_cons.mp all
    cases items with
    | nil => exact .last blank first blank_nil
    | cons w items => exact .cons blank first blank_nil (ih others (List.cons_ne_nil _ _) blank_space)

theorem spelledMembers_writeEntries {entries : List (String × Value)} (all : ∀ e ∈ entries, Spelled e.2 (writeValue e.2))
    (some : entries ≠ []) {bs : List Char} (blank : Blank bs) : SpelledMembers entries (bs ++ writeEntries entries) := by
  induction entries generalizing bs with
  | nil => exact absurd rfl some
  | cons e entries ih =>
    obtain ⟨k, v⟩ := e
    obtain ⟨first, others⟩ := List.forall_mem_cons.mp all
    have member : SpelledMember k v (bs ++ (writeString k ++ ':' :: ' ' :: writeValue v)) :=
      .mk blank (spelledText_writeString k) blank_nil blank_space first
    cases entries with
    | nil =>
      have last := SpelledMembers.last member blank_nil
      rw [List.append_assoc] at last
      exact last
    | cons w entries =>
      have more := SpelledMembers.cons member blank_nil (ih others (List.cons_ne_nil _ _) blank_space)
      rw [List.append_assoc] at more
      exact more

/-- Pairs whose names are new, and come once, are put at the end. -/
theorem update_of_nodup {front pairs : Entries Value} (keys : (Entries.keys (front ++ pairs)).Nodup) :
    Entries.update front pairs = front ++ pairs := by
  induction pairs generalizing front with
  | nil => exact (List.append_nil front).symm
  | cons p pairs ih =>
    have absent : p.1 ∉ Entries.keys front := by
      rw [Entries.keys, List.map_append, List.nodup_append] at keys
      exact fun mem => keys.2.2 _ mem _ List.mem_cons_self rfl
    rw [List.append_cons] at keys ⊢
    rw [← ih keys, ← Entries.put_of_absent absent]
    rfl

/-- Entries that have every name once are made from themselves. -/
theorem ofPairs_of_nodup {entries : Entries Value} (keys : (Entries.keys entries).Nodup) :
    Entries.ofPairs entries = entries := update_of_nodup keys

theorem Settled.spelled_writeValue {v : Value} (settled : Settled v) : Spelled v (writeValue v) := by
  induction settled with
  | null => exact .null
  | bool b => cases b with
    | true => exact .yes
    | false => exact .no
  | int n => exact .int (spelledInt_toString n)
  | text s => exact .text (spelledText_writeString s)
  | @list items all ih =>
    cases items with
    | nil => exact .emptyList blank_nil
    | cons v items => exact .list (spelledItems_writeItems ih (List.cons_ne_nil _ _) blank_nil)
  | @dict entries keys all ih =>
    cases entries with
    | nil => exact .emptyDict blank_nil
    | cons e entries =>
      have members := spelledMembers_writeEntries ih (List.cons_ne_nil _ _) blank_nil
      have spelled := Spelled.dict members
      rw [ofPairs_of_nodup keys] at spelled
      exact spelled

/-- What is written for a value is JSON for it. -/
theorem Settled.denotes_write {v : Value} (settled : Settled v) : Denotes (write v) v :=
  ⟨[], writeValue v, [], blank_nil, settled.spelled_writeValue, blank_nil, by
    rw [write, String.toList_ofList, List.append_nil]
    rfl⟩

/-- What is written is read back. -/
theorem Settled.read?_write {v : Value} (settled : Settled v) : read? (write v) = some v :=
  read?_of_denotes settled.denotes_write

end Rendezvous.Json
