import Mathlib.Data.List.Chain
import Rendezvous.Template

/-!
# The one way to split a template

A placeholder is proper if its key has a character, all of its key are characters of a key, and there are only blanks around
it.  The scanner takes a placeholder from the front of a text exactly where a proper one is written
(`placeholder?_eq_some_iff`): blanks, characters of a key and braces exclude one another, so nothing that it has taken could be
given back.  Braces also keep two placeholders from overlapping (`Proper.ends_before`).

A splitting of a text has its proper placeholders as pieces of their own and leaves none in the stretches between them.  There
is one for every text (`splitting_pieces`), and only one (`Splitting.eq_pieces`).  What is on either side of a proper placeholder
is split on its own (`pieces_append_source`).
-/

namespace Rendezvous.Template

set_option autoImplicit false

/-! ## Characters -/

/-- No character of a key is a blank. -/
theorem isKeyCharacter_of_isBlank {c : Char} (blank : Text.isBlank c = true) : isKeyCharacter c = false := by
  have ascending : Text.blanks.Ascending := by simp [Text.blanks, Text.Ranges.Ascending]
  have known := (Text.Ranges.contains_iff ascending (by decide) c.toNat).mp blank
  have all : ∀ r ∈ Text.blanks, ∀ n ∈ List.range' r.1 (r.2 + 1 - r.1), isKeyCharacter (Char.ofNat n) = false := by
    decide +kernel
  obtain ⟨r, mem, low, high⟩ := known
  have other := all r mem c.toNat (List.mem_range'_1.mpr (by omega))
  rwa [Char.ofNat_toNat] at other

theorem takeWhile_append_of_stop {p : Char → Bool} {front : List Char} (all : ∀ c ∈ front, p c = true) (rest : List Char)
    (stop : ∀ c ∈ rest.head?, p c = false) :
    (front ++ rest).takeWhile p = front ∧ (front ++ rest).dropWhile p = rest := by
  have none : rest.takeWhile p = [] ∧ rest.dropWhile p = rest := by
    cases rest with
    | nil => exact ⟨rfl, rfl⟩
    | cons c rest =>
      have other := stop c rfl
      simp [other]
  rw [List.takeWhile_append_of_pos all, List.dropWhile_append_of_pos all, none.1, none.2, List.append_nil]
  exact ⟨rfl, rfl⟩

/-! ## Placeholders -/

namespace Placeholder

/-- What a placeholder has to be made of. -/
structure Proper (p : Placeholder) : Prop where
  before : ∀ c ∈ p.before, Text.isBlank c = true
  key : ∀ c ∈ p.key, isKeyCharacter c = true
  named : p.key ≠ []
  after : ∀ c ∈ p.after, Text.isBlank c = true

/-- What is written behind the opening braces. -/
def inner (p : Placeholder) : List Char := p.before ++ p.key ++ p.after ++ ['\x7d', '\x7d']

theorem source_eq (p : Placeholder) : p.source = '\x7b' :: '\x7b' :: p.inner := rfl

theorem inner_ne_nil (p : Placeholder) : p.inner ≠ [] := by simp [inner]

/-- Behind the opening braces there is no other one. -/
theorem Proper.opening_notMem {p : Placeholder} (proper : p.Proper) : '\x7b' ∉ p.inner := by
  simp only [inner, List.mem_append, List.mem_cons, List.not_mem_nil, or_false]
  rintro (((blank | key) | blank) | brace | brace)
  · exact absurd (proper.before _ blank) (by decide)
  · exact absurd (proper.key _ key) (by decide +kernel)
  · exact absurd (proper.after _ blank) (by decide)
  · exact absurd brace (by decide)
  · exact absurd brace (by decide)

/-- A proper placeholder begins before another one only if it ends before it. -/
theorem Proper.ends_before {p q : Placeholder} (proper : p.Proper) {front rest rest' : List Char} (later : front ≠ [])
    (same : p.source ++ rest = front ++ (q.source ++ rest')) :
    ∃ between, front = p.source ++ between ∧ rest = between ++ (q.source ++ rest') := by
  rcases List.append_eq_append_iff.mp same with ⟨between, front_eq, rest_eq⟩ | ⟨beyond, source_eq, rest_eq⟩
  · exact ⟨between, front_eq, rest_eq⟩
  · cases beyond with
    | nil => exact ⟨[], by simpa using source_eq.symm, rest_eq.symm⟩
    | cons c beyond =>
      -- the second one would begin with a brace of the first one
      obtain ⟨first, front, rfl⟩ := List.exists_cons_of_ne_nil later
      have begins : '\x7b' = c ∧ '\x7b' :: (q.inner ++ rest') = beyond ++ rest := List.cons.inj rest_eq
      obtain ⟨rfl, goes_on⟩ := begins
      have ends : '\x7b' :: p.inner = front ++ '\x7b' :: beyond := (List.cons.inj source_eq).2
      cases front with
      | cons d front =>
        have inner_eq : p.inner = front ++ '\x7b' :: beyond := (List.cons.inj ends).2
        exact absurd (inner_eq ▸ List.mem_append_right front List.mem_cons_self) proper.opening_notMem
      | nil =>
        obtain rfl : p.inner = beyond := (List.cons.inj ends).2
        obtain ⟨d, more, inner_eq⟩ := List.exists_cons_of_ne_nil p.inner_ne_nil
        rw [inner_eq] at goes_on
        obtain rfl : '\x7b' = d := (List.cons.inj goes_on).1
        exact absurd (inner_eq ▸ List.mem_cons_self) proper.opening_notMem

end Placeholder

open Placeholder

/-- The scanner takes a proper placeholder wherever one is written. -/
theorem placeholder?_source {p : Placeholder} (proper : p.Proper) (rest : List Char) :
    placeholder? (p.source ++ rest) = some (p, rest) := by
  have solid {c : Char} (key : isKeyCharacter c = true) : Text.isBlank c = false := by
    cases blank : Text.isBlank c with
    | false => rfl
    | true => rw [isKeyCharacter_of_isBlank blank] at key; cases key
  obtain ⟨k, ks, key_eq⟩ := List.exists_cons_of_ne_nil proper.named
  have before := takeWhile_append_of_stop proper.before (p.key ++ (p.after ++ '\x7d' :: '\x7d' :: rest)) (by
    rw [key_eq]
    rintro c ⟨⟩
    exact solid (proper.key k (key_eq ▸ List.mem_cons_self)))
  have key := takeWhile_append_of_stop proper.key (p.after ++ '\x7d' :: '\x7d' :: rest) (by
    intro c head
    cases after_eq : p.after with
    | nil =>
      rw [after_eq] at head
      obtain rfl : '\x7d' = c := Option.some.inj head
      decide +kernel
    | cons b bs =>
      rw [after_eq] at head
      obtain rfl : b = c := Option.some.inj head
      exact isKeyCharacter_of_isBlank (proper.after b (after_eq ▸ List.mem_cons_self)))
  have after := takeWhile_append_of_stop proper.after ('\x7d' :: '\x7d' :: rest) (by
    rintro c ⟨⟩
    decide)
  have some : p.key.isEmpty = false := List.isEmpty_eq_false_iff.mpr proper.named
  have opened : opened? (p.source ++ rest) = .some (p.before ++ (p.key ++ (p.after ++ '\x7d' :: '\x7d' :: rest))) := by
    simp [p.source_eq, Placeholder.inner, opened?]
  rw [placeholder?, opened]
  simp only [before.1, before.2, key.1, key.2, after.1, after.2, some, closed?]
  rfl

theorem proper_of_placeholder? {cs rest : List Char} {p : Placeholder} (found : placeholder? cs = some (p, rest)) :
    p.Proper := by
  unfold placeholder? at found
  split at found
  · cases found
  · rename_i text _
    dsimp only at found
    split at found
    · cases found
    · rename_i named
      obtain ⟨after, -, same⟩ := Option.map_eq_some_iff.mp found
      obtain ⟨rfl, -⟩ := Prod.mk.inj same
      have all (p : Char → Bool) (cs : List Char) : ∀ c ∈ cs.takeWhile p, p c = true := fun c mem =>
        List.all_eq_true.mp List.all_takeWhile c mem
      exact {
        before := all _ _
        key := all _ _
        named := fun none => named (List.isEmpty_iff.mpr none)
        after := all _ _ }

theorem placeholder?_eq_some_iff {cs rest : List Char} {p : Placeholder} :
    placeholder? cs = some (p, rest) ↔ p.Proper ∧ cs = p.source ++ rest := by
  constructor
  · intro found
    exact ⟨proper_of_placeholder? found, eq_of_placeholder? found⟩
  · rintro ⟨proper, rfl⟩
    exact placeholder?_source proper rest

/-! ## Splittings -/

/-- Whether a piece stands for itself. -/
def Piece.isStretch : Piece → Bool
  | stretch _ => true
  | hole _ => false

theorem hole_mem_cons_stretch {p : Placeholder} {cs : List Char} {ps : List Piece} :
    .hole p ∈ Piece.stretch cs :: ps ↔ .hole p ∈ ps := by simp

theorem stretch_mem_cons_hole {p : Placeholder} {cs : List Char} {ps : List Piece} :
    .stretch cs ∈ Piece.hole p :: ps ↔ .stretch cs ∈ ps := by simp

/-- A text has a proper placeholder in it. -/
def Holds (cs : List Char) : Prop := ∃ p : Placeholder, p.Proper ∧ p.source <:+: cs

/-- Two pieces that may follow one another: a stretch goes as far as it can. -/
def MayFollow (a b : Piece) : Prop := ¬ (a.isStretch = true ∧ b.isStretch = true)

theorem mayFollow_hole (p : Placeholder) (b : Piece) : MayFollow (.hole p) b := fun both => Bool.noConfusion both.1

/-- Pieces that a text is split into: proper placeholders, and stretches between them that hold none. -/
structure Splitting (text : List Char) (ps : List Piece) : Prop where
  source : ps.flatMap Piece.source = text
  proper : ∀ p, .hole p ∈ ps → p.Proper
  literal : ∀ cs, .stretch cs ∈ ps → cs ≠ [] ∧ ¬ Holds cs
  apart : ps.IsChain MayFollow

theorem Splitting.tail {text : List Char} {p : Piece} {ps : List Piece} (splits : Splitting text (p :: ps)) :
    Splitting (ps.flatMap Piece.source) ps where
  source := rfl
  proper q mem := splits.proper q (List.mem_cons_of_mem _ mem)
  literal cs mem := splits.literal cs (List.mem_cons_of_mem _ mem)
  apart := (List.isChain_cons.mp splits.apart).2

/-! ## The pieces of a text are its only splitting -/

theorem pieces_nil : pieces [] = [] := by
  rw [pieces]
  rfl

theorem pieces_source {p : Placeholder} (proper : p.Proper) (rest : List Char) :
    pieces (p.source ++ rest) = .hole p :: pieces rest := by
  rw [pieces]
  split
  · rename_i q more found
    rw [placeholder?_source proper] at found
    cases found
    rfl
  · rename_i none
    rw [placeholder?_source proper] at none
    cases none

theorem pieces_cons {c : Char} {rest : List Char} (none : placeholder? (c :: rest) = none) :
    pieces (c :: rest) = addCharacter c (pieces rest) := by
  rw [pieces]
  split
  · rename_i found
    rw [none] at found
    cases found
  · rfl

/-- A stretch in front of what is split without one is the first piece, if no placeholder begins inside of it. -/
theorem pieces_stretch {cs rest : List Char} {ps : List Piece} (some : cs ≠ []) (splits : pieces rest = ps)
    (other : ∀ a ∈ ps.head?, a.isStretch = false)
    (none : ∀ front back, back ≠ [] → cs = front ++ back → placeholder? (back ++ rest) = none) :
    pieces (cs ++ rest) = .stretch cs :: ps := by
  induction cs with
  | nil => exact absurd rfl some
  | cons c cs ih =>
    have first : placeholder? (c :: (cs ++ rest)) = .none := none [] (c :: cs) (List.cons_ne_nil _ _) rfl
    rw [List.cons_append, pieces_cons first]
    cases cs with
    | nil =>
      rw [List.nil_append, splits]
      cases ps with
      | nil => rfl
      | cons a ps =>
        cases a with
        | hole p => rfl
        | stretch ds => cases other _ rfl
    | cons d cs =>
      have later := ih (List.cons_ne_nil _ _) fun front back some same =>
        none (c :: front) back some (by rw [same, List.cons_append])
      rw [later]
      rfl

/-- No placeholder begins inside of a stretch of a splitting, not even one that would go on behind the stretch. -/
theorem Splitting.silent {text cs : List Char} {ps : List Piece} (splits : Splitting text (.stretch cs :: ps))
    {front back : List Char} (some : back ≠ []) (same : cs = front ++ back) :
    placeholder? (back ++ ps.flatMap Piece.source) = none := by
  have plain := (splits.literal cs List.mem_cons_self).2
  rcases found : placeholder? (back ++ ps.flatMap Piece.source) with - | ⟨q, rest⟩
  · rfl
  · obtain ⟨proper, written⟩ := placeholder?_eq_some_iff.mp found
    have inside {between : List Char} (ends : back = q.source ++ between) : Holds cs :=
      ⟨q, proper, front, between, by rw [same, ends, List.append_assoc]⟩
    cases ps with
    | nil =>
      rw [List.flatMap_nil, List.append_nil] at written
      exact absurd (inside written) plain
    | cons a ps =>
      cases a with
      | stretch ds => exact absurd ⟨rfl, rfl⟩ ((List.isChain_cons.mp splits.apart).1 _ rfl)
      | hole p =>
        obtain ⟨between, ends, -⟩ := proper.ends_before some written.symm
        exact absurd (inside ends) plain

/-- A text has no other splitting than its pieces. -/
theorem Splitting.eq_pieces {text : List Char} {ps : List Piece} (splits : Splitting text ps) : ps = pieces text := by
  induction ps generalizing text with
  | nil =>
    obtain rfl := splits.source
    exact pieces_nil.symm
  | cons a ps ih =>
    have later := ih splits.tail
    obtain rfl := splits.source
    cases a with
    | hole p =>
      rw [List.flatMap_cons, Piece.source, pieces_source (splits.proper p List.mem_cons_self), ← later]
    | stretch cs =>
      refine (pieces_stretch (splits.literal cs List.mem_cons_self).1 later.symm ?_ ?_).symm
      · intro a head
        have apart := (List.isChain_cons.mp splits.apart).1 a head
        cases a with
        | hole p => rfl
        | stretch ds => exact absurd ⟨rfl, rfl⟩ apart
      · intro front back some same
        exact splits.silent some same

/-- The first stretch of a text with one more character in front holds no placeholder, if none begins with that character. -/
theorem not_holds_cons {c : Char} {cs rest : List Char} (none : placeholder? (c :: (cs ++ rest)) = none)
    (plain : ¬ Holds cs) : ¬ Holds (c :: cs) := by
  rintro ⟨p, proper, front, back, same⟩
  cases front with
  | nil =>
    have written : c :: (cs ++ rest) = p.source ++ (back ++ rest) := by
      rw [← List.cons_append, ← same, List.nil_append, List.append_assoc]
    rw [placeholder?_eq_some_iff.mpr ⟨proper, written⟩] at none
    cases none
  | cons d front =>
    rw [List.append_assoc, List.cons_append, ← List.append_assoc] at same
    exact plain ⟨p, proper, front, back, (List.cons.inj same).2⟩

theorem not_holds_nil : ¬ Holds [] := by
  rintro ⟨p, -, written⟩
  have none := List.infix_nil.mp written
  rw [p.source_eq] at none
  cases none

theorem Splitting.addCharacter {c : Char} {text : List Char} {ps : List Piece} (splits : Splitting text ps)
    (none : placeholder? (c :: text) = none) : Splitting (c :: text) (addCharacter c ps) := by
  obtain rfl := splits.source
  have source := source_addCharacter c ps
  unfold Template.addCharacter at source ⊢
  split at source
  · rename_i cs later
    refine ⟨source, ?_, ?_, ?_⟩
    · intro p mem
      exact splits.proper p (List.mem_cons_of_mem _ (hole_mem_cons_stretch.mp mem))
    · intro ds mem
      rcases List.mem_cons.mp mem with same | mem
      · obtain rfl := Piece.stretch.inj same
        exact ⟨List.cons_ne_nil _ _, not_holds_cons none (splits.literal cs List.mem_cons_self).2⟩
      · exact splits.literal ds (List.mem_cons_of_mem _ mem)
    · have chain := List.isChain_cons.mp splits.apart
      exact List.isChain_cons.mpr ⟨chain.1, chain.2⟩
  · rename_i other
    refine ⟨source, ?_, ?_, ?_⟩
    · intro p mem
      exact splits.proper p (hole_mem_cons_stretch.mp mem)
    · intro ds mem
      rcases List.mem_cons.mp mem with same | mem
      · obtain rfl := Piece.stretch.inj same
        exact ⟨List.cons_ne_nil _ _, not_holds_cons none not_holds_nil⟩
      · exact splits.literal ds mem
    · refine List.isChain_cons.mpr ⟨?_, splits.apart⟩
      rintro a head ⟨-, stretch⟩
      cases ps with
      | nil => cases head
      | cons b ps =>
        obtain rfl : b = a := Option.some.inj head
        cases b with
        | hole p => cases stretch
        | stretch cs => exact other cs ps rfl

/-- The pieces of a text are a splitting of it. -/
theorem splitting_pieces (cs : List Char) : Splitting cs (pieces cs) := by
  fun_induction pieces cs with
  | case1 cs p rest found ih =>
    obtain ⟨proper, rfl⟩ := placeholder?_eq_some_iff.mp found
    refine ⟨by rw [List.flatMap_cons, ih.source]; rfl, ?_, ?_, ?_⟩
    · intro q mem
      rcases List.mem_cons.mp mem with same | mem
      · obtain rfl := Piece.hole.inj same
        exact proper
      · exact ih.proper q mem
    · intro ds mem
      exact ih.literal ds (stretch_mem_cons_hole.mp mem)
    · exact List.isChain_cons.mpr ⟨fun b _ => mayFollow_hole p b, ih.apart⟩
  | case2 _ =>
    exact ⟨rfl, fun _ mem => absurd mem List.not_mem_nil, fun _ mem => absurd mem List.not_mem_nil, .nil⟩
  | case3 c rest none ih => exact ih.addCharacter none

/-! ## Every placeholder is a piece -/

/-- What is on either side of a proper placeholder is split on its own. -/
theorem pieces_append_source (front : List Char) {p : Placeholder} (proper : p.Proper) (back : List Char) :
    pieces (front ++ (p.source ++ back)) = pieces front ++ .hole p :: pieces back := by
  have left := splitting_pieces front
  have right := splitting_pieces back
  refine (Splitting.eq_pieces ⟨?_, ?_, ?_, ?_⟩).symm
  · rw [List.flatMap_append, List.flatMap_cons, left.source, right.source, Piece.source]
  · intro q mem
    rcases List.mem_append.mp mem with mem | mem
    · exact left.proper q mem
    · rcases List.mem_cons.mp mem with same | mem
      · obtain rfl := Piece.hole.inj same
        exact proper
      · exact right.proper q mem
  · intro cs mem
    rcases List.mem_append.mp mem with mem | mem
    · exact left.literal cs mem
    · exact right.literal cs (stretch_mem_cons_hole.mp mem)
  · refine left.apart.append (List.isChain_cons.mpr ⟨fun b _ => mayFollow_hole p b, right.apart⟩) ?_
    rintro a - b head ⟨-, stretch⟩
    obtain rfl : .hole p = b := Option.some.inj head
    cases stretch

end Rendezvous.Template
