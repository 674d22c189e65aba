import Rendezvous.Scope
import Rendezvous.Text.Word
import Rendezvous.Value.Shown

/-!
# Prompt templates

A template is text with placeholders: two opening braces, blanks, a key of word characters, dots and
dashes, blanks, two closing braces.  `Template.pieces` splits a text into its placeholders, found
leftmost first, and the stretches between them; rendering shows the shared state's value in place of
each placeholder.  What has been put in is never looked at again.

`source_pieces` says that the pieces make up the text.
-/

namespace Rendezvous.Template

/-- Whether a character may stand in a key. -/
def isKeyCharacter (c : Char) : Bool := Text.isWord c || c == '.' || c == '-'

/-- A placeholder: the blanks before the key, the key, and the blanks after it. -/
structure Placeholder where
  before : List Char
  key : List Char
  after : List Char
  deriving Repr, DecidableEq

/-- The characters that a placeholder is written with. -/
def Placeholder.source (p : Placeholder) : List Char :=
  '\x7b' :: '\x7b' :: (p.before ++ p.key ++ p.after ++ ['\x7d', '\x7d'])

/-- The rest after two closing braces. -/
def closed? : List Char → Option (List Char)
  | '\x7d' :: '\x7d' :: rest => some rest
  | _ => none

/-- The rest after two opening braces. -/
def opened? : List Char → Option (List Char)
  | '\x7b' :: '\x7b' :: rest => some rest
  | _ => none

/-- The placeholder at the front of a text, and what follows it. -/
def placeholder? (cs : List Char) : Option (Placeholder × List Char) :=
  match opened? cs with
  | none => none
  | some inner =>
    let before := inner.takeWhile Text.isBlank
    let fromKey := inner.dropWhile Text.isBlank
    let key := fromKey.takeWhile isKeyCharacter
    let fromAfter := fromKey.dropWhile isKeyCharacter
    let after := fromAfter.takeWhile Text.isBlank
    if key.isEmpty then none
    else (closed? (fromAfter.dropWhile Text.isBlank)).map fun rest => ({ before, key, after }, rest)

theorem eq_of_opened? {cs inner : List Char} (h : opened? cs = some inner) :
    cs = '\x7b' :: '\x7b' :: inner := by
  unfold opened? at h; split at h <;> simp_all

theorem eq_of_closed? {cs rest : List Char} (h : closed? cs = some rest) :
    cs = '\x7d' :: '\x7d' :: rest := by
  unfold closed? at h; split at h <;> simp_all

/-- A placeholder at the front and what follows it make up the text. -/
theorem eq_of_placeholder? {cs rest : List Char} {p : Placeholder}
    (h : placeholder? cs = some (p, rest)) : cs = p.source ++ rest := by
  unfold placeholder? at h
  split at h
  · simp at h
  · rename_i inner hopen
    simp only at h
    split at h
    · simp at h
    · obtain ⟨r, hclose, heq⟩ := Option.map_eq_some_iff.1 h
      have hr := eq_of_closed? hclose
      obtain ⟨rfl, rfl⟩ := Prod.mk.inj heq
      rw [eq_of_opened? hopen]
      simp only [Placeholder.source, List.cons_append, List.append_assoc, List.nil_append,
        List.cons.injEq, true_and]
      rw [← hr, List.takeWhile_append_dropWhile, List.takeWhile_append_dropWhile,
        List.takeWhile_append_dropWhile]

/-- A placeholder takes characters. -/
theorem length_lt_of_placeholder? {cs rest : List Char} {p : Placeholder}
    (h : placeholder? cs = some (p, rest)) : rest.length < cs.length := by
  rw [eq_of_placeholder? h]
  simp only [Placeholder.source, List.length_append, List.length_cons]
  omega

/-- A part of a template: a stretch of text that stands for itself, or a placeholder. -/
inductive Piece where
  | stretch (cs : List Char)
  | hole (p : Placeholder)
  deriving Repr, DecidableEq

/-- The characters that a piece is written with. -/
def Piece.source : Piece → List Char
  | stretch cs => cs
  | hole p => p.source

/-- Put a character in front: into the first stretch, or into a new one. -/
def addCharacter (c : Char) : List Piece → List Piece
  | .stretch cs :: rest => .stretch (c :: cs) :: rest
  | pieces => .stretch [c] :: pieces

/-- The pieces of a text. -/
def pieces (cs : List Char) : List Piece :=
  match _h : placeholder? cs with
  | some (p, rest) => .hole p :: pieces rest
  | none =>
    match cs with
    | [] => []
    | c :: rest => addCharacter c (pieces rest)
termination_by cs.length
decreasing_by
  · exact length_lt_of_placeholder? _h
  · simp

/-- The text that a piece becomes, given the shared state. -/
def Piece.render (s : Scope) : Piece → List Char
  | stretch cs => cs
  | hole p =>
    match s.read (String.ofList p.key) .null with
    | .null => []
    | v => v.shown.toList

/-- A template with the values of the shared state in place of its placeholders; a key without a
value leaves nothing. -/
def render (template : String) (s : Scope) : String :=
  String.ofList ((pieces template.toList).flatMap (Piece.render s))

theorem source_addCharacter (c : Char) (ps : List Piece) :
    (addCharacter c ps).flatMap Piece.source = c :: ps.flatMap Piece.source := by
  unfold addCharacter
  split <;> simp [Piece.source]

/-- The pieces make up the text. -/
theorem source_pieces (cs : List Char) : (pieces cs).flatMap Piece.source = cs := by
  fun_induction pieces cs with
  | case1 cs p rest h ih =>
    rw [eq_of_placeholder? h]
    simp [Piece.source, ih]
  | case2 => rfl
  | case3 c rest _ ih => rw [source_addCharacter, ih]

end Rendezvous.Template
