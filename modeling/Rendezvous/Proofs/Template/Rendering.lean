import Rendezvous.Proofs.Template.Splitting

/-!
# A template is filled in piece by piece

What becomes of a piece depends on the piece and the shared state only (`Piece.filled`), and a template becomes what its pieces
become, in their order.  So what is on both sides of a placeholder is rendered as if it stood alone, and what has been put in
between stays as it is (`render_append_source`).  `render_substitutes` is all of it.
-/

namespace Rendezvous

set_option autoImplicit false

/-- The text of the value under a key; there is none for a missing value or a null. -/
def Scope.textUnder (key : String) (s : Scope) : String :=
  match Entries.get? key s.state with
  | none | some .null => ""
  | some v => v.shown

namespace Template

/-- What becomes of a piece. -/
def Piece.filled (s : Scope) : Piece → String
  | stretch cs => String.ofList cs
  | hole p => s.textUnder (String.ofList p.key)

theorem Piece.toList_filled (s : Scope) (a : Piece) : (a.filled s).toList = a.render s := by
  cases a with
  | stretch cs => exact String.toList_ofList
  | hole p =>
    rw [filled, render, Scope.textUnder, Scope.read]
    cases Entries.get? (String.ofList p.key) s.state with
    | none => rfl
    | some v => cases v <;> rfl

theorem render_eq_join (template : String) (s : Scope) :
    render template s = String.join ((pieces template.toList).map (Piece.filled s)) := by
  apply String.toList_inj.mp
  rw [render, String.toList_ofList, String.toList_join, List.flatMap_map]
  simp only [Piece.toList_filled]

/-- What has been put in place of a placeholder is not looked at again, and neither side knows of the other. -/
theorem render_append_source (front : List Char) {p : Placeholder} (proper : p.Proper) (back : List Char) (s : Scope) :
    render (String.ofList (front ++ (p.source ++ back))) s =
      render (String.ofList front) s ++ s.textUnder (String.ofList p.key) ++ render (String.ofList back) s := by
  simp only [render_eq_join, String.toList_ofList, pieces_append_source front proper back, List.map_append, List.map_cons,
    Piece.filled]
  apply String.toList_inj.mp
  simp only [String.toList_join, String.toList_append, List.flatMap_append, List.flatMap_cons, List.append_assoc]

example : render "\x7b\x7b\x7b x \x7d\x7d\x7d" { state := [("x", .text "\x7b\x7bx\x7d\x7d")] } = "\x7b\x7b\x7bx\x7d\x7d\x7d" := by cbv

/-- A template has one splitting.  It is rendered as its pieces are, one after the other; and wherever a placeholder is written,
the splitting has it, and its value stands between what the two sides are rendered as. -/
theorem render_substitutes (template : String) (s : Scope) :
    (∃! ps, Splitting template.toList ps) ∧
    ∀ ps, Splitting template.toList ps →
      render template s = String.join (ps.map (Piece.filled s)) ∧
      ∀ front p back, p.Proper → template.toList = front ++ (p.source ++ back) →
        (∃ before after, ps = before ++ .hole p :: after ∧ Splitting front before ∧ Splitting back after) ∧
        render template s =
          render (String.ofList front) s ++ s.textUnder (String.ofList p.key) ++ render (String.ofList back) s := by
  refine ⟨⟨_, splitting_pieces _, fun _ splits => splits.eq_pieces⟩, ?_⟩
  intro ps splits
  obtain rfl := splits.eq_pieces
  refine ⟨render_eq_join template s, ?_⟩
  intro front p back proper written
  constructor
  · refine ⟨pieces front, pieces back, ?_, splitting_pieces front, splitting_pieces back⟩
    rw [written, pieces_append_source front proper back]
  · have template_eq : template = String.ofList (front ++ (p.source ++ back)) := by
      rw [← written, String.ofList_toList]
    rw [template_eq, render_append_source front proper back s]

end Template
end Rendezvous
