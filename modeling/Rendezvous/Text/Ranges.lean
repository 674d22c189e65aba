/-!
# Ranges of code points

A class of characters is written as the list of its ranges in ascending order, both ends included.
`mem_ranges_iff` says that the search, which stops early, finds exactly the listed ranges.
-/

namespace Rendezvous.Text

/-- Ranges of code points, both ends included, in ascending order. -/
abbrev Ranges := List (Nat × Nat)

namespace Ranges

/-- Whether `n` lies in one of the ranges. The search ends at the first range that starts above `n`. -/
def contains : Ranges → Nat → Bool
  | [], _ => false
  | (lo, hi) :: rest, n => if n < lo then false else if n ≤ hi then true else contains rest n

/-- The ranges follow one another: each starts above the end of the one before. -/
def Ascending : Ranges → Prop
  | [] => True
  | (_, hi) :: rest => (∀ r ∈ rest, hi < r.1) ∧ Ascending rest

theorem contains_iff {rs : Ranges} (h : rs.Ascending) (hle : ∀ r ∈ rs, r.1 ≤ r.2) (n : Nat) :
    rs.contains n = true ↔ ∃ r ∈ rs, r.1 ≤ n ∧ n ≤ r.2 := by
  induction rs with
  | nil => simp [contains]
  | cons r rs ih =>
    obtain ⟨lo, hi⟩ := r
    have hlo : lo ≤ hi := hle (lo, hi) (by simp)
    have later : ∀ r ∈ rs, hi < r.1 := h.1
    have ih := ih h.2 (fun r hr => hle r (by simp [hr]))
    unfold contains
    split
    · rename_i hn
      constructor
      · intro hf; exact absurd hf (by simp)
      · rintro ⟨r, hr, h₁, _⟩
        rcases List.mem_cons.1 hr with rfl | hr
        · simp only at h₁; omega
        · have := later r hr; omega
    · split
      · rename_i h₁ h₂
        exact ⟨fun _ => ⟨(lo, hi), by simp, by simp only; omega, h₂⟩, fun _ => rfl⟩
      · rename_i h₁ h₂
        rw [ih]
        constructor
        · rintro ⟨r, hr, hb⟩; exact ⟨r, by simp [hr], hb⟩
        · rintro ⟨r, hr, hb⟩
          rcases List.mem_cons.1 hr with rfl | hr
          · exact absurd hb.2 h₂
          · exact ⟨r, hr, hb⟩

end Ranges
end Rendezvous.Text
