/-!
# Texts that are given

Wherever a text may be left out, an empty text counts as left out.
-/

namespace Rendezvous.Text

/-- A text, unless it is missing or empty. -/
def given? : Option String → Option String
  | none => none
  | some s => if s = "" then none else some s

/-- A text, or another one if it is missing or empty. -/
def orElse (s : Option String) (otherwise : String) : String := (given? s).getD otherwise

@[simp] theorem given?_none : given? none = none := rfl

theorem given?_some {s : String} (h : s ≠ "") : given? (some s) = some s := if_neg h

/-- What is given is not empty. -/
theorem ne_empty_of_given? {s : Option String} {t : String} (h : given? s = some t) : t ≠ "" := by
  cases s with
  | none => simp at h
  | some s =>
    by_cases hs : s = ""
    · simp [given?, hs] at h
    · rw [given?_some hs] at h; simp_all

end Rendezvous.Text
