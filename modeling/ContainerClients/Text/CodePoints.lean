/-!
# Sets of code points

A character class of the Unicode standard is a finite union of ranges, and is written here as a
list of inclusive ranges.

* `CodePoints` — the list of ranges.
* `CodePoints.has` — membership of a character.
-/

namespace ContainerClients.Text

/-- **A set of code points**, as inclusive ranges. -/
abbrev CodePoints := List (Nat × Nat)

/-- A character is in the set when its code point lies in one of the ranges. -/
def CodePoints.has (set : CodePoints) (c : Char) : Bool :=
  set.any fun range => range.1 ≤ c.toNat && c.toNat ≤ range.2

theorem CodePoints.has_iff (set : CodePoints) (c : Char) :
    CodePoints.has set c = true ↔ ∃ range ∈ set, range.1 ≤ c.toNat ∧ c.toNat ≤ range.2 := by
  simp [CodePoints.has, List.any_eq_true]

end ContainerClients.Text
