/-!
Contract: sets of code points given by ascending ranges.

Owns: the range list and its membership test.

Does not own: the ranges of any particular character property.
-/

namespace CallPolicy.Text

/-- Code points given by the first and last member of each range. -/
abbrev Ranges := List (Nat × Nat)

/-- A code point is in the set when some range holds it. -/
def Ranges.contains (ranges : Ranges) (codePoint : Nat) : Bool :=
  ranges.any fun range => range.1 ≤ codePoint && codePoint ≤ range.2

theorem Ranges.contains_iff (ranges : Ranges) (codePoint : Nat) :
    ranges.contains codePoint = true ↔
      ∃ range ∈ ranges, range.1 ≤ codePoint ∧ codePoint ≤ range.2 := by
  simp [Ranges.contains]

end CallPolicy.Text
