import CallPolicy.Proofs.Matching
import Mathlib.Tactic.MkIffOfInductiveProp

/-!
Contract: patterns put together from texts, and the paths that they match.

Owns:
- segments that a pattern takes literally, and what a pattern matches that begins with them;
- the raw segments of joined texts, and patterns that resolve to what they were joined from.

Does not own: which texts are joined.
-/

namespace CallPolicy.Path

/-- A pattern takes the segment literally: it is not resolved away, and it has no star. -/
@[mk_iff] structure Literal (segment : String) : Prop where
  plain : segment ∉ ["", ".", ".."]
  noStar : '*' ∉ segment.toList

instance (segment : String) : Decidable (Literal segment) :=
  decidable_of_iff' _ (literal_iff segment)

theorem Literal.ne_anyRest {segment : String} (literal : Literal segment) : segment ≠ anyRest := by
  rintro rfl
  exact literal.noStar (by decide)

theorem Literal.ne_anySegment {segment : String} (literal : Literal segment) :
    segment ≠ anySegment := by
  rintro rfl
  exact literal.noStar (by decide)

/-! ### Matching -/

section Matching

variable {pattern segments : List String}

theorem matchSegments_anySegment_cons :
    matchSegments (anySegment :: pattern) segments = true ↔
      ∃ segment rest, segments = segment :: rest ∧ matchSegments pattern rest = true := by
  rw [matchSegments_cons (by decide)]
  simp [Fits]

/-- What a pattern begins with literally, every path begins with that it matches. -/
theorem matchSegments_literal_append {start : List String}
    (literal : ∀ segment ∈ start, Literal segment) :
    matchSegments (start ++ pattern) segments = true ↔
      ∃ rest, segments = start ++ rest ∧ matchSegments pattern rest = true := by
  have noRest : anyRest ∉ start := fun member => (literal _ member).ne_anyRest rfl
  have noAny : anySegment ∉ start := fun member => (literal _ member).ne_anySegment rfl
  rw [matchSegments_append noRest]
  simp only [forall₂_fits_iff_eq noAny]
  constructor
  · rintro ⟨_, rest, rfl, rfl, matched⟩
    exact ⟨rest, rfl, matched⟩
  · rintro ⟨rest, rfl, matched⟩
    exact ⟨start, rest, rfl, rfl, matched⟩

/-- A pattern of literal segments matches only itself. -/
theorem matchSegments_literal (literal : ∀ segment ∈ pattern, Literal segment) :
    matchSegments pattern segments = true ↔ segments = pattern :=
  matchSegments_iff_eq (fun member => (literal _ member).ne_anySegment rfl)
    fun member => (literal _ member).ne_anyRest rfl

end Matching

/-! ### Joined texts -/

theorem rawSegments_joined (left right : String) :
    rawSegments (left ++ "/" ++ right) = rawSegments left ++ rawSegments right := by
  have joined : (left ++ "/" ++ right).toList = left.toList ++ '/' :: right.toList := by
    rw [String.toList_append, String.toList_append, List.append_assoc]
    rfl
  rw [rawSegments, joined, Text.splitOn_append_separator, List.map_append]
  rfl

/-- A path from the root resolves to its raw segments when none of them is resolved away. -/
theorem clean_of_rooted {path : String} {segments : List String}
    (raw : rawSegments path = "" :: segments)
    (plain : ∀ segment ∈ segments, segment ∉ ["", ".", ".."]) : clean path = segments := by
  rw [clean, raw]
  change resolve segments = segments
  exact resolve_of_plain plain

end CallPolicy.Path
