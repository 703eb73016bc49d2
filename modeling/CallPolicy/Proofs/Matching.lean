import CallPolicy.Proofs.Cleaning
import Mathlib.Data.List.Forall2

/-!
Contract: which paths a pattern matches, told place by place.

Owns:
- when a segment of a pattern fits a segment of a path;
- matching told from the places in front of the first segment that takes the rest;
- that the segments of a path are names only, whatever stars they consist of;
- that written patterns and paths count only by their clean texts.

Does not own: patterns that are put together from texts.
-/

namespace CallPolicy.Path

/-- The segment of a pattern fits a segment of a path: it is the one for any segment, or
both are the same text. -/
def Fits (wanted segment : String) : Prop :=
  wanted = anySegment ∨ wanted = segment

/-- In front of the place, every segment of the pattern is the one for any segment, or equals
the segment of the path at its place. -/
def FitsBefore (place : Nat) (pattern segments : List String) : Prop :=
  ∀ index < place, pattern[index]? = some anySegment ∨ pattern[index]? = segments[index]?

instance (place : Nat) (pattern segments : List String) :
    Decidable (FitsBefore place pattern segments) := by
  unfold FitsBefore
  infer_instance

/-- The first segment of the pattern that takes the rest stands at the place. -/
structure FirstRest (pattern : List String) (place : Nat) : Prop where
  here : pattern[place]? = some anyRest
  notBefore : ∀ index < place, pattern[index]? ≠ some anyRest

/-! ### One segment at a time -/

section Matching

variable {head : String} {start pattern segments : List String}

theorem matchSegments_nil : matchSegments [] segments = true ↔ segments = [] :=
  List.isEmpty_iff

theorem matchSegments_anyRest : matchSegments (anyRest :: pattern) segments = true := by
  cases segments <;> simp [matchSegments]

theorem matchSegments_cons (notRest : head ≠ anyRest) :
    matchSegments (head :: pattern) segments = true ↔
      ∃ segment rest, segments = segment :: rest ∧ Fits head segment ∧
        matchSegments pattern rest = true := by
  cases segments with
  | nil => simp [matchSegments, notRest]
  | cons segment rest => simp [matchSegments, notRest, Fits]

/-- Segments of which none takes the rest fit the path one by one, and what is left of the
path is matched by what is left of the pattern. -/
theorem matchSegments_append (noRest : anyRest ∉ start) :
    matchSegments (start ++ pattern) segments = true ↔
      ∃ front rest, segments = front ++ rest ∧ List.Forall₂ Fits start front ∧
        matchSegments pattern rest = true := by
  induction start generalizing segments with
  | nil => simp
  | cons first others inductionHypothesis =>
      rw [List.mem_cons, not_or] at noRest
      rw [List.cons_append, matchSegments_cons (Ne.symm noRest.1)]
      simp only [inductionHypothesis noRest.2, List.forall₂_cons_left_iff]
      constructor
      · rintro ⟨segment, _, rfl, fits, front, rest, rfl, othersFit, matched⟩
        exact ⟨segment :: front, rest, rfl, ⟨segment, front, fits, othersFit, rfl⟩, matched⟩
      · rintro ⟨_, rest, rfl, ⟨segment, front, fits, othersFit, rfl⟩, matched⟩
        exact ⟨segment, front ++ rest, rfl, fits, front, rest, rfl, othersFit, matched⟩

/-- Without a segment that takes the rest, all segments fit one by one. -/
theorem matchSegments_iff_forall₂ (noRest : anyRest ∉ pattern) :
    matchSegments pattern segments = true ↔ List.Forall₂ Fits pattern segments := by
  rw [← List.append_nil pattern, matchSegments_append noRest, List.append_nil]
  constructor
  · rintro ⟨front, rest, rfl, fit, matched⟩
    rwa [matchSegments_nil.mp matched, List.append_nil]
  · intro fit
    exact ⟨segments, [], (List.append_nil _).symm, fit, rfl⟩

/-- What stands behind a segment that takes the rest is never looked at. -/
theorem matchSegments_behind_rest (start left right segments : List String) :
    matchSegments (start ++ anyRest :: left) segments =
      matchSegments (start ++ anyRest :: right) segments := by
  induction start generalizing segments with
  | nil => rw [List.nil_append, List.nil_append, matchSegments_anyRest, matchSegments_anyRest]
  | cons first others inductionHypothesis =>
      rw [List.cons_append, List.cons_append]
      cases segments with
      | nil => rfl
      | cons segment rest => simp only [matchSegments, inductionHypothesis]

/-- A path counts only by which of its segments are names in the pattern. Stars in a path
can be exchanged for other segments like any name that the pattern does not have. -/
theorem matchSegments_rename {rename : String → String}
    (same : ∀ segment ∈ segments, ∀ name ∈ pattern, name ≠ anySegment → name ≠ anyRest →
      (rename segment = name ↔ segment = name)) :
    matchSegments pattern (segments.map rename) = matchSegments pattern segments := by
  induction pattern generalizing segments with
  | nil => cases segments <;> rfl
  | cons first others inductionHypothesis =>
      by_cases isRest : first = anyRest
      · subst isRest
        rw [matchSegments_anyRest, matchSegments_anyRest]
      · cases segments with
        | nil => rfl
        | cons segment rest =>
            have later := @inductionHypothesis rest fun other isOther name isName =>
              same other (List.mem_cons_of_mem _ isOther) name (List.mem_cons_of_mem _ isName)
            have now : (first == anySegment || first == rename segment) =
                (first == anySegment || first == segment) := by
              by_cases isAny : first = anySegment
              · simp [isAny]
              · have equal := same segment List.mem_cons_self first List.mem_cons_self isAny isRest
                rw [Bool.eq_iff_iff]
                simp only [Bool.or_eq_true, beq_iff_eq, isAny, false_or, eq_comm (a := first),
                  equal]
            rw [List.map_cons, matchSegments, matchSegments, later, now]

end Matching

/-! ### Places -/

section Places

variable {place : Nat} {start pattern segments : List String}

theorem forall₂_fits_iff :
    List.Forall₂ Fits start segments ↔
      start.length = segments.length ∧ FitsBefore start.length start segments := by
  rw [List.forall₂_iff_get]
  refine and_congr_right fun sameLength => forall_congr' fun index => ?_
  refine ⟨fun fit within => ?_, fun fit within inPath => ?_⟩
  · have inPath : index < segments.length := sameLength ▸ within
    rw [List.getElem?_eq_getElem within, List.getElem?_eq_getElem inPath, Option.some.injEq,
      Option.some.injEq]
    exact fit within inPath
  · have fits := fit within
    rwa [List.getElem?_eq_getElem within, List.getElem?_eq_getElem inPath, Option.some.injEq,
      Option.some.injEq] at fits

/-- Only the places in front count. -/
theorem fitsBefore_congr {otherPattern others : List String}
    (samePattern : ∀ index < place, pattern[index]? = otherPattern[index]?)
    (same : ∀ index < place, segments[index]? = others[index]?) :
    FitsBefore place pattern segments ↔ FitsBefore place otherPattern others := by
  refine forall₂_congr fun index before => ?_
  rw [samePattern index before, same index before]

theorem FirstRest.exists_cut (first : FirstRest pattern place) :
    ∃ start rest, pattern = start ++ anyRest :: rest ∧ start.length = place ∧
      anyRest ∉ start := by
  obtain ⟨within, here⟩ := List.getElem?_eq_some_iff.mp first.here
  have cut : pattern = pattern.take place ++ anyRest :: pattern.drop (place + 1) := by
    rw [← here, List.getElem_cons_drop, List.take_append_drop]
  refine ⟨pattern.take place, pattern.drop (place + 1), cut, ?_, fun member => ?_⟩
  · rw [List.length_take, Nat.min_eq_left (Nat.le_of_lt within)]
  · obtain ⟨index, before, isRest⟩ := List.mem_take_iff_getElem.mp member
    refine first.notBefore index (by omega) ?_
    rw [← isRest, List.getElem?_eq_getElem]

/-- With a segment that takes the rest, the path is at least as long as what stands in front
of it, and fits there. -/
theorem FirstRest.matchSegments_iff (first : FirstRest pattern place) :
    matchSegments pattern segments = true ↔
      place ≤ segments.length ∧ FitsBefore place pattern segments := by
  obtain ⟨start, behind, rfl, rfl, noRest⟩ := first.exists_cut
  have inFront : ∀ index < start.length, (start ++ anyRest :: behind)[index]? = start[index]? :=
    fun _ within => List.getElem?_append_left within
  rw [matchSegments_append noRest]
  constructor
  · rintro ⟨front, rest, rfl, fit, _⟩
    obtain ⟨sameLength, fit⟩ := forall₂_fits_iff.mp fit
    refine ⟨by rw [List.length_append]; omega, ?_⟩
    exact (fitsBefore_congr inFront fun _ within =>
      List.getElem?_append_left (sameLength ▸ within)).mpr fit
  · rintro ⟨long, fit⟩
    refine ⟨segments.take start.length, segments.drop start.length,
      (List.take_append_drop _ _).symm, forall₂_fits_iff.mpr ⟨?_, ?_⟩, matchSegments_anyRest⟩
    · rw [List.length_take, Nat.min_eq_left long]
    · exact (fitsBefore_congr inFront fun _ within =>
        (List.getElem?_take_of_lt within).symm).mp fit

/-- Without one, pattern and path have the same length and fit everywhere. -/
theorem matchSegments_iff_fitsBefore (noRest : anyRest ∉ pattern) :
    matchSegments pattern segments = true ↔
      pattern.length = segments.length ∧ FitsBefore pattern.length pattern segments := by
  rw [matchSegments_iff_forall₂ noRest, forall₂_fits_iff]

theorem FirstRest.exists_of_mem (member : anyRest ∈ pattern) :
    ∃ place, FirstRest pattern place := by
  obtain ⟨start, behind, rfl, noRest⟩ := List.eq_append_cons_of_mem member
  refine ⟨start.length, by simp, fun index before isRest => noRest ?_⟩
  rw [List.getElem?_append_left before] at isRest
  exact List.mem_of_getElem? isRest

/-- A star in a path fits only where the pattern takes any segment. -/
theorem anySegment_of_star (matched : matchSegments pattern segments = true)
    (noRest : ∀ index ≤ place, pattern[index]? ≠ some anyRest)
    (star : segments[place]? = some anySegment ∨ segments[place]? = some anyRest) :
    pattern[place]? = some anySegment := by
  have inPath : place < segments.length := by
    rcases star with star | star <;> exact (List.getElem?_eq_some_iff.mp star).1
  have fits : pattern[place]? = some anySegment ∨ pattern[place]? = segments[place]? := by
    by_cases member : anyRest ∈ pattern
    · obtain ⟨first, isFirst⟩ := FirstRest.exists_of_mem member
      have before : place < first := by
        by_contra behind
        exact noRest first (Nat.le_of_not_lt behind) isFirst.here
      exact (isFirst.matchSegments_iff.mp matched).2 place before
    · obtain ⟨sameLength, fit⟩ := (matchSegments_iff_fitsBefore member).mp matched
      exact fit place (sameLength ▸ inPath)
  rcases fits with isAny | same
  · exact isAny
  · rcases star with isAny | isRest
    · exact same.trans isAny
    · exact absurd (same.trans isRest) (noRest place (Nat.le_refl _))

end Places

/-! ### Patterns as a whole -/

/-- Only its own segments fit a pattern that never takes any segment. -/
theorem forall₂_fits_iff_eq {pattern segments : List String} (noAny : anySegment ∉ pattern) :
    List.Forall₂ Fits pattern segments ↔ segments = pattern := by
  induction pattern generalizing segments with
  | nil => exact List.forall₂_nil_left_iff
  | cons first others inductionHypothesis =>
      rw [List.mem_cons, not_or] at noAny
      have fits : ∀ segment, Fits first segment ↔ segment = first := fun segment => by
        rw [Fits, or_iff_right (Ne.symm noAny.1), eq_comm]
      simp only [List.forall₂_cons_left_iff, fits, inductionHypothesis noAny.2]
      constructor
      · rintro ⟨_, _, rfl, rfl, rfl⟩
        rfl
      · rintro rfl
        exact ⟨first, others, rfl, rfl, rfl⟩

/-- A pattern without wildcards matches itself and nothing else. -/
theorem matchSegments_iff_eq {pattern segments : List String} (noAny : anySegment ∉ pattern)
    (noRest : anyRest ∉ pattern) :
    matchSegments pattern segments = true ↔ segments = pattern := by
  rw [matchSegments_iff_forall₂ noRest, forall₂_fits_iff_eq noAny]

/-- Matching has a closed form. With a segment that takes the rest, the places in front of
the first one decide, and else all places do; a place fits when the pattern takes any segment
there or has the segment of the path. So nothing behind the first segment that takes the rest
matters; the segments of a path are names, also those that consist of stars; a pattern without
wildcards matches one path; and written patterns and paths count by their clean texts. -/
theorem matchSegments_by_place (pattern segments : List String) :
    (∀ place, FirstRest pattern place →
        (matchSegments pattern segments = true ↔
          place ≤ segments.length ∧ FitsBefore place pattern segments)) ∧
      (anyRest ∉ pattern →
        (matchSegments pattern segments = true ↔
          pattern.length = segments.length ∧ FitsBefore pattern.length pattern segments)) ∧
      (∀ start left right, matchSegments (start ++ anyRest :: left) segments =
        matchSegments (start ++ anyRest :: right) segments) ∧
      (matchSegments pattern segments = true →
        ∀ place : Nat, (∀ index ≤ place, pattern[index]? ≠ some anyRest) →
          segments[place]? = some anySegment ∨ segments[place]? = some anyRest →
            pattern[place]? = some anySegment) ∧
      (∀ rename : String → String,
        (∀ segment ∈ segments, ∀ name ∈ pattern, name ≠ anySegment → name ≠ anyRest →
            (rename segment = name ↔ segment = name)) →
          matchSegments pattern (segments.map rename) = matchSegments pattern segments) ∧
      (anySegment ∉ pattern → anyRest ∉ pattern →
        (matchSegments pattern segments = true ↔ segments = pattern)) ∧
      (∀ wanted path otherWanted other, cleanText wanted = cleanText otherWanted →
        cleanText path = cleanText other → matchText wanted path = matchText otherWanted other) ∧
      (∀ wanted path, anySegment ∉ clean wanted → anyRest ∉ clean wanted →
        (matchText wanted path = true ↔ cleanText path = cleanText wanted)) := by
  refine ⟨fun _ first => first.matchSegments_iff, matchSegments_iff_fitsBefore,
    fun start left right => matchSegments_behind_rest start left right segments,
    fun matched place noRest star => anySegment_of_star matched noRest star,
    fun rename => matchSegments_rename,
    matchSegments_iff_eq, fun wanted path otherWanted other sameWanted same => ?_,
    fun wanted path noAny noRest => ?_⟩
  · rw [matchText, matchText, cleanText_eq_iff.mp sameWanted, cleanText_eq_iff.mp same]
  · rw [matchText, matchSegments_iff_eq noAny noRest, cleanText_eq_iff]

theorem matchSegments_by_place_sample :
    matchSegments ["repos", "*", "**", "x"] ["repos", "**"] = true ∧
      matchSegments ["repos", "*", "**", "x"] ["repos", "acme"] = true ∧
      matchSegments ["repos", "*"] ["repos", "**"] = true ∧
      matchSegments ["repos", "acme"] ["repos", "*"] = false ∧
      matchText "repos//acme/" "/repos/./acme" = true := by
  obtain ⟨byPlace, _, _, _, renamed, _⟩ :=
    matchSegments_by_place ["repos", "*", "**", "x"] ["repos", "**"]
  obtain ⟨_, everywhere, _⟩ := matchSegments_by_place ["repos", "*"] ["repos", "**"]
  obtain ⟨_, _, _, star, _, _, _, texts⟩ :=
    matchSegments_by_place ["repos", "acme"] ["repos", "*"]
  have matched := (byPlace 2 ⟨rfl, by decide⟩).mpr (by decide)
  have exchanged := renamed (fun segment => if segment = "**" then "acme" else segment) (by decide)
  refine ⟨matched, exchanged.trans matched, (everywhere (by decide)).mpr (by decide), ?_, ?_⟩
  · rw [Bool.eq_false_iff]
    intro wrong
    have isAny := star wrong 1 (by decide) (Or.inl rfl)
    exact absurd isAny (by decide)
  · exact (texts _ _ (by decide +kernel) (by decide +kernel)).mpr (by decide +kernel)

end CallPolicy.Path
