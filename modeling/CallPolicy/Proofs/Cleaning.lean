import CallPolicy.Proofs.Segments

/-!
Contract: the resolved segments of a pattern and the text that stands for them.

Owns:
- what a resolved segment can be;
- that joining resolved segments and resolving the joined text gives them back, so two
  patterns have one clean text exactly when they have the same segments.

Does not own: matching of segments.
-/

namespace CallPolicy

namespace Text

universe u

variable {α : Type u} [DecidableEq α] {separator : α}

theorem splitOn_append_of_not_mem {piece : List α} (free : separator ∉ piece) (rest : List α) :
    splitOn separator (piece ++ separator :: rest) = piece :: splitOn separator rest := by
  rw [splitOn_append_separator, splitOn_of_not_mem free, List.singleton_append]

theorem splitOn_intercalate {pieces : List (List α)} (nonempty : pieces ≠ [])
    (free : ∀ piece ∈ pieces, separator ∉ piece) :
    splitOn separator ([separator].intercalate pieces) = pieces := by
  induction pieces with
  | nil => exact absurd rfl nonempty
  | cons piece rest inductionHypothesis =>
      obtain ⟨pieceFree, restFree⟩ := List.forall_mem_cons.mp free
      cases rest with
      | nil => simpa [List.intercalate] using splitOn_of_not_mem pieceFree
      | cons next others =>
          rw [List.intercalate_cons_cons, List.append_assoc, List.singleton_append,
            splitOn_append_of_not_mem pieceFree,
            inductionHypothesis (List.cons_ne_nil _ _) restFree]

theorem not_mem_of_mem_splitOn {items piece : List α} (member : piece ∈ splitOn separator items) :
    separator ∉ piece := by
  induction items generalizing piece with
  | nil =>
      rw [splitOn_nil, List.mem_singleton] at member
      simp [member]
  | cons item rest inductionHypothesis =>
      by_cases same : item = separator
      · subst same
        rw [splitOn_cons_separator] at member
        rcases List.mem_cons.mp member with rfl | inRest
        · exact List.not_mem_nil
        · exact inductionHypothesis inRest
      · obtain ⟨first, others, restPieces⟩ :=
          List.exists_cons_of_ne_nil (splitOn_ne_nil separator rest)
        rw [splitOn_cons_other same restPieces] at member
        rw [restPieces] at inductionHypothesis
        rcases List.mem_cons.mp member with rfl | inOthers
        · rw [List.mem_cons, not_or]
          exact ⟨Ne.symm same, inductionHypothesis List.mem_cons_self⟩
        · exact inductionHypothesis (List.mem_cons_of_mem _ inOthers)

end Text

namespace Path

/-- The segment names something: it is not empty, has no meaning of its own and hides no
slash. -/
structure Named (segment : String) : Prop where
  plain : segment ∉ ["", ".", ".."]
  noSlash : '/' ∉ segment.toList

theorem push_of_plain {segment : String} (plain : segment ∉ ["", ".", ".."])
    (kept : List String) : push kept segment = segment :: kept := by
  simp only [List.mem_cons, List.not_mem_nil, or_false, not_or] at plain
  simp [push, plain]

theorem mem_push {kept : List String} {segment other : String} (member : other ∈ push kept segment) :
    other ∈ kept ∨ other = segment ∧ segment ∉ ["", ".", ".."] := by
  unfold push at member
  split at member
  · exact Or.inl member
  · rename_i notBlank
    split at member
    · exact Or.inl (List.mem_of_mem_tail member)
    · rename_i notBack
      rcases List.mem_cons.mp member with isSegment | old
      · refine Or.inr ⟨isSegment, ?_⟩
        rw [not_or] at notBlank
        simp [notBlank, notBack]
      · exact Or.inl old

theorem mem_resolve {raw : List String} {segment : String} (member : segment ∈ resolve raw) :
    segment ∈ raw ∧ segment ∉ ["", ".", ".."] := by
  have kept : ∀ (raw kept : List String), segment ∈ raw.foldl push kept →
      segment ∈ kept ∨ segment ∈ raw ∧ segment ∉ ["", ".", ".."] := by
    intro raw
    induction raw with
    | nil => exact fun _ old => Or.inl old
    | cons first rest inductionHypothesis =>
        intro kept found
        rcases inductionHypothesis _ found with pushed | ⟨inRest, plain⟩
        · rcases mem_push pushed with old | ⟨rfl, plain⟩
          · exact Or.inl old
          · exact Or.inr ⟨List.mem_cons_self, plain⟩
        · exact Or.inr ⟨List.mem_cons_of_mem _ inRest, plain⟩
  rcases kept raw [] (List.mem_reverse.mp member) with none | found
  · cases none
  · exact found

/-- Segments that name something resolve to themselves. -/
theorem resolve_of_plain {segments : List String}
    (plain : ∀ segment ∈ segments, segment ∉ ["", ".", ".."]) : resolve segments = segments := by
  have pushed : ∀ (segments kept : List String),
      (∀ segment ∈ segments, segment ∉ ["", ".", ".."]) →
        segments.foldl push kept = segments.reverse ++ kept := by
    intro segments
    induction segments with
    | nil => exact fun _ _ => rfl
    | cons first rest inductionHypothesis =>
        intro kept plain
        obtain ⟨firstPlain, restPlain⟩ := List.forall_mem_cons.mp plain
        rw [List.foldl_cons, push_of_plain firstPlain, inductionHypothesis _ restPlain,
          List.reverse_cons, List.append_assoc, List.singleton_append]
  rw [resolve, pushed segments [] plain, List.append_nil, List.reverse_reverse]

theorem named_of_mem_clean {path segment : String} (member : segment ∈ clean path) :
    Named segment := by
  obtain ⟨isRaw, plain⟩ := mem_resolve member
  obtain ⟨piece, isPiece, rfl⟩ := List.mem_map.mp isRaw
  refine ⟨plain, ?_⟩
  rw [String.toList_ofList]
  exact Text.not_mem_of_mem_splitOn isPiece

/-- The raw segments of a text that joins segments behind slashes: the first slash starts with
an empty one. -/
theorem rawSegments_rooted {segments : List String} (nonempty : segments ≠ [])
    (noSlash : ∀ segment ∈ segments, '/' ∉ segment.toList) :
    rawSegments ("/" ++ "/".intercalate segments) = "" :: segments := by
  have joined : ("/" ++ "/".intercalate segments).toList =
      '/' :: ['/'].intercalate (segments.map String.toList) := by
    rw [String.toList_append, String.toList_intercalate]
    rfl
  have pieces : Text.splitOn '/' (['/'].intercalate (segments.map String.toList)) =
      segments.map String.toList := by
    refine Text.splitOn_intercalate (by simpa using nonempty) fun piece member => ?_
    obtain ⟨segment, isSegment, rfl⟩ := List.mem_map.mp member
    exact noSlash segment isSegment
  have texts : (segments.map String.toList).map String.ofList = segments := by
    simp [Function.comp_def]
  rw [rawSegments, joined, Text.splitOn_cons_separator, pieces, List.map_cons, texts]

/-- Segments that name something are got back from the text that joins them. -/
theorem clean_joined {segments : List String} (named : ∀ segment ∈ segments, Named segment) :
    clean ("/" ++ "/".intercalate segments) = segments := by
  cases segments with
  | nil => decide +kernel
  | cons first rest =>
      rw [clean, rawSegments_rooted (List.cons_ne_nil _ _) fun segment member =>
        (named segment member).noSlash]
      -- The empty segment in front vanishes.
      change resolve (first :: rest) = first :: rest
      exact resolve_of_plain fun segment member => (named segment member).plain

/-- The clean text of a pattern has the segments of the pattern. -/
theorem clean_cleanText (path : String) : clean (cleanText path) = clean path :=
  clean_joined fun _ member => named_of_mem_clean member

theorem cleanText_eq_iff {left right : String} :
    cleanText left = cleanText right ↔ clean left = clean right := by
  constructor
  · intro same
    rw [← clean_cleanText left, same, clean_cleanText]
  · intro same
    rw [cleanText, cleanText, same]

end Path

end CallPolicy
