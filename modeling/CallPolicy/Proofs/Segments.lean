import CallPolicy.Path
import CallPolicy.Proofs.Escapes
import Mathlib.Data.List.Induction

/-!
Contract: how a change inside a path shows in its segments.

Owns:
- cutting at separators where lists are joined, and around a part without any;
- segments that decode alike, and raw segments that leave no trace when they are
  inserted.

Does not own: which changes of a path are considered.
-/

namespace CallPolicy

/-! ### Cutting joined lists -/

namespace Text

universe u

variable {α : Type u} [DecidableEq α] {separator : α}

theorem splitOn_append_separator (left right : List α) :
    splitOn separator (left ++ separator :: right) =
      splitOn separator left ++ splitOn separator right := by
  induction left with
  | nil => rw [List.nil_append, splitOn_cons_separator, splitOn_nil, List.singleton_append]
  | cons item rest inductionHypothesis =>
      rw [List.cons_append]
      by_cases same : item = separator
      · subst same
        rw [splitOn_cons_separator, splitOn_cons_separator, inductionHypothesis,
          List.cons_append]
      · obtain ⟨piece, pieces, restPieces⟩ :=
          List.exists_cons_of_ne_nil (splitOn_ne_nil separator rest)
        have joined : splitOn separator (rest ++ separator :: right) =
            piece :: (pieces ++ splitOn separator right) := by
          rw [inductionHypothesis, restPieces, List.cons_append]
        rw [splitOn_cons_other same restPieces, splitOn_cons_other same joined,
          List.cons_append]

theorem splitOn_of_not_mem {items : List α} (free : separator ∉ items) :
    splitOn separator items = [items] := by
  induction items with
  | nil => rfl
  | cons item rest inductionHypothesis =>
      rw [List.mem_cons, not_or] at free
      exact splitOn_cons_other (Ne.symm free.1) (inductionHypothesis free.2)

theorem cutAt_of_not_mem {items : List α} (free : separator ∉ items) :
    cutAt separator items = none := by
  induction items with
  | nil => rfl
  | cons item rest inductionHypothesis =>
      rw [List.mem_cons, not_or] at free
      rw [cutAt_cons_other (Ne.symm free.1), inductionHypothesis free.2, Option.map_none]

/-- What stands before a place is finished pieces and the start of a piece. -/
theorem exists_pieces_before (separator : α) (before : List α) :
    ∃ (start near : List α) (earlier : List (List α)), before = start ++ near ∧
      separator ∉ near ∧
        ∀ rest, splitOn separator (before ++ rest) =
          earlier ++ splitOn separator (near ++ rest) := by
  induction before using List.reverseRecOn with
  | nil => exact ⟨[], [], [], rfl, List.not_mem_nil, fun _ => rfl⟩
  | append_singleton items item inductionHypothesis =>
      by_cases same : item = separator
      · subst same
        refine ⟨items ++ [item], [], splitOn item items, (List.append_nil _).symm,
          List.not_mem_nil, fun rest => ?_⟩
        rw [List.append_assoc, List.singleton_append, splitOn_append_separator,
          List.nil_append]
      · obtain ⟨start, near, earlier, rfl, free, split⟩ := inductionHypothesis
        refine ⟨start, near ++ [item], earlier, List.append_assoc .., ?_, fun rest => ?_⟩
        · simp [free, Ne.symm same]
        · rw [List.append_assoc, List.append_assoc near]
          exact split _

/-- What stands after a place is the end of a piece and further pieces. -/
theorem exists_pieces_after (separator : α) (after : List α) :
    ∃ (near stop : List α) (later : List (List α)), after = near ++ stop ∧
      ∀ piece, separator ∉ piece →
        splitOn separator (piece ++ after) = (piece ++ near) :: later := by
  induction after with
  | nil =>
      refine ⟨[], [], [], rfl, fun piece free => ?_⟩
      rw [List.append_nil, splitOn_of_not_mem free]
  | cons item rest inductionHypothesis =>
      by_cases same : item = separator
      · subst same
        refine ⟨[], item :: rest, splitOn item rest, rfl, fun piece free => ?_⟩
        rw [splitOn_append_separator, splitOn_of_not_mem free, List.append_nil,
          List.singleton_append]
      · obtain ⟨near, stop, later, rfl, split⟩ := inductionHypothesis
        refine ⟨item :: near, stop, later, rfl, fun piece free => ?_⟩
        have extended := split (piece ++ [item]) (by simp [free, Ne.symm same])
        simpa using extended

/-- A part without separators stands inside one piece, and all other pieces do not
depend on it. -/
theorem exists_pieces_around (separator : α) (before after : List α) :
    ∃ (start near close stop : List α) (earlier later : List (List α)),
      before = start ++ near ∧ after = close ++ stop ∧
        ∀ middle, separator ∉ middle →
          splitOn separator (before ++ middle ++ after) =
            earlier ++ (near ++ middle ++ close) :: later := by
  obtain ⟨start, near, earlier, cutBefore, free, splitBefore⟩ :=
    exists_pieces_before separator before
  obtain ⟨close, stop, later, cutAfter, splitAfter⟩ := exists_pieces_after separator after
  refine ⟨start, near, close, stop, earlier, later, cutBefore, cutAfter,
    fun middle middleFree => ?_⟩
  have joinedFree : separator ∉ near ++ middle := by
    simp [free, middleFree]
  rw [List.append_assoc, splitBefore, ← List.append_assoc, splitAfter _ joinedFree]

end Text

/-! ### Segments of requests -/

namespace Path

open Text.Percent

/-- Raw segments decode alike when they stand for the same bytes. -/
theorem decodeSegment?_congr {left right : List Char} (same : octets left = octets right) :
    decodeSegment? (String.ofList left) = decodeSegment? (String.ofList right) := by
  have bytes : Text.Percent.decode (Text.Utf8.bytes (String.ofList left)) =
      Text.Percent.decode (Text.Utf8.bytes (String.ofList right)) := by
    simpa [Text.Utf8.bytes, octets] using same
  rw [decodeSegment?, decodeSegment?, bytes]

/-- A part of a path without slashes may be exchanged for one that stands for the same
bytes between all the neighbours it can have. -/
theorem ofRequest?_congr {before after left right : List Char} (leftFree : '/' ∉ left)
    (rightFree : '/' ∉ right)
    (same : ∀ start near close stop, before = start ++ near → after = close ++ stop →
      octets (near ++ left ++ close) = octets (near ++ right ++ close)) :
    ofRequest? (String.ofList (before ++ left ++ after)) =
      ofRequest? (String.ofList (before ++ right ++ after)) := by
  obtain ⟨start, near, close, stop, earlier, later, cutBefore, cutAfter, split⟩ :=
    Text.exists_pieces_around '/' before after
  have decoded := decodeSegment?_congr (same start near close stop cutBefore cutAfter)
  rw [ofRequest?, ofRequest?, rawSegments, rawSegments, String.toList_ofList,
    String.toList_ofList, split left leftFree, split right rightFree]
  simp only [List.map_append, List.map_cons, List.mapM_append, List.mapM_cons, decoded]

theorem slash_not_mem_spells {bytes : List UInt8} {text : List Char}
    (spelled : Spells bytes text) : '/' ∉ text :=
  spelled.not_mem (by decide) (by decide)

theorem decodeSegment?_empty : decodeSegment? "" = some "" := by
  decide +kernel

theorem push_blank {text : String} (blank : text = "" ∨ text = ".") (kept : List String) :
    push kept text = kept := if_pos blank

theorem push_detour {text : String} (named : text ∉ ["", ".", ".."]) (kept : List String) :
    push (push kept text) ".." = kept := by
  simp only [List.mem_cons, List.not_mem_nil, or_false, not_or] at named
  simp [push, named]

/-- Raw segments may be inserted when they decode to segments that together leave the
kept ones as they were. -/
theorem ofRequest?_insert {path spelled : String} {before inserted after texts : List String}
    (pathSegments : rawSegments path = before ++ after)
    (spelledSegments : rawSegments spelled = before ++ inserted ++ after)
    (decoded : inserted.mapM decodeSegment? = some texts)
    (vanish : ∀ kept, texts.foldl push kept = kept) :
    ofRequest? spelled = ofRequest? path := by
  rw [ofRequest?, ofRequest?, pathSegments, spelledSegments]
  simp only [List.mapM_append, decoded]
  cases before.mapM decodeSegment? with
  | none => rfl
  | some earlier =>
      cases after.mapM decodeSegment? with
      | none => rfl
      | some later => simp [resolve, List.foldl_append, vanish]

end Path

end CallPolicy
