/-!
Contract: cutting a list at every occurrence of a separator.

Owns: `splitOn`, its equations, and `cutAt`, which stops at the first separator.

Does not own: what the pieces mean.
-/

namespace CallPolicy.Text

universe u

variable {α : Type u} [DecidableEq α]

/-- Collects the current piece and the finished pieces, both newest first. -/
private def splitLoop (separator : α) : List α → List α → List (List α) → List (List α)
  | [], piece, done => (piece.reverse :: done).reverse
  | item :: rest, piece, done =>
      if item = separator then
        splitLoop separator rest [] (piece.reverse :: done)
      else
        splitLoop separator rest (item :: piece) done

/-- The pieces between separators, in order; there is always at least one. -/
def splitOn (separator : α) (items : List α) : List (List α) :=
  splitLoop separator items [] []

private theorem splitLoop_done (separator : α) (items piece : List α)
    (done : List (List α)) :
    splitLoop separator items piece done =
      done.reverse ++ splitLoop separator items piece [] := by
  induction items generalizing piece done with
  | nil => simp [splitLoop]
  | cons item rest inductionHypothesis =>
      simp only [splitLoop]
      split
      · rw [inductionHypothesis [] (piece.reverse :: done),
          inductionHypothesis [] [piece.reverse]]
        simp
      · rw [inductionHypothesis (item :: piece) done]

/-- Prepends items to the first piece. -/
private def consPiece (start : List α) : List (List α) → List (List α)
  | [] => [start]
  | piece :: pieces => (start ++ piece) :: pieces

private theorem splitLoop_piece (separator : α) (items piece : List α) :
    splitLoop separator items piece [] =
      consPiece piece.reverse (splitLoop separator items [] []) := by
  induction items generalizing piece with
  | nil => simp [splitLoop, consPiece]
  | cons item rest inductionHypothesis =>
      simp only [splitLoop]
      split
      · rw [splitLoop_done separator rest [] [piece.reverse],
          splitLoop_done separator rest [] [[].reverse]]
        simp [consPiece]
      · rw [inductionHypothesis (item :: piece), inductionHypothesis [item]]
        cases splitLoop separator rest [] [] <;> simp [consPiece]

@[simp] theorem splitOn_nil (separator : α) : splitOn separator [] = [[]] := rfl

theorem splitOn_cons_separator (separator : α) (rest : List α) :
    splitOn separator (separator :: rest) = [] :: splitOn separator rest := by
  unfold splitOn
  simp only [splitLoop, if_true]
  rw [splitLoop_done]
  simp

theorem splitOn_ne_nil (separator : α) (items : List α) :
    splitOn separator items ≠ [] := by
  cases items with
  | nil => simp
  | cons item rest =>
      unfold splitOn
      simp only [splitLoop]
      split
      · rw [splitLoop_done]; simp
      · rw [splitLoop_piece]
        cases splitLoop separator rest [] [] <;> simp [consPiece]

/-- An item that is no separator extends the first piece. -/
theorem splitOn_cons_other {separator item : α} (different : item ≠ separator)
    {rest piece : List α} {pieces : List (List α)}
    (restPieces : splitOn separator rest = piece :: pieces) :
    splitOn separator (item :: rest) = (item :: piece) :: pieces := by
  unfold splitOn at *
  simp only [splitLoop, if_neg different]
  rw [splitLoop_piece, restPieces]
  simp [consPiece]

/-- The items before the first separator, newest first, and those after it. -/
private def cutLoop (separator : α) : List α → List α → Option (List α × List α)
  | [], _ => none
  | item :: rest, before =>
      if item = separator then some (before.reverse, rest)
      else cutLoop separator rest (item :: before)

/-- The items before and after the first separator, if there is one. -/
def cutAt (separator : α) (items : List α) : Option (List α × List α) :=
  cutLoop separator items []

private theorem cutLoop_before (separator : α) (items before : List α) :
    cutLoop separator items before =
      (cutLoop separator items []).map fun halves => (before.reverse ++ halves.1, halves.2) := by
  induction items generalizing before with
  | nil => rfl
  | cons item rest inductionHypothesis =>
      simp only [cutLoop]
      split
      · simp
      · rw [inductionHypothesis (item :: before), inductionHypothesis [item]]
        cases cutLoop separator rest [] <;> simp

theorem cutAt_cons_separator (separator : α) (rest : List α) :
    cutAt separator (separator :: rest) = some ([], rest) := by
  simp [cutAt, cutLoop]

theorem cutAt_cons_other {separator item : α} (different : item ≠ separator) (rest : List α) :
    cutAt separator (item :: rest) =
      (cutAt separator rest).map fun halves => (item :: halves.1, halves.2) := by
  simp only [cutAt, cutLoop, if_neg different]
  rw [cutLoop_before]
  simp

end CallPolicy.Text
