import CallPolicy.Body
import Mathlib.Data.List.Basic
import Mathlib.Tactic.SplitIfs

/-!
Contract: what a bounded reading makes of a reader's script.

Owns:
- the bytes that a script delivers, and the failure that it ends with;
- what a reading takes of them in its room, step by step and in the end;
- the outcome of a reading with a limit, told from the bytes and the end of the script.

Does not own: what is done with a body.

## Where the count ends

One byte more than the limit is asked for, unless that number does not fit 64 bits. So for the
largest limit the reading stops at the limit, and does not see what follows. Only a reader that
delivers as many bytes as can be counted gets there, and no memory holds these bytes: the length
of a body in memory is such a count.
-/

namespace CallPolicy

namespace ReadEvent

/-- Whether reading goes on after the event: it brings bytes, or is to be tried again. -/
def goesOn : ReadEvent → Bool
  | .chunk bytes => !bytes.isEmpty
  | .interrupted => true
  | .failure _ => false

/-- The bytes that the event brings. -/
def bytes : ReadEvent → List UInt8
  | .chunk bytes => bytes
  | .interrupted => []
  | .failure _ => []

/-- The text of a failure. -/
def failure? : ReadEvent → Option String
  | .chunk _ => none
  | .interrupted => none
  | .failure message => some message

end ReadEvent

namespace Reading

/-- The bytes that a script delivers before the first end of data or failure. -/
def delivered (script : List ReadEvent) : List UInt8 :=
  (script.takeWhile ReadEvent.goesOn).flatMap ReadEvent.bytes

/-- The failure that the script ends with, unless the end of data comes first. -/
def failing? (script : List ReadEvent) : Option String :=
  (script.dropWhile ReadEvent.goesOn).head?.bind ReadEvent.failure?

/-- The bytes that a reading holds, in order. -/
def bytes (reading : Reading) : List UInt8 := reading.chunks.reverse.flatten

/-- What a limit promises: more bytes than the limit are too many, whatever would follow; else
the failure counts, if there is one; else the bytes are had. -/
def promised (limit : Nat) (script : List ReadEvent) : BodyOutcome :=
  if limit < (delivered script).length then .error (.tooLarge limit)
  else
    match failing? script with
    | some message => .error (.read message)
    | none => .ok (delivered script)

/-! ### One event at a time -/

section Events

variable {event : ReadEvent} {rest : List ReadEvent}

theorem delivered_cons (goesOn : event.goesOn = true) :
    delivered (event :: rest) = event.bytes ++ delivered rest := by
  rw [delivered, List.takeWhile_cons_of_pos goesOn, List.flatMap_cons, delivered]

theorem failing?_cons (goesOn : event.goesOn = true) :
    failing? (event :: rest) = failing? rest := by
  rw [failing?, List.dropWhile_cons_of_pos goesOn, failing?]

theorem delivered_cons_of_stop (stops : event.goesOn = false) :
    delivered (event :: rest) = [] := by
  rw [delivered, List.takeWhile_cons_of_neg (by simp [stops]), List.flatMap_nil]

theorem failing?_cons_of_stop (stops : event.goesOn = false) :
    failing? (event :: rest) = event.failure? := by
  rw [failing?, List.dropWhile_cons_of_neg (by simp [stops])]
  rfl

theorem failure_mem_of_failing? {script : List ReadEvent} {message : String}
    (failing : failing? script = some message) : .failure message ∈ script := by
  obtain ⟨event, isFirst, isFailure⟩ := Option.bind_eq_some_iff.mp failing
  have member : event ∈ script :=
    (List.dropWhile_sublist _).subset (List.mem_of_mem_head? isFirst)
  cases event with
  | chunk _ => cases isFailure
  | interrupted => cases isFailure
  | failure text => exact Option.some.inj isFailure ▸ member

end Events

/-! ### Readings in a room -/

theorem collect_of_full (reading : Reading) (script : List ReadEvent) :
    collect 0 reading script = reading := by
  cases script <;> rfl

/-- An event that stops the reading leaves at most its failure. -/
theorem collect_stop {room : Nat} (roomy : room ≠ 0) {event : ReadEvent}
    (stops : event.goesOn = false) (reading : Reading) (rest : List ReadEvent) :
    collect room reading (event :: rest) =
      { reading with failure := event.failure?.or reading.failure } := by
  cases event with
  | interrupted => cases stops
  | failure message =>
      rw [collect, if_neg roomy]
      rfl
  | chunk part =>
      have empty : part.isEmpty = true := by simpa [ReadEvent.goesOn] using stops
      rw [collect, if_neg roomy]
      simp [empty, ReadEvent.failure?]

/-- A chunk is taken as far as it fits. -/
theorem collect_chunk {room : Nat} (roomy : room ≠ 0) {part : List UInt8} (nonempty : part ≠ [])
    (reading : Reading) (rest : List ReadEvent) :
    collect room reading (.chunk part :: rest) =
      collect (room - part.length)
        { reading with chunks := part.take room :: reading.chunks,
                       taken := reading.taken + min room part.length } rest := by
  have left : room - min room part.length = room - part.length := by omega
  have notEmpty : part.isEmpty = false := by simpa using nonempty
  rw [collect, if_neg roomy]
  simp only [notEmpty, Bool.false_eq_true, if_false, List.length_take, left]

/-- What a reading makes of a script: it takes what fits its room, and meets the failure of the
script when the bytes in front of it leave some room. -/
structure Takes (room : Nat) (before : Reading) (script : List ReadEvent) (after : Reading) :
    Prop where
  taken : after.taken = before.taken + min room (delivered script).length
  bytes : after.bytes = before.bytes ++ (delivered script).take room
  failure : after.failure =
    if (delivered script).length < room then (failing? script).or before.failure
    else before.failure

theorem collect_takes (room : Nat) (reading : Reading) (script : List ReadEvent) :
    Takes room reading script (collect room reading script) := by
  -- Each chunk leaves less room and a longer reading, so both vary in the induction.
  induction script generalizing room reading with
  | nil => constructor <;> simp [collect, delivered, failing?]
  | cons event rest inductionHypothesis =>
      by_cases full : room = 0
      · subst full
        rw [collect_of_full]
        constructor <;> simp
      · cases goesOn : event.goesOn with
        | false =>
            rw [collect_stop full goesOn]
            have roomy : 0 < room := Nat.pos_of_ne_zero full
            constructor <;>
              simp [delivered_cons_of_stop goesOn, failing?_cons_of_stop goesOn, roomy, bytes]
        | true =>
            cases event with
            | failure message => cases goesOn
            | interrupted =>
                rw [collect, if_neg full]
                obtain ⟨taken, held, failure⟩ := inductionHypothesis room reading
                exact ⟨by rw [taken, delivered_cons goesOn]; rfl,
                  by rw [held, delivered_cons goesOn]; rfl,
                  by rw [failure, delivered_cons goesOn, failing?_cons goesOn]; rfl⟩
            | chunk part =>
                have nonempty : part ≠ [] := by simpa [ReadEvent.goesOn] using goesOn
                rw [collect_chunk full nonempty]
                obtain ⟨taken, held, failure⟩ := inductionHypothesis (room - part.length)
                  { reading with chunks := part.take room :: reading.chunks,
                                 taken := reading.taken + min room part.length }
                have longer : (delivered (.chunk part :: rest)).length =
                    part.length + (delivered rest).length := by
                  rw [delivered_cons goesOn, List.length_append]
                  rfl
                refine ⟨?_, ?_, ?_⟩
                · rw [taken, longer]
                  simp only []
                  omega
                · rw [held, delivered_cons goesOn]
                  simp [bytes, ReadEvent.bytes, List.take_append]
                · have roomLeft : (delivered rest).length < room - part.length ↔
                      part.length + (delivered rest).length < room := by omega
                  rw [failure, longer, failing?_cons goesOn]
                  simp only [roomLeft]

/-- Behind events after which it goes on, a reading goes on in the room that is left. -/
theorem collect_append {earlier : List ReadEvent}
    (goOn : ∀ event ∈ earlier, event.goesOn = true) (room : Nat) (reading : Reading)
    (later : List ReadEvent) :
    collect room reading (earlier ++ later) =
      collect (room - (delivered earlier).length) (collect room reading earlier) later := by
  induction earlier generalizing room reading with
  | nil => rfl
  | cons event rest inductionHypothesis =>
      obtain ⟨goesOn, restGoOn⟩ := List.forall_mem_cons.mp goOn
      by_cases full : room = 0
      · subst full
        rw [Nat.zero_sub, collect_of_full, collect_of_full, collect_of_full]
      · rw [delivered_cons goesOn, List.length_append, ← Nat.sub_sub]
        cases event with
        | failure message => cases goesOn
        | interrupted =>
            rw [List.cons_append, collect, if_neg full, collect, if_neg full]
            exact inductionHypothesis restGoOn room reading
        | chunk part =>
            have nonempty : part ≠ [] := by simpa [ReadEvent.goesOn] using goesOn
            rw [List.cons_append, collect_chunk full nonempty, collect_chunk full nonempty]
            exact inductionHypothesis restGoOn _ _

/-! ### Readings with a limit -/

section Limits

variable (limit : Nat) (script : List ReadEvent)

theorem room_le : room limit ≤ limit + 1 := Nat.min_le_left _ _

theorem room_le_largestCount : room limit ≤ largestCount := Nat.min_le_right _ _

theorem upTo_takes : Takes (room limit) ⟨[], 0, none⟩ script (upTo limit script) :=
  collect_takes _ _ script

theorem upTo_taken : (upTo limit script).taken = min (room limit) (delivered script).length :=
  (upTo_takes limit script).taken.trans (Nat.zero_add _)

theorem upTo_bytes : (upTo limit script).bytes = (delivered script).take (room limit) :=
  (upTo_takes limit script).bytes

theorem upTo_failure :
    (upTo limit script).failure =
      if (delivered script).length < room limit then failing? script else none := by
  rw [(upTo_takes limit script).failure, Option.or_none]

theorem upTo_taken_le_room : (upTo limit script).taken ≤ room limit := by
  rw [upTo_taken]
  exact Nat.min_le_left _ _

theorem upTo_taken_le : (upTo limit script).taken ≤ limit + 1 :=
  Nat.le_trans (upTo_taken_le_room limit script) (room_le limit)

/-- A reading counts the bytes that it holds. -/
theorem upTo_taken_eq : (upTo limit script).taken = (upTo limit script).bytes.length := by
  rw [upTo_taken, upTo_bytes, List.length_take]

theorem upTo_append {earlier : List ReadEvent} (goOn : ∀ event ∈ earlier, event.goesOn = true)
    (later : List ReadEvent) :
    upTo limit (earlier ++ later) =
      collect (room limit - (upTo limit earlier).taken) (upTo limit earlier) later := by
  have left : room limit - (upTo limit earlier).taken =
      room limit - (delivered earlier).length := by
    rw [upTo_taken]
    omega
  rw [left]
  exact collect_append goOn _ _ later

/-- The outcome, told from the bytes that fit the room. -/
theorem outcome_upTo_eq {held : List UInt8} (isHeld : (delivered script).take (room limit) = held) :
    (upTo limit script).outcome limit =
      match if held.length < room limit then failing? script else none with
      | some message => .error (.read message)
      | none => if limit < held.length then .error (.tooLarge limit) else .ok held := by
  have told : (upTo limit script).outcome limit =
      match (upTo limit script).failure with
      | some message => .error (.read message)
      | none =>
          if limit < (upTo limit script).taken then .error (.tooLarge limit)
          else .ok (upTo limit script).bytes := rfl
  have roomy : (delivered script).length < room limit ↔ held.length < room limit := by
    rw [← isHeld, List.length_take]
    omega
  rw [told, upTo_failure, upTo_taken_eq, upTo_bytes, isHeld, if_congr roomy rfl rfl]

/-- What is promised is what is had, unless the largest limit is reached. -/
theorem outcome_upTo_eq_promised
    (countable : limit < largestCount ∨ (delivered script).length < largestCount) :
    (upTo limit script).outcome limit = promised limit script := by
  rw [outcome_upTo_eq limit script rfl, promised, List.length_take]
  by_cases exceeded : limit < (delivered script).length
  · have oneMore : room limit = limit + 1 := Nat.min_eq_left (by omega)
    have full : ¬ min (room limit) (delivered script).length < room limit := by omega
    have beyond : limit < min (room limit) (delivered script).length := by omega
    rw [if_neg full, if_pos exceeded]
    exact if_pos beyond
  · have fits : (delivered script).length < room limit := by
      unfold room
      omega
    have whole : min (room limit) (delivered script).length = (delivered script).length :=
      Nat.min_eq_right (Nat.le_of_lt fits)
    rw [whole, if_pos fits, if_neg exceeded, if_neg exceeded,
      List.take_of_length_le (Nat.le_of_lt fits)]

/-- With the largest limit, the reading of bytes that cannot be counted stops with the count.
What follows is not seen, be it more bytes or a failure. -/
theorem outcome_upTo_of_largest (largest : largestCount ≤ limit)
    (long : largestCount ≤ (delivered script).length) :
    (upTo limit script).outcome limit = .ok ((delivered script).take largestCount) := by
  have full : room limit = largestCount := Nat.min_eq_right (by omega)
  have length : ((delivered script).take largestCount).length = largestCount :=
    List.length_take_of_le long
  rw [outcome_upTo_eq limit script rfl, full, length, if_neg (Nat.lt_irrefl largestCount)]
  exact if_neg (Nat.not_lt.mpr largest)

end Limits

/-- The outcome depends on the first bytes, as many as the limit and one more, and on the end of
the script, and not on how the bytes are cut. -/
theorem outcome_upTo_congr {limit : Nat} {script other : List ReadEvent}
    (same : (delivered other).take (limit + 1) = (delivered script).take (limit + 1))
    (sameEnd : failing? other = failing? script) :
    (upTo limit other).outcome limit = (upTo limit script).outcome limit := by
  have sameRoom : (delivered other).take (room limit) = (delivered script).take (room limit) := by
    rw [← Nat.min_eq_left (room_le limit), ← List.take_take, same, List.take_take]
  rw [outcome_upTo_eq limit other sameRoom, outcome_upTo_eq limit script rfl, sameEnd]

/-- Bytes that are had lie within the limit. -/
theorem length_le_of_outcome {limit : Nat} {script : List ReadEvent} {bytes : List UInt8}
    (had : (upTo limit script).outcome limit = .ok bytes) : bytes.length ≤ limit := by
  have counted := upTo_taken_eq limit script
  unfold outcome at had
  split at had
  · cases had
  · split_ifs at had with exceeded
    cases had
    change (upTo limit script).bytes.length ≤ limit
    omega

/-- A read error comes from the reader. -/
theorem failure_mem_of_outcome {limit : Nat} {script : List ReadEvent} {message : String}
    (failed : (upTo limit script).outcome limit = .error (.read message)) :
    .failure message ∈ script := by
  have isFailure : (upTo limit script).failure = some message := by
    unfold outcome at failed
    split at failed
    · next found =>
        cases failed
        exact found
    · split_ifs at failed
      cases failed
  rw [upTo_failure] at isFailure
  split_ifs at isFailure
  exact failure_mem_of_failing? isFailure

/-- Bounded readings are exact. Where the bytes in front of the end or the failure can be
counted, or the one behind the limit can be, the outcome is the promised one: too many bytes, or
the failure, or the bytes. What is left is the largest limit with a reader that delivers as many
bytes as can be counted, which no memory holds; that reading would stop with the count, and give
the bytes up to there. No more bytes are taken than the limit and one more, and everything on
the way is counted in 64 bits: behind each part of the script the reading goes on in the room
that the bytes taken so far leave. So the outcome depends on the first bytes and the end of the
script only, and not on how the bytes are cut. A body with a reader has this outcome when it is
looked at, and when it is forwarded without a look. -/
theorem outcome_exact (limit : Nat) (script : List ReadEvent) :
    (limit < largestCount ∨ (delivered script).length < largestCount →
        (upTo limit script).outcome limit = promised limit script) ∧
      (largestCount ≤ limit → largestCount ≤ (delivered script).length →
        (upTo limit script).outcome limit = .ok ((delivered script).take largestCount)) ∧
      (upTo limit script).taken = min (room limit) (delivered script).length ∧
      room limit ≤ limit + 1 ∧ room limit ≤ largestCount ∧
      (∀ earlier later, script = earlier ++ later → (∀ event ∈ earlier, event.goesOn = true) →
        (upTo limit earlier).taken ≤ room limit ∧
          upTo limit script =
            collect (room limit - (upTo limit earlier).taken) (upTo limit earlier) later) ∧
      (∀ other, (delivered other).take (limit + 1) = (delivered script).take (limit + 1) →
        failing? other = failing? script →
          (upTo limit other).outcome limit = (upTo limit script).outcome limit) ∧
      (Body.waiting script limit).look.1 = (upTo limit script).outcome limit ∧
      (Body.waiting script limit).forward = (upTo limit script).outcome limit := by
  refine ⟨outcome_upTo_eq_promised limit script, outcome_upTo_of_largest limit script,
    upTo_taken limit script, room_le limit, room_le_largestCount limit, ?_,
    fun _ => outcome_upTo_congr, rfl, rfl⟩
  rintro earlier later rfl goOn
  exact ⟨upTo_taken_le_room limit earlier, upTo_append limit goOn later⟩

namespace ReadingSample

/-- Four bytes in two pieces, an interruption, and a failure behind them. -/
def script : List ReadEvent :=
  [.chunk [1, 2, 3], .interrupted, .chunk [4], .failure "reset", .chunk [5]]

end ReadingSample

open ReadingSample in
theorem outcome_exact_sample :
    (upTo 3 script).outcome 3 = .error (.tooLarge 3) ∧
      (upTo 4 script).outcome 4 = .error (.read "reset") ∧
      (upTo largestCount [.chunk [1], .interrupted]).outcome largestCount = .ok [1] ∧
      (upTo 3 [.chunk [1, 2], .chunk [3, 4, 9], .failure "reset"]).outcome 3 =
        .error (.tooLarge 3) := by
  obtain ⟨exceeded, _, _, _, _, _, cut, _⟩ := outcome_exact 3 script
  obtain ⟨failed, _⟩ := outcome_exact 4 script
  obtain ⟨largest, _⟩ := outcome_exact largestCount [.chunk [1], .interrupted]
  have tooLarge : (upTo 3 script).outcome 3 = .error (.tooLarge 3) :=
    (exceeded (by decide)).trans (by decide)
  exact ⟨tooLarge, (failed (by decide)).trans (by decide), (largest (by decide)).trans (by decide),
    (cut _ (by decide) (by decide)).trans tooLarge⟩

end Reading

end CallPolicy
