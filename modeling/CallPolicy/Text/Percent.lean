import CallPolicy.Text.Ascii

/-!
Contract: percent escapes in byte lists.

Owns: decoding of `%XX` with its equations, and the test that every percent sign
begins an escape.

Does not own: which bytes have to be escaped where.
-/

namespace CallPolicy.Text.Percent

/-- The percent sign. -/
def sign : UInt8 := 0x25

/-- The value of two hexadecimal digits. -/
def pair? (high low : UInt8) : Option UInt8 := do
  let first ← Ascii.hexValue? high.toNat
  let second ← Ascii.hexValue? low.toNat
  some (UInt8.ofNat (first * 16 + second))

/-- The byte that an escape at the start of a list stands for. -/
def escape? (byte : UInt8) : List UInt8 → Option UInt8
  | high :: low :: _ => if byte = sign then pair? high low else none
  | _ => none

/-- Skips the given number of bytes, then decodes; finished bytes are kept newest
first. -/
private def decodeLoop : Nat → List UInt8 → List UInt8 → List UInt8
  | _, [], done => done.reverse
  | skipped + 1, _ :: rest, done => decodeLoop skipped rest done
  | 0, byte :: rest, done =>
      match escape? byte rest with
      | some decoded => decodeLoop 2 rest (decoded :: done)
      | none => decodeLoop 0 rest (byte :: done)
termination_by structural _ input => input

/-- Puts the byte in place of each escape. A percent sign that begins none
stays. -/
def decode (input : List UInt8) : List UInt8 :=
  decodeLoop 0 input []

/-- Whether every percent sign is followed by two hexadecimal digits. -/
def wellFormed : List UInt8 → Bool
  | [] => true
  | byte :: rest => (byte != sign || (escape? byte rest).isSome) && wellFormed rest

private theorem decodeLoop_done (skipped : Nat) (input done : List UInt8) :
    decodeLoop skipped input done = done.reverse ++ decodeLoop skipped input [] := by
  induction input generalizing skipped done with
  | nil => cases skipped <;> simp [decodeLoop]
  | cons byte rest inductionHypothesis =>
      cases skipped with
      | zero =>
          simp only [decodeLoop]
          split
          · rename_i decoded _
            rw [inductionHypothesis 2 (decoded :: done), inductionHypothesis 2 [decoded]]
            simp
          · rw [inductionHypothesis 0 (byte :: done), inductionHypothesis 0 [byte]]
            simp
      | succ skipped =>
          simp only [decodeLoop]
          exact inductionHypothesis skipped done

/-- An escape decodes to one byte. -/
theorem decode_escape {high low decoded : UInt8} (found : pair? high low = some decoded)
    (rest : List UInt8) :
    decode (sign :: high :: low :: rest) = decoded :: decode rest := by
  simp only [decode, decodeLoop, escape?, if_true, found]
  rw [decodeLoop_done]
  simp

/-- A byte that begins no escape stays. -/
theorem decode_cons {byte : UInt8} {rest : List UInt8} (none : escape? byte rest = none) :
    decode (byte :: rest) = byte :: decode rest := by
  simp only [decode, decodeLoop, none]
  rw [decodeLoop_done]
  simp

end CallPolicy.Text.Percent
