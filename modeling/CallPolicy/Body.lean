/-!
Contract: request bodies that are forwarded after they were looked at.

Owns:
- what a reader delivers, as a script of its reads;
- reading with a limit, which takes at most one byte more than the limit;
- bodies held in memory, and bodies with a reader that is read once, on demand, and
  whose outcome is kept.

Does not own: what the bytes mean.
-/

namespace CallPolicy

/-- Why a body cannot be had. -/
inductive BodyError where
  | tooLarge (limit : Nat)
  | read (message : String)
deriving DecidableEq, Repr

/-- The wording of a body error. -/
def BodyError.message : BodyError → String
  | .tooLarge limit => "request body exceeds " ++ toString limit ++ " bytes"
  | .read message => "failed to read request body: " ++ message

/-- The limit on bodies where nothing else is configured: one mebibyte. -/
def defaultBodyLimit : Nat := 1048576

/-- What a body gives: its bytes or the reason why not. -/
abbrev BodyOutcome := Except BodyError (List UInt8)

/-- What one read of a reader gives. -/
inductive ReadEvent where
  | chunk (bytes : List UInt8)
  | interrupted
  | failure (message : String)
deriving DecidableEq, Repr

/-- How a bounded reading ended: the chunks that were taken, newest first, how
many bytes they hold, and the failure that stopped it, if one did. -/
structure Reading where
  chunks : List (List UInt8)
  taken : Nat
  failure : Option String
deriving DecidableEq, Repr

/-- Takes bytes until the room is used up, the data ends or a read fails. An
interrupted read is tried again, and an empty chunk is the end of data. -/
def Reading.collect (room : Nat) (reading : Reading) : List ReadEvent → Reading
  | [] => reading
  | event :: rest =>
      if room = 0 then reading
      else
        match event with
        | .interrupted => collect room reading rest
        | .failure message => { reading with failure := some message }
        | .chunk bytes =>
            if bytes.isEmpty then reading
            else
              let part := bytes.take room
              collect (room - part.length)
                { reading with chunks := part :: reading.chunks, taken := reading.taken + part.length }
                rest

/-- The largest number of bytes that can be counted, in 64 bits. -/
def largestCount : Nat := 0xFFFFFFFFFFFFFFFF

/-- How many bytes a reading with a limit may take: one more than the limit, unless that
is more than can be counted. -/
def Reading.room (limit : Nat) : Nat := min (limit + 1) largestCount

/-- Reads at most one byte more than the limit. -/
def Reading.upTo (limit : Nat) (script : List ReadEvent) : Reading :=
  collect (room limit) ⟨[], 0, none⟩ script

/-- The outcome of a reading with a limit: more bytes than the limit are too many,
whatever would follow. -/
def Reading.outcome (limit : Nat) (reading : Reading) : BodyOutcome :=
  match reading.failure with
  | some message => .error (.read message)
  | none =>
      if limit < reading.taken then .error (.tooLarge limit)
      else .ok reading.chunks.reverse.flatten

/-- A body with a reader. The reader stays in its slot until it is read, and the outcome
is kept for every later look. What was taken from the reader is counted for the record;
no outcome depends on it. -/
structure LazyBody where
  reader : Option (List ReadEvent)
  kept : Option BodyOutcome
  limit : Nat
  taken : Nat
deriving Repr

namespace LazyBody

/-- The body over a reader that was not read yet. -/
def ofReader (script : List ReadEvent) (limit : Nat) : LazyBody :=
  ⟨some script, none, limit, 0⟩

/-- The error of a reading that finds the slot of the reader empty. -/
def readerGone : BodyError := .read "body reader already consumed"

/-- Takes the reader out of its slot and reads it with the limit. -/
def drain (body : LazyBody) : BodyOutcome × LazyBody :=
  match body.reader with
  | some script =>
      let reading := Reading.upTo body.limit script
      (reading.outcome body.limit,
        { body with reader := none, taken := body.taken + reading.taken })
  | none => (.error readerGone, body)

/-- Looks at the bytes. The first look drains the reader and keeps the outcome. -/
def look (body : LazyBody) : BodyOutcome × LazyBody :=
  match body.kept with
  | some outcome => (outcome, body)
  | none =>
      let drained := body.drain
      (drained.1, { drained.2 with kept := some drained.1 })

/-- Whether the reader was drained. -/
def isBuffered (body : LazyBody) : Bool := body.kept.isSome

/-- Gives the body up for its outcome, which is the kept one or that of a reading made
now. What is left of the body stands beside it. -/
def release (body : LazyBody) : BodyOutcome × LazyBody :=
  match body.kept with
  | some outcome => (outcome, body)
  | none => body.drain

/-- The debugging text. -/
def describe (body : LazyBody) : String :=
  let flag := if body.isBuffered then "true" else "false"
  "LazyBody \x7b limit: " ++ toString body.limit ++ ", buffered: " ++ flag ++ " \x7d"

end LazyBody

/-- A body: bytes in memory, or a reader that is read on demand. -/
inductive Body where
  | buffered (bytes : List UInt8) (limit : Nat)
  | ondemand (body : LazyBody)
deriving Repr

namespace Body

/-- The body without bytes. -/
def empty : Body := .buffered [] defaultBodyLimit

/-- The body over a reader that was not read yet. -/
def waiting (script : List ReadEvent) (limit : Nat) : Body :=
  .ondemand (.ofReader script limit)

/-- Looks at the bytes. Bytes in memory are refused as a whole when they are more than
the limit. -/
def look : Body → BodyOutcome × Body
  | .buffered bytes limit =>
      (if limit < bytes.length then .error (.tooLarge limit) else .ok bytes,
        .buffered bytes limit)
  | .ondemand body => (body.look.1, .ondemand body.look.2)

/-- Whether the reader was drained; a body in memory has none. -/
def isDrained? : Body → Option Bool
  | .buffered _ _ => none
  | .ondemand body => some body.isBuffered

/-- Gives the body up for the bytes to forward. A body in memory is forwarded whatever
its limit. -/
def release : Body → BodyOutcome × Body
  | .buffered bytes limit => (.ok bytes, .buffered bytes limit)
  | .ondemand body => (body.release.1, .ondemand body.release.2)

/-- The bytes to forward. -/
def forward (body : Body) : BodyOutcome := body.release.1

/-- The debugging text of a body with a reader. -/
def describe? : Body → Option String
  | .buffered _ _ => none
  | .ondemand body => some body.describe

end Body

end CallPolicy
