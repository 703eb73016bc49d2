import CallPolicy.Text.Utf8

/-!
Contract: the files that an operation may read.

Owns: what a path gives, the reasons why it gives nothing, and reading as text.

Does not own: the reading itself, which happens outside.
-/

namespace CallPolicy

/-- Why a file cannot be read. -/
inductive ReadFailure where
  | missing
  | notInDirectory
  | directory
  | forbidden
  | notText
  | nameTooLong
  | impossibleName
deriving DecidableEq, Repr

namespace ReadFailure

/-- The wording of a failure. -/
def message : ReadFailure → String
  | .missing => "No such file or directory (os error 2)"
  | .notInDirectory => "Not a directory (os error 20)"
  | .directory => "Is a directory (os error 21)"
  | .forbidden => "Permission denied (os error 13)"
  | .notText => "stream did not contain valid UTF-8"
  | .nameTooLong => "File name too long (os error 36)"
  | .impossibleName => "file name contained an unexpected NUL byte"

/-- Whether the failure means that nothing is there. -/
def isAbsence : ReadFailure → Bool
  | .missing | .notInDirectory | .nameTooLong | .impossibleName => true
  | _ => false

end ReadFailure

/-- What each path gives. -/
abbrev Files := String → Except ReadFailure (List UInt8)

namespace Files

/-- The content of a file. A path with a null character cannot name one. -/
def read (files : Files) (path : String) : Except ReadFailure (List UInt8) :=
  if path.toList.contains '\x00' then .error .impossibleName else files path

/-- Whether something is there at a path, readable or not. -/
def holds (files : Files) (path : String) : Bool :=
  match files.read path with
  | .ok _ => true
  | .error failure => !failure.isAbsence

/-- The content of a file that has to be text. -/
def readText (files : Files) (path : String) : Except ReadFailure String := do
  match Text.Utf8.string? (← files.read path) with
  | some text => .ok text
  | none => .error .notText

end Files

end CallPolicy
