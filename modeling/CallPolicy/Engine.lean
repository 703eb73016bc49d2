import CallPolicy.Allowlist
import CallPolicy.Denylist
import CallPolicy.Document.Read

/-!
Contract: decisions about requests.

Owns:
- the engine, which holds a registry, an allowlist and a denylist;
- the decision about a request, and its wording;
- the changes of an engine: of one integration, of one list, or of both lists at
  once, from entries or from files;
- the calls that ask for a change, and runs of such calls.

Does not own: the rules of either list.
-/

namespace CallPolicy

/-- The decision about a request. -/
inductive Decision where
  | allow
  | notAllowed
  | denied (refusal : Refusal)
deriving DecidableEq, Repr

namespace Decision

/-- The wording of a decision. -/
def message : Decision → String
  | .allow => "allow"
  | .notAllowed => "not allowed"
  | .denied refusal => "denied: " ++ refusal.message

/-- Whether the request may be made. -/
def isAllowed : Decision → Bool
  | .allow => true
  | _ => false

end Decision

/-- The capabilities that allowlists may use, and both lists as they are
installed. -/
structure Engine where
  registry : Registry
  allowlist : Allowlist
  denylist : Denylist

namespace Engine

/-- The engine without entries. It allows nothing. -/
def ofRegistry (registry : Registry) : Engine :=
  ⟨registry, Keyed.empty, Keyed.empty⟩

/-- Decides about a request. The allowlist has to have a constraint for it, the
request has to meet that constraint, and then the denylist must not refuse it. -/
def authorize (engine : Engine) (integration caller : String) (head : RequestHead)
    (body : Body) : Decision × Body :=
  match engine.allowlist.find? integration caller head.path head.method with
  | none => (.notAllowed, body)
  | some constraint =>
      match constraint.met head body with
      | (false, looked) => (.notAllowed, looked)
      | (true, looked) =>
          match engine.denylist.refusal? integration caller head looked with
          | (some refusal, seen) => (.denied refusal, seen)
          | (none, seen) => (.allow, seen)

/-- Reads the entries of both files. Without a second file nothing is denied. -/
def entriesOf (files : Files) (allowPath : String) (denyPath : Option String) :
    Except PolicyError (List AllowEntry × List DenyEntry) := do
  let allowed ← Document.loadAllowlist files allowPath
  let denied ←
    match denyPath with
    | some path => Document.loadDenylist files path
    | none => .ok []
  .ok (allowed, denied)

end Engine

/-- A change of an engine, made in steps that may fail. Nothing is taken back: what
a step has written stays when a later step fails. -/
abbrev Change := EStateM PolicyError Engine

namespace Change

/-- Puts another allowlist in place. -/
def replaceAllowlist (allowlist : Allowlist) : Change Unit :=
  modify fun engine => { engine with allowlist }

/-- Puts another denylist in place. -/
def replaceDenylist (denylist : Denylist) : Change Unit :=
  modify fun engine => { engine with denylist }

/-- Installs the allowed callers of one integration. -/
def setAllowed (integration : String) (callers : List AllowCaller) : Change Unit := do
  let engine ← get
  replaceAllowlist (← ofExcept (engine.allowlist.set engine.registry integration callers))

/-- Installs the denied callers of one integration. -/
def setDenied (integration : String) (callers : List DenyCaller) : Change Unit := do
  let engine ← get
  replaceDenylist (← ofExcept (engine.denylist.set integration callers))

/-- Builds an allowlist and puts it in place. -/
def buildAllowed (allowed : List AllowEntry) : Change Unit := do
  let engine ← get
  replaceAllowlist (← ofExcept (Allowlist.build engine.registry allowed))

/-- Builds a denylist and puts it in place. -/
def buildDenied (denied : List DenyEntry) : Change Unit := do
  replaceDenylist (← ofExcept (Denylist.build denied))

/-- Replaces both lists. Both are built before the first is put in place. -/
def reload (allowed : List AllowEntry) (denied : List DenyEntry) : Change Unit := do
  let engine ← get
  let allowlist ← ofExcept (Allowlist.build engine.registry allowed)
  let denylist ← ofExcept (Denylist.build denied)
  replaceAllowlist allowlist
  replaceDenylist denylist

/-- Replaces both lists from files. -/
def loadFiles (files : Files) (allowPath : String) (denyPath : Option String) :
    Change Unit := do
  let (allowed, denied) ← ofExcept (Engine.entriesOf files allowPath denyPath)
  reload allowed denied

end Change

/-- The calls that change an engine. A call for files comes with what the files hold
when it is made. -/
inductive Command where
  | setAllowed (integration : String) (callers : List AllowCaller)
  | setDenied (integration : String) (callers : List DenyCaller)
  | buildAllowed (allowed : List AllowEntry)
  | buildDenied (denied : List DenyEntry)
  | reload (allowed : List AllowEntry) (denied : List DenyEntry)
  | loadFiles (files : Files) (allowPath : String) (denyPath : Option String)

/-- The change that a call asks for. -/
def Command.change : Command → Change Unit
  | .setAllowed integration callers => Change.setAllowed integration callers
  | .setDenied integration callers => Change.setDenied integration callers
  | .buildAllowed allowed => Change.buildAllowed allowed
  | .buildDenied denied => Change.buildDenied denied
  | .reload allowed denied => Change.reload allowed denied
  | .loadFiles files allowPath denyPath => Change.loadFiles files allowPath denyPath

/-- What a call answers. -/
abbrev Answer := Except PolicyError Unit

namespace Engine

/-- Makes a call. Gives the answer and the engine that it leaves behind. -/
def call (engine : Engine) (command : Command) : Answer × Engine :=
  match command.change.run engine with
  | .ok _ after => (.ok (), after)
  | .error error after => (.error error, after)

/-- Makes calls in order. Gives each call with its answer, and the engine that the
last one leaves behind. -/
def calls (engine : Engine) : List Command → List (Command × Answer) × Engine
  | [] => ([], engine)
  | command :: rest =>
      let (answer, after) := engine.call command
      let (answered, last) := after.calls rest
      ((command, answer) :: answered, last)

/-- The engine after a call that succeeds. -/
def changed (engine : Engine) (command : Command) : Except PolicyError Engine :=
  match engine.call command with
  | (.ok _, after) => .ok after
  | (.error error, _) => .error error

/-- Replaces both lists. -/
def reload (engine : Engine) (allowed : List AllowEntry) (denied : List DenyEntry) :
    Except PolicyError Engine :=
  engine.changed (.reload allowed denied)

/-- Replaces both lists from files. -/
def loadFiles (engine : Engine) (files : Files) (allowPath : String)
    (denyPath : Option String) : Except PolicyError Engine :=
  engine.changed (.loadFiles files allowPath denyPath)

end Engine

end CallPolicy
