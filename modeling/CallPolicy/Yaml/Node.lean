import CallPolicy.Keyed
import CallPolicy.Yaml.Event
import CallPolicy.Yaml.Tokens

/-!
Contract: YAML documents as trees.

Owns:
- trees of nodes, in which every alias is replaced by what it repeats;
- the limits on nesting and on the number of repetitions;
- the tree of a text that holds at most one document.

Does not own: the values of plain scalars.
-/

namespace CallPolicy.Yaml

/-- A node with the bytes of its tag. The document without content has no node at
all. -/
inductive Node where
  | nothing
  | scalar (tag : Option (List UInt8)) (plain : Bool) (text : String)
  | sequence (tag : Option (List UInt8)) (items : List Node)
  | mapping (tag : Option (List UInt8)) (members : List (Node × Node))
deriving Inhabited, Repr

namespace Node

/-- A step through a document whose aliases are numbered. -/
inductive Step where
  | alias (number : Nat)
  | scalar (tag : Option (List UInt8)) (plain : Bool) (text : String)
  | sequenceStart (tag : Option (List UInt8))
  | sequenceEnd
  | mappingStart (tag : Option (List UInt8))
  | mappingEnd
deriving DecidableEq, Repr

/-- What is known of the anchors while steps are numbered: the number of each name
and the step that each number stands for now, newest first. -/
structure Anchors where
  numbers : List (String × Nat)
  targets : List (Nat × Nat)
deriving DecidableEq, Repr

/-- The number of a name. -/
def Anchors.number? (anchors : Anchors) (name : String) : Option Nat :=
  lookupEntry name anchors.numbers

/-- Notes that a step has an anchor. Its number is that of the names known before,
so a name that is used again can share the number of a later one. -/
def Anchors.note (anchors : Anchors) (anchor : Option String) (step : Nat) : Anchors :=
  match anchor with
  | none => anchors
  | some name =>
      let number := anchors.numbers.length
      let others := anchors.numbers.filter fun entry => entry.1 != name
      ⟨(name, number) :: others, (number, step) :: anchors.targets⟩

/-- The step that a number stands for. -/
def Anchors.target? (anchors : Anchors) (number : Nat) : Option Nat :=
  (anchors.targets.find? fun entry => entry.1 == number).map Prod.snd

/-- A document as numbered steps. -/
structure Steps where
  list : Array Step
  anchors : Anchors

/-- The document without steps. -/
def Steps.empty : Steps := ⟨#[], ⟨[], []⟩⟩

/-- Adds a step. -/
def Steps.add (steps : Steps) (anchor : Option String) (step : Step) : Steps :=
  let anchors := steps.anchors.note anchor steps.list.size
  ⟨steps.list.push step, anchors⟩

/-- Adds an event of the document. An alias has to follow its anchor. -/
def Steps.addEvent? (steps : Steps) : Event → Option Steps
  | .documentStart | .documentEnd => none
  | .alias name =>
      (steps.anchors.number? name).map fun number => steps.add none (.alias number)
  | .scalar properties plain text =>
      some (steps.add properties.anchor (.scalar properties.tag plain text))
  | .sequenceStart properties =>
      some (steps.add properties.anchor (.sequenceStart properties.tag))
  | .sequenceEnd => some (steps.add none .sequenceEnd)
  | .mappingStart properties =>
      some (steps.add properties.anchor (.mappingStart properties.tag))
  | .mappingEnd => some (steps.add none .mappingEnd)

/-- The place in a document up to which nodes were read, and the number of
repetitions that are left. -/
structure Progress where
  step : Nat
  repeats : Nat
deriving DecidableEq, Repr

/-- The greatest number of open sequences and mappings. -/
def depthLimit : Nat := 128

/-- How many repetitions a document may ask for, for each of its steps. -/
def repeatsPerStep : Nat := 100

/-- The step at a place, or the one that an alias there repeats, with its place. -/
def target? (steps : Steps) (progress : Progress) : Option (Step × Progress) :=
  match steps.list[progress.step]? with
  | some (.alias number) =>
      if progress.repeats = 0 then none
      else do
        let place ← steps.anchors.target? number
        (steps.list[place]?).map fun step => (step, ⟨place, progress.repeats - 1⟩)
  | some step => some (step, progress)
  | none => none

/-- Reads the items of a sequence up to its end, put after those that are done,
newest first. Each takes at least one step. -/
def items? (steps : Steps) (read : Progress → Option (Node × Progress)) :
    Nat → Progress → List Node → Option (List Node × Progress)
  | 0, _, _ => none
  | fuel + 1, progress, done =>
      if steps.list[progress.step]? = some .sequenceEnd then
        some (done.reverse, { progress with step := progress.step + 1 })
      else
        match read progress with
        | some (item, next) => items? steps read fuel next (item :: done)
        | none => none

/-- Reads the members of a mapping up to its end, put after those that are done,
newest first. Each takes at least two steps. -/
def members? (steps : Steps) (read : Progress → Option (Node × Progress)) :
    Nat → Progress → List (Node × Node) → Option (List (Node × Node) × Progress)
  | 0, _, _ => none
  | fuel + 1, progress, done =>
      if steps.list[progress.step]? = some .mappingEnd then
        some (done.reverse, { progress with step := progress.step + 1 })
      else
        match read progress with
        | none => none
        | some (name, afterName) =>
            match read afterName with
            | some (value, next) => members? steps read fuel next ((name, value) :: done)
            | none => none

/-- Reads one node. After an alias reading goes on behind the alias, whatever it
repeats. -/
def read? (steps : Steps) : Nat → Progress → Option (Node × Progress)
  | depth, progress =>
      match target? steps progress with
      | none => none
      | some (step, start) =>
          let inside : Progress := { start with step := start.step + 1 }
          let resume (found : Progress) : Progress :=
            if start = progress then found else ⟨progress.step + 1, found.repeats⟩
          match step, depth with
          | .scalar tag plain text, _ => some (.scalar tag plain text, resume inside)
          | .sequenceStart tag, depth + 1 =>
              (items? steps (read? steps depth) steps.list.size inside []).map fun found =>
                (.sequence tag found.1, resume found.2)
          | .mappingStart tag, depth + 1 =>
              (members? steps (read? steps depth) steps.list.size inside []).map fun found =>
                (.mapping tag found.1, resume found.2)
          | _, _ => none

/-- Whether an event marks a document. -/
def marksDocument : Event → Bool
  | .documentStart | .documentEnd => true
  | _ => false

/-- The tree of a list of events with at most one document. -/
def ofEvents? : List Event → Option Node
  | [] => some .nothing
  | .documentStart :: rest => do
      let content := rest.takeWhile fun event => !marksDocument event
      if rest.drop content.length = [.documentEnd] then
        let steps ← content.foldlM Steps.addEvent? Steps.empty
        let (node, _) ← read? steps depthLimit ⟨0, repeatsPerStep * steps.list.size⟩
        some node
      else none
  | _ => none

/-- The tree of a text. -/
def ofText? (text : List Char) : Option Node := do
  ofEvents? (← Event.ofTokens? (← Token.ofText? text))

end Node

end CallPolicy.Yaml
