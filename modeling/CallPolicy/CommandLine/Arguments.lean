import CallPolicy.Config.Sources

/-!
Contract: the arguments of the command line.

Owns:
- the commands with their options;
- the grammar of arguments: which options a command has, which of them take a
  value, may be repeated, or are needed;
- what comes of arguments that are not accepted.

Does not own: what the commands do.
-/

namespace CallPolicy.CommandLine

/-- The documents that a command is pointed to. -/
structure DocumentPaths where
  allowlist : Option String
  denylist : Option String
deriving DecidableEq, Repr

/-- The request of a check, as it is written. -/
structure CheckRequest where
  integration : String
  caller : String
  method : String
  path : String
  headers : List String
  contentType : Option String
  body : Option String
  bodyFile : Option String
  maxBodyBytes : Option Nat
deriving DecidableEq, Repr

/-- A command. -/
inductive Command where
  | lint (paths : DocumentPaths)
  | check (paths : DocumentPaths) (request : CheckRequest)
  | capabilities (integration : Option String) (json : Bool)
deriving DecidableEq, Repr

/-- An accepted command line: the command, and the file that holds the
configuration if one is given. -/
structure Invocation where
  config : Option String
  command : Command
deriving DecidableEq, Repr

/-- What arguments ask for when they ask for no command. -/
inductive Refusal where
  | rejected
  | nothingAsked
  | help
  | version
deriving DecidableEq, Repr

/-- How often an option may be given, and what its value may be: a path must not be
empty, and a count has to be a number. -/
inductive OptionKind where
  | switch
  | text
  | path
  | count
  | repeatedText
deriving DecidableEq, Repr

/-- The options that are given, with their values, latest first. A switch has an
empty value. -/
abbrev Given := List (String × String)

/-- The options of some command. -/
abbrev Options := List (String × OptionKind)

/-- The option that all commands have. -/
def commonOptions : Options := [("config", .path)]

/-- The options that name documents. -/
def documentOptions : Options := [("allowlist", .path), ("denylist", .path)]

/-- The options of lint. -/
def lintOptions : Options := commonOptions ++ documentOptions

/-- The options of check. -/
def checkOptions : Options :=
  commonOptions ++ documentOptions ++
    [("integration", .text), ("caller", .text), ("method", .text), ("path", .text),
      ("header", .repeatedText), ("content-type", .text), ("body", .text),
      ("body-file", .path), ("max-body-bytes", .count)]

/-- The options of capabilities. -/
def capabilitiesOptions : Options :=
  commonOptions ++ [("integration", .text), ("json", .switch)]

/-- The kind of an option. -/
def kindOf? (options : Options) (name : String) : Option OptionKind :=
  lookupEntry name options

namespace Given

/-- The latest value of an option. -/
def value? (given : Given) (name : String) : Option String :=
  lookupEntry name given

/-- All values of an option, in order. -/
def values (given : Given) (name : String) : List String :=
  (given.filterMap fun entry => if entry.1 = name then some entry.2 else none).reverse

/-- Whether an option may have a value. -/
def accepts (kind : OptionKind) (value : String) : Bool :=
  match kind with
  | .path => !value.isEmpty
  | .count => (Config.count? value).isSome
  | _ => true

/-- Adds an option, unless it must not be repeated or have this value. -/
def add? (given : Given) (kind : OptionKind) (name value : String) : Option Given :=
  if kind != .repeatedText && (given.value? name).isSome then none
  else if accepts kind value then some ((name, value) :: given)
  else none

end Given

/-- What an argument is. -/
inductive Shape where
  | long (name : String) (value : Option String)
  | short (letters : List Char)
  | escape
  | word
deriving DecidableEq, Repr

/-- The shape of an argument. One dash alone is a word, two are an escape. -/
def Shape.of (argument : String) : Shape :=
  match argument.toList with
  | ['-', '-'] => .escape
  | '-' :: '-' :: rest =>
      match Text.cutAt '=' rest with
      | some (name, value) => .long (String.ofList name) (some (String.ofList value))
      | none => .long (String.ofList rest) none
  | '-' :: letter :: rest => .short (letter :: rest)
  | _ => .word

/-- What a group of short options asks for. Only help, and the version where it can
be asked for, have a short form. -/
def shortRefusal (versioned : Bool) : List Char → Refusal
  | 'h' :: _ => .help
  | 'V' :: _ => if versioned then .version else .rejected
  | _ => .rejected

/-- What a long option without a value asks for when it is none of the command's
own. -/
def longRefusal (versioned : Bool) (name : String) (value : Option String) : Refusal :=
  if value.isSome then .rejected
  else if name = "help" then .help
  else if name = "version" && versioned then .version
  else .rejected

/-- One step through options: the options so far with what follows them, or the end
of the options at a word or an escape. -/
inductive OptionStep where
  | more (given : Given) (rest : List String)
  | done
deriving DecidableEq, Repr

/-- Reads one option with its value. A value in an argument of its own must be a
word. -/
def readOption (options : Options) (versioned : Bool) (given : Given) (argument : String)
    (rest : List String) : Except Refusal OptionStep :=
  match Shape.of argument with
  | .word | .escape => .ok .done
  | .short letters => .error (shortRefusal versioned letters)
  | .long name value =>
      match kindOf? options name with
      | none => .error (longRefusal versioned name value)
      | some kind =>
          let accept (text : String) (after : List String) : Except Refusal OptionStep :=
            match given.add? kind name text with
            | some next => .ok (.more next after)
            | none => .error .rejected
          match kind, value, rest with
          | .switch, none, _ => accept "" rest
          | .switch, some _, _ => .error .rejected
          | _, some text, _ => accept text rest
          | _, none, next :: after =>
              if Shape.of next = .word then accept next after else .error .rejected
          | _, none, [] => .error .rejected

/-- Reads options up to the first argument that is none, of as many as there
are. -/
def readOptions (options : Options) (versioned : Bool) :
    Nat → Given → List String → Except Refusal (Given × List String)
  | 0, given, arguments => .ok (given, arguments)
  | _ + 1, given, [] => .ok (given, [])
  | fuel + 1, given, argument :: rest => do
      match ← readOption options versioned given argument rest with
      | .more next after => readOptions options versioned fuel next after
      | .done => .ok (given, argument :: rest)

/-- Reads all options of a command. Nothing but an escape may follow them. -/
def commandOptions (options : Options) (arguments : List String) : Except Refusal Given := do
  let (given, rest) ← readOptions options false arguments.length [] arguments
  match rest with
  | [] | ["--"] => .ok given
  | _ => .error .rejected

/-- The documents that options name. -/
def Given.paths (given : Given) : DocumentPaths :=
  ⟨given.value? "allowlist", given.value? "denylist"⟩

/-- The request that options describe. Integration and path are needed, and there is
at most one body. -/
def Given.request (given : Given) : Except Refusal CheckRequest := do
  let body := given.value? "body"
  let bodyFile := given.value? "body-file"
  match given.value? "integration", given.value? "path" with
  | some integration, some path =>
      if body.isSome && bodyFile.isSome then .error .rejected
      else
        .ok {
          integration, path, body, bodyFile
          caller := (given.value? "caller").getD ""
          method := (given.value? "method").getD "GET"
          headers := given.values "header"
          contentType := given.value? "content-type"
          maxBodyBytes := (given.value? "max-body-bytes").bind Config.count? }
  | _, _ => .error .rejected

/-- Reads a command with its options. -/
def readCommand (name : String) (arguments : List String) :
    Except Refusal (Option String × Command) := do
  if name = "lint" then
    let given ← commandOptions lintOptions arguments
    .ok (given.value? "config", .lint given.paths)
  else if name = "check" then
    let given ← commandOptions checkOptions arguments
    .ok (given.value? "config", .check given.paths (← given.request))
  else if name = "capabilities" then
    let given ← commandOptions capabilitiesOptions arguments
    .ok (given.value? "config",
      .capabilities (given.value? "integration") (given.value? "json").isSome)
  else if name = "help" then
    match arguments with
    | [] => .error .help
    | [topic] =>
        if ["lint", "check", "capabilities", "help"].contains topic then .error .help
        else .error .rejected
    | _ => .error .rejected
  else
    .error .rejected

/-- The file with the configuration: the one named behind the command, or before it,
or by the environment. A variable that is set must not be empty where it is looked
at. -/
def configPath (before behind environment : Option String) :
    Except Refusal (Option String) :=
  match behind, before with
  | some path, some _ => .ok (some path)
  | _, _ =>
      if environment = some "" then .error .rejected
      else .ok (behind.or (before.or environment))

/-- What is said without a command. -/
def withoutCommand (before environment : Option String) : Refusal :=
  if before.isNone && environment.isNone then .nothingAsked else .rejected

/-- Reads a whole command line, with the variable that names the configuration. -/
def readArguments (environment : Option String) (arguments : List String) :
    Except Refusal Invocation := do
  let (given, rest) ← readOptions commonOptions true arguments.length [] arguments
  let before := given.value? "config"
  match rest with
  | [] | ["--"] => .error (withoutCommand before environment)
  | name :: behind =>
      let (after, command) ← readCommand name behind
      .ok ⟨← configPath before after environment, command⟩

end CallPolicy.CommandLine
