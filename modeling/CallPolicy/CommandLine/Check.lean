import CallPolicy.CommandLine.Documents
import CallPolicy.Engine

/-!
Contract: the decision about one request that is described on the command line.

Owns: how headers and body of the request are written, and the order in which
faults are found.

Does not own: the decision itself.
-/

namespace CallPolicy.CommandLine

/-- Name and value of a header that is written with a colon between them. -/
def headerPair (text : String) : Except Report (List UInt8 × List UInt8) :=
  match Text.cutAt ':' text.toList with
  | some (name, value) =>
      .ok (Text.Utf8.encode (Text.trimChars name), Text.Utf8.encode (Text.trimChars value))
  | none =>
      .error (Report.ofMessage
        ("header " ++ Text.quote text ++ " is not in \x27Name: value\x27 form"))

/-- The content type as a header. -/
def contentTypePair (contentType : String) : List UInt8 × List UInt8 :=
  (Text.Utf8.bytes "content-type", Text.Utf8.bytes contentType)

namespace CheckRequest

/-- The bytes of the body. -/
def bytes (request : CheckRequest) (files : Files) : Except Report (List UInt8) :=
  match request.body, request.bodyFile with
  | some text, _ => .ok (Text.Utf8.bytes text)
  | none, some path =>
      match files.read path with
      | .ok content => .ok content
      | .error failure =>
          .error ((Report.ofMessage failure.message).during ("reading body from " ++ path))
  | none, none => .ok []

/-- The head of the request. The content type comes after all other headers. -/
def head (request : CheckRequest) : Except Report RequestHead := do
  let headers ← request.headers.mapM headerPair
  let all := headers ++ (request.contentType.map contentTypePair).toList
  match RequestHead.build (Text.Ascii.upper request.method) request.path all with
  | .ok built => .ok built
  | .error error => .error ((Report.ofMessage error.message).during "building request")

end CheckRequest

/-- Decides about a request: the documents are read first, then the body, then the
head is built. -/
def decide (files : Files) (settings : Config.Settings) (paths : DocumentPaths)
    (request : CheckRequest) : Except Report Decision := do
  let (allowPath, denyPath) ← paths.resolve settings.policy
  let engine ←
    match (Engine.ofRegistry Registry.builtin).loadFiles files allowPath denyPath with
    | .ok engine => .ok engine
    | .error error =>
        .error ((Report.ofPolicyError error).during "loading policy documents")
  let bytes ← request.bytes files
  let head ← request.head
  let limit := request.maxBodyBytes.getD settings.policy.maxBodyBytes
  .ok (engine.authorize request.integration request.caller head (.buffered bytes limit)).1

/-- Decides about a request and writes the decision. -/
def checkRequest (files : Files) (settings : Config.Settings) (paths : DocumentPaths)
    (request : CheckRequest) : Written Decision :=
  match decide files settings paths request with
  | .error report => .fail "" report
  | .ok decision => ⟨decision.message ++ "\n", .ok decision⟩

end CallPolicy.CommandLine
