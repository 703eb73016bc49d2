import CallPolicy.Text.Percent
import CallPolicy.Text.Split
import CallPolicy.Text.Utf8

/-!
Contract: paths as lists of segments, and patterns on them.

Owns:
- the lexical resolution of empty, `.` and `..` segments;
- the segments of a written pattern, which is taken literally;
- the segments of a request path, which is percent-decoded first;
- matching of a path against a pattern with wildcards.

Does not own: where paths and patterns come from.
-/

namespace CallPolicy.Path

/-- Adds one raw segment to the segments kept so far, newest first. -/
def push (kept : List String) (segment : String) : List String :=
  if segment = "" ∨ segment = "." then kept
  else if segment = ".." then kept.tail
  else segment :: kept

/-- Resolves raw segments: empty ones and `.` vanish, and `..` takes back the
nearest segment before it, if there is one. -/
def resolve (segments : List String) : List String :=
  (segments.foldl push []).reverse

/-- The raw segments between slashes. -/
def rawSegments (path : String) : List String :=
  (Text.splitOn '/' path.toList).map String.ofList

/-- The resolved segments of a path that is taken literally. -/
def clean (path : String) : List String :=
  resolve (rawSegments path)

/-- The one text that stands for all paths with the same resolved segments. -/
def cleanText (path : String) : String :=
  "/" ++ "/".intercalate (clean path)

/-- Decodes one raw segment. A segment whose bytes are no text or that hides a
slash is refused. -/
def decodeSegment? (raw : String) : Option String := do
  let text ← Text.Utf8.decode? (Text.Percent.decode (Text.Utf8.bytes raw))
  if text.contains '/' then none else some (String.ofList text)

/-- The resolved segments of a request path, if every raw segment can be
decoded. -/
def ofRequest? (path : String) : Option (List String) :=
  ((rawSegments path).mapM decodeSegment?).map resolve

/-- The segment of a pattern that matches any one segment. -/
def anySegment : String := "*"

/-- The segment of a pattern that matches all that is left. -/
def anyRest : String := "**"

/-- Whether a list of segments matches a pattern. -/
def matchSegments : List String → List String → Bool
  | [], path => path.isEmpty
  | head :: pattern, path =>
      if head = anyRest then true
      else
        match path with
        | [] => false
        | segment :: rest => (head == anySegment || head == segment) && matchSegments pattern rest

/-- Whether a written path matches a written pattern. -/
def matchText (pattern path : String) : Bool :=
  matchSegments (clean pattern) (clean path)

end CallPolicy.Path
