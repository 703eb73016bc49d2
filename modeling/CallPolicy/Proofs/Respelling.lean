import CallPolicy.Engine
import CallPolicy.Proofs.Segments
import Mathlib.Logic.Relation

/-!
Contract: other spellings of a request path.

Owns:
- the steps by which a path is spelled in another way;
- that respelling keeps the segments of a request, and with them every decision up to
  the path that a refusal quotes.

Does not own: which spellings a server accepts.
-/

namespace CallPolicy

/-! ### Steps -/

namespace Path

open Text.Percent

/-- One step that spells a path in another way: a character outside escapes is written
as escapes of its bytes, the digits of an escape are written in another case, a segment
that means nothing is inserted, or a segment is inserted with one that takes it back. -/
inductive Respells : String → String → Prop where
  | escape {before after text : List Char} {char : Char} (notSlash : char ≠ '/')
      (outside : ¬ InsideEscape before (char :: after))
      (spelled : Spells (String.utf8EncodeChar char) text) :
      Respells (String.ofList (before ++ [char] ++ after))
        (String.ofList (before ++ text ++ after))
  | recase {before after : List Char} {high low otherHigh otherLow : Char} {byte : UInt8}
      (digits : digits? high low = some byte)
      (otherDigits : digits? otherHigh otherLow = some byte) :
      Respells (String.ofList (before ++ ['%', high, low] ++ after))
        (String.ofList (before ++ ['%', otherHigh, otherLow] ++ after))
  | blank {path spelled segment : String} {before after : List String}
      (pathSegments : rawSegments path = before ++ after)
      (spelledSegments : rawSegments spelled = before ++ [segment] ++ after)
      (blank : segment = "" ∨ decodeSegment? segment = some ".") :
      Respells path spelled
  | detour {path spelled enter back text : String} {before after : List String}
      (pathSegments : rawSegments path = before ++ after)
      (spelledSegments : rawSegments spelled = before ++ [enter, back] ++ after)
      (entered : decodeSegment? enter = some text) (named : text ∉ ["", ".", ".."])
      (returned : decodeSegment? back = some "..") :
      Respells path spelled

end Path

/-- A refusal that quotes another path. -/
def Refusal.withPath (path : String) : Refusal → Refusal
  | .forbidden caller method _ => .forbidden caller method path
  | .undecodable caller _ => .undecodable caller path

/-- A decision that quotes another path, if it quotes one. -/
def Decision.withPath (path : String) : Decision → Decision
  | .denied refusal => .denied (refusal.withPath path)
  | decision => decision

/-! ### Segments -/

namespace Path

open Text.Percent

theorem slash_not_mem_escape {high low : Char} {byte : UInt8}
    (digits : digits? high low = some byte) : '/' ∉ ['%', high, low] :=
  slash_not_mem_spells (.cons digits .nil)

/-- Bytes spelled as escapes stand for themselves wherever they are. -/
theorem octets_between {near text close : List Char} {bytes : List UInt8}
    (spelled : Spells bytes text) (apart : Apart near (text ++ close)) :
    octets (near ++ text ++ close) = octets near ++ (bytes ++ octets close) := by
  rw [List.append_assoc, octets_append apart, octets_spells spelled]

theorem apart_spells {bytes : List UInt8} {text : List Char} (spelled : Spells bytes text)
    (some : bytes ≠ []) (before after : List Char) : Apart before (text ++ after) := by
  cases spelled with
  | nil => exact absurd rfl some
  | cons _ _ => exact apart_sign _ _

/-- One step keeps the segments of a request. -/
theorem ofRequest?_of_respells {path spelled : String} (step : Respells path spelled) :
    ofRequest? spelled = ofRequest? path := by
  cases step with
  | escape notSlash outside written =>
      rename_i before after text char
      refine (ofRequest?_congr ?_ (slash_not_mem_spells written) ?_).symm
      · simpa using Ne.symm notSlash
      · intro start near close stop cutBefore cutAfter
        subst cutBefore cutAfter
        -- The place lies outside every escape of the whole path, and an escape of the
        -- segment is one of the path.
        have plain : escapeAt? (char :: close) = none := escapeAt?_of_outside outside
        have apart : Apart near (char :: close) := apart_of_outside outside
        rw [octets_between written (apart_spells written String.utf8EncodeChar_ne_nil near close),
          List.append_assoc, List.singleton_append, octets_append apart, octets_cons plain]
  | recase digits otherDigits =>
      refine ofRequest?_congr (slash_not_mem_escape otherDigits) (slash_not_mem_escape digits) ?_
      intro start near close stop _ _
      have one : ∀ {high low byte}, digits? high low = some byte →
          octets (near ++ ['%', high, low] ++ close) = octets near ++ ([byte] ++ octets close) :=
        fun digits => octets_between (.cons digits .nil) (apart_sign _ _)
      rw [one digits, one otherDigits]
  | blank pathSegments spelledSegments blank =>
      rename_i segment before after
      obtain ⟨text, decoded, isBlank⟩ : ∃ text, decodeSegment? segment = some text ∧
          (text = "" ∨ text = ".") := by
        rcases blank with rfl | dot
        · exact ⟨"", decodeSegment?_empty, Or.inl rfl⟩
        · exact ⟨".", dot, Or.inr rfl⟩
      have texts : [segment].mapM decodeSegment? = some [text] := by
        simp [decoded]
      exact ofRequest?_insert pathSegments spelledSegments texts (push_blank isBlank)
  | detour pathSegments spelledSegments entered named returned =>
      rename_i enter back text before after
      have texts : [enter, back].mapM decodeSegment? = some [text, ".."] := by
        simp [entered, returned]
      exact ofRequest?_insert pathSegments spelledSegments texts (push_detour named)

/-- Any number of steps keep the segments of a request. -/
theorem ofRequest?_of_respelled {path spelled : String}
    (chain : Relation.ReflTransGen Respells path spelled) :
    ofRequest? spelled = ofRequest? path := by
  induction chain with
  | refl => rfl
  | tail _ step inductionHypothesis =>
      exact (ofRequest?_of_respells step).trans inductionHypothesis

end Path

/-! ### Decisions -/

/-- Whether a request meets a constraint does not depend on its path. -/
theorem Constraint.met_withPath (constraint : Constraint) (head : RequestHead) (path : String)
    (body : Body) : constraint.met { head with path } body = constraint.met head body := rfl

theorem Allowlist.find?_withPath (allowlist : Allowlist) (integration caller method : String)
    {path spelled : String} (same : Path.ofRequest? spelled = Path.ofRequest? path) :
    allowlist.find? integration caller spelled method =
      allowlist.find? integration caller path method := by
  rw [find?, find?, same]

theorem Denylist.anyMet_withPath (head : RequestHead) (path : String) (segments : List String)
    (method : String) (body : Body) (rules : List Rule) :
    anyMet { head with path } segments method body rules =
      anyMet head segments method body rules := by
  induction rules generalizing body with
  | nil => rfl
  | cons rule rest inductionHypothesis =>
      simp only [anyMet, Constraint.met_withPath, inductionHypothesis]

/-- With the same segments the same requests are refused, and the refusal quotes the
path of the request. -/
theorem Denylist.refusal?_withPath (denylist : Denylist) (integration caller : String)
    (head : RequestHead) {path spelled : String}
    (same : Path.ofRequest? spelled = Path.ofRequest? path) (body : Body) :
    denylist.refusal? integration caller { head with path := spelled } body =
      ((denylist.refusal? integration caller { head with path } body).1.map
          (Refusal.withPath spelled),
        (denylist.refusal? integration caller { head with path } body).2) := by
  unfold refusal?
  simp only [same, anyMet_withPath]
  cases denylist.get? (integrationKey integration) with
  | none => rfl
  | some index =>
      cases empty : index.isEmpty with
      | true => simp [empty]
      | false =>
          simp only [empty]
          cases Path.ofRequest? path with
          | none => rfl
          | some segments =>
              simp only []
              cases anyMet head segments (Text.Ascii.upper head.method) body
                  ((concerned (callerKey caller)).flatMap (rulesOf index)) with
              | mk refused looked => cases refused <;> rfl

/-- Respelling a path changes neither its segments nor any decision, except for the path
that a refusal quotes. -/
theorem Engine.authorize_respelled {path spelled : String}
    (chain : Relation.ReflTransGen Path.Respells path spelled) :
    Path.ofRequest? spelled = Path.ofRequest? path ∧
      ∀ (engine : Engine) (integration caller : String) (head : RequestHead) (body : Body),
        engine.authorize integration caller { head with path := spelled } body =
          ((engine.authorize integration caller { head with path } body).1.withPath spelled,
            (engine.authorize integration caller { head with path } body).2) := by
  have same := Path.ofRequest?_of_respelled chain
  refine ⟨same, fun engine integration caller head body => ?_⟩
  unfold authorize
  simp only [Allowlist.find?_withPath engine.allowlist integration caller head.method same,
    Constraint.met_withPath]
  cases engine.allowlist.find? integration caller path head.method with
  | none => rfl
  | some constraint =>
      simp only []
      cases constraint.met head body with
      | mk isMet looked =>
          cases isMet with
          | false => rfl
          | true =>
              simp only [Denylist.refusal?_withPath engine.denylist integration caller head same]
              cases engine.denylist.refusal? integration caller { head with path } looked with
              | mk refusal seen => cases refusal <;> rfl

namespace RespellingSample

/-- One step of each kind. -/
theorem chain : Relation.ReflTransGen Path.Respells "/repos/é" "/repos/%2E/up/%2e./%c3%A9" := by
  have escaped : Path.Respells "/repos/é" "/repos/%C3%A9" :=
    @Path.Respells.escape "/repos/".toList [] "%C3%A9".toList 'é' (by decide) (by decide)
      (.cons (by decide) (.cons (by decide) .nil))
  have recased : Path.Respells "/repos/%C3%A9" "/repos/%c3%A9" :=
    @Path.Respells.recase "/repos/".toList "%A9".toList 'C' '3' 'c' '3' 0xC3 (by decide) (by decide)
  have blank : Path.Respells "/repos/%c3%A9" "/repos/%2E/%c3%A9" :=
    @Path.Respells.blank _ _ "%2E" ["", "repos"] ["%c3%A9"] (by decide +kernel) (by decide +kernel)
      (Or.inr (by decide +kernel))
  have detour : Path.Respells "/repos/%2E/%c3%A9" "/repos/%2E/up/%2e./%c3%A9" :=
    @Path.Respells.detour _ _ "up" "%2e." "up" ["", "repos", "%2E"] ["%c3%A9"] (by decide +kernel)
      (by decide +kernel) (by decide +kernel) (by decide) (by decide +kernel)
  exact .tail (.tail (.tail (.single escaped) recased) blank) detour

end RespellingSample

theorem Engine.authorize_respelled_sample :
    Path.ofRequest? "/repos/é" = some ["repos", "é"] ∧
      Path.ofRequest? "/repos/%2E/up/%2e./%c3%A9" = some ["repos", "é"] := by
  have readable : Path.ofRequest? "/repos/é" = some ["repos", "é"] := by decide +kernel
  exact ⟨readable, (authorize_respelled RespellingSample.chain).1.trans readable⟩

end CallPolicy
