import CallPolicy.Proofs.Checks
import CallPolicy.Proofs.Cleaning
import CallPolicy.Proofs.Utf8

/-!
Contract: what the segments of a request path are.

Owns:
- lexical resolution by rules on lists of segments, and its agreement with the fold over a
  stack;
- the texts that raw segments stand for, and the raw segments that stand for none;
- the ways of writing a text with escapes, and reading of paths that are written in any of
  them.

Does not own: which paths are equal in this sense, and what they are matched with.

## Rules in place of a stack

The fold keeps a stack and looks at each raw segment once. The rules speak of the whole list:
each takes away segments that together mean nothing, in any order, until only names are left.
They determine the result, so it does not depend on the order in which they are applied.
-/

namespace CallPolicy

namespace Text

/-! ### Raw pieces -/

section Pieces

universe u

variable {α : Type u} [DecidableEq α] {separator : α}

/-- The pieces are what separators join to the whole. -/
theorem intercalate_splitOn (separator : α) (items : List α) :
    [separator].intercalate (splitOn separator items) = items := by
  induction items with
  | nil => rfl
  | cons item rest inductionHypothesis =>
      obtain ⟨piece, pieces, restPieces⟩ :=
        List.exists_cons_of_ne_nil (splitOn_ne_nil separator rest)
      rw [restPieces] at inductionHypothesis
      by_cases same : item = separator
      · subst same
        rw [splitOn_cons_separator, restPieces, List.intercalate_cons_cons, inductionHypothesis]
        rfl
      · rw [splitOn_cons_other same restPieces]
        cases pieces with
        | nil => simpa [List.intercalate] using inductionHypothesis
        | cons next others =>
            rw [List.intercalate_cons_cons] at inductionHypothesis ⊢
            rw [List.cons_append, List.cons_append, inductionHypothesis]

theorem mem_of_mem_splitOn {item : α} {items piece : List α}
    (isPiece : piece ∈ splitOn separator items) (member : item ∈ piece) : item ∈ items := by
  induction items generalizing piece with
  | nil =>
      rw [splitOn_nil, List.mem_singleton] at isPiece
      exact isPiece ▸ member
  | cons first rest inductionHypothesis =>
      by_cases same : first = separator
      · subst same
        rw [splitOn_cons_separator] at isPiece
        rcases List.mem_cons.mp isPiece with rfl | inRest
        · cases member
        · exact List.mem_cons_of_mem _ (inductionHypothesis inRest member)
      · obtain ⟨next, others, restPieces⟩ :=
          List.exists_cons_of_ne_nil (splitOn_ne_nil separator rest)
        rw [splitOn_cons_other same restPieces] at isPiece
        rw [restPieces] at inductionHypothesis
        rcases List.mem_cons.mp isPiece with rfl | inOthers
        · rcases List.mem_cons.mp member with rfl | inNext
          · exact List.mem_cons_self
          · exact List.mem_cons_of_mem _ (inductionHypothesis List.mem_cons_self inNext)
        · exact List.mem_cons_of_mem _
            (inductionHypothesis (List.mem_cons_of_mem _ inOthers) member)

end Pieces

/-! ### Texts written with escapes -/

namespace Percent

/-- A way of writing a text: each character as it is, unless it is a percent sign, or as the
escapes of all its bytes. -/
inductive Writes : List Char → List Char → Prop where
  | nil : Writes [] []
  | literal {char : Char} {rest others : List Char} (noSign : char ≠ '%')
      (later : Writes rest others) : Writes (char :: rest) (char :: others)
  | escaped {char : Char} {rest spelling others : List Char}
      (spelled : Spells (String.utf8EncodeChar char) spelling) (later : Writes rest others) :
      Writes (char :: rest) (spelling ++ others)

theorem escapeAt?_of_no_sign {char : Char} (noSign : char ≠ '%') (rest : List Char) :
    escapeAt? (char :: rest) = none := by
  unfold escapeAt?
  split
  · rename_i same
    rw [if_neg ((List.cons.inj same).1 ▸ noSign)]
  · rfl

/-- What is written stands for the bytes of the text. -/
theorem Writes.octets_eq {text written : List Char} (writes : Writes text written) :
    octets written = Utf8.encode text := by
  induction writes with
  | nil => rfl
  | literal noSign _ inductionHypothesis =>
      rw [octets_cons (escapeAt?_of_no_sign noSign _), inductionHypothesis, Utf8.encode_cons]
  | escaped spelled _ inductionHypothesis =>
      rw [octets_spells spelled, inductionHypothesis, Utf8.encode_cons]

theorem Writes.slash_not_mem {text written : List Char} (writes : Writes text written)
    (noSlash : '/' ∉ text) : '/' ∉ written := by
  induction writes with
  | nil => exact noSlash
  | literal _ _ inductionHypothesis =>
      rw [List.mem_cons, not_or] at noSlash ⊢
      exact ⟨noSlash.1, inductionHypothesis noSlash.2⟩
  | escaped spelled _ inductionHypothesis =>
      rw [List.mem_cons, not_or] at noSlash
      rw [List.mem_append, not_or]
      exact ⟨Path.slash_not_mem_spells spelled, inductionHypothesis noSlash.2⟩

/-- A text without percent signs is a way of writing itself. -/
theorem writes_self {text : List Char} (noSign : '%' ∉ text) : Writes text text := by
  induction text with
  | nil => exact .nil
  | cons char rest inductionHypothesis =>
      rw [List.mem_cons, not_or] at noSign
      exact .literal (Ne.symm noSign.1) (inductionHypothesis noSign.2)

end Percent

end Text

namespace Path

open Text.Percent (octets Writes)

/-! ### Rules of resolution -/

/-- A list of segments resolves to a list of names: names resolve to themselves, an empty
segment and a dot are dropped, two dots are dropped with the name in front of them, and two
dots at the root are dropped alone. -/
inductive Resolves : List String → List String → Prop where
  | names {segments : List String} (plain : ∀ segment ∈ segments, segment ∉ ["", ".", ".."]) :
      Resolves segments segments
  | blank {before after names : List String} {segment : String}
      (blank : segment = "" ∨ segment = ".") (rest : Resolves (before ++ after) names) :
      Resolves (before ++ segment :: after) names
  | back {before after names : List String} {segment : String}
      (plain : segment ∉ ["", ".", ".."]) (rest : Resolves (before ++ after) names) :
      Resolves (before ++ segment :: ".." :: after) names
  | root {after names : List String} (rest : Resolves after names) :
      Resolves (".." :: after) names

theorem Resolves.resolve_eq {segments names : List String} (resolves : Resolves segments names) :
    resolve segments = names := by
  induction resolves with
  | names plain => exact resolve_of_plain plain
  | blank blank _ inductionHypothesis =>
      rw [← inductionHypothesis, resolve, resolve, List.foldl_append, List.foldl_append,
        List.foldl_cons, push_blank blank]
  | back plain _ inductionHypothesis =>
      rw [← inductionHypothesis, resolve, resolve, List.foldl_append, List.foldl_append,
        List.foldl_cons, List.foldl_cons, push_detour plain]
  | root _ inductionHypothesis => exact inductionHypothesis

/-- Every list resolves: the first segment that is no name can be taken away, alone or with
the name in front of it. -/
theorem exists_resolves (segments : List String) : ∃ names, Resolves segments names := by
  cases found : segments.find? (· ∈ ["", ".", ".."]) with
  | none =>
      refine ⟨segments, .names fun segment member => ?_⟩
      simpa using List.find?_eq_none.mp found segment member
  | some segment =>
      obtain ⟨isSpecial, before, after, cut, plain⟩ := List.find?_eq_some_iff_append.mp found
      have shorter : (before ++ after).length < segments.length := by
        simp [cut]
      rw [decide_eq_true_eq, List.mem_cons, List.mem_cons, List.mem_singleton] at isSpecial
      rcases isSpecial with isBlank | isBlank | rfl
      · obtain ⟨names, rest⟩ := exists_resolves (before ++ after)
        exact ⟨names, cut ▸ .blank (Or.inl isBlank) rest⟩
      · obtain ⟨names, rest⟩ := exists_resolves (before ++ after)
        exact ⟨names, cut ▸ .blank (Or.inr isBlank) rest⟩
      · rcases List.eq_nil_or_concat before with rfl | ⟨earlier, name, rfl⟩
        · obtain ⟨names, rest⟩ := exists_resolves after
          exact ⟨names, cut ▸ .root rest⟩
        · obtain ⟨names, rest⟩ := exists_resolves (earlier ++ after)
          have isName : name ∉ ["", ".", ".."] := by
            simpa using plain name (by simp)
          rw [List.concat_eq_append, List.append_assoc, List.singleton_append] at cut
          exact ⟨names, cut ▸ .back isName rest⟩
termination_by segments.length

theorem resolve_eq_iff {segments names : List String} :
    resolve segments = names ↔ Resolves segments names := by
  refine ⟨fun same => ?_, Resolves.resolve_eq⟩
  obtain ⟨found, resolves⟩ := exists_resolves segments
  rwa [← same, resolves.resolve_eq]

/-! ### Raw segments -/

/-- The raw segment stands for no text: its bytes are none, or they hide a slash. -/
def Unreadable (raw : String) : Prop :=
  ¬ Text.Utf8.IsText (octets raw.toList) ∨ 0x2F ∈ octets raw.toList

instance (raw : String) : Decidable (Unreadable raw) := by
  unfold Unreadable
  infer_instance

/-- The raw segment stands for the text: its bytes are those of the text, in which no slash
is hidden. -/
structure StandsFor (raw text : String) : Prop where
  bytes : Text.Utf8.bytes text = octets raw.toList
  noSlash : '/' ∉ text.toList

theorem slash_mem_encode_iff {text : List Char} :
    0x2F ∈ Text.Utf8.encode text ↔ '/' ∈ text := by
  refine ⟨fun member => Text.Utf8.mem_of_mem_encode (by decide) member, fun member => ?_⟩
  exact List.mem_flatMap.mpr ⟨'/', member, by decide⟩

theorem decodeSegment?_eq_some_iff {raw text : String} :
    decodeSegment? raw = some text ↔ StandsFor raw text := by
  constructor
  · intro decoded
    obtain ⟨chars, isText, kept⟩ := Option.bind_eq_some_iff.mp decoded
    split at kept
    · cases kept
    · rename_i noSlash
      obtain rfl := Option.some.inj kept
      refine ⟨?_, by simpa using noSlash⟩
      rw [Text.Utf8.bytes, String.toList_ofList]
      exact Text.Utf8.encode_of_decode? isText
  · rintro ⟨bytes, noSlash⟩
    refine Option.bind_eq_some_iff.mpr ⟨text.toList, ?_, ?_⟩
    · exact Text.Utf8.decode?_eq_some_iff.mpr bytes
    · rw [if_neg (by simpa using noSlash), String.ofList_toList]

theorem standsFor_or_unreadable (raw : String) :
    (∃ text, StandsFor raw text) ∨ Unreadable raw := by
  by_cases isText : Text.Utf8.IsText (octets raw.toList)
  · by_cases hidden : 0x2F ∈ octets raw.toList
    · exact Or.inr (Or.inr hidden)
    · obtain ⟨text, bytes⟩ := isText
      refine Or.inl ⟨String.ofList text, ?_, ?_⟩
      · rw [Text.Utf8.bytes, String.toList_ofList, bytes]
      · rwa [String.toList_ofList, ← slash_mem_encode_iff, bytes]
  · exact Or.inr (Or.inl isText)

theorem StandsFor.not_unreadable {raw text : String} (stands : StandsFor raw text) :
    ¬ Unreadable raw := by
  unfold Unreadable
  rw [← stands.bytes, Text.Utf8.bytes, slash_mem_encode_iff, not_or, not_not]
  exact ⟨⟨_, rfl⟩, stands.noSlash⟩

theorem decodeSegment?_eq_none_iff {raw : String} :
    decodeSegment? raw = none ↔ Unreadable raw := by
  simp only [Option.eq_none_iff_forall_ne_some, ne_eq, decodeSegment?_eq_some_iff, ← not_exists]
  constructor
  · exact (standsFor_or_unreadable raw).resolve_left
  · rintro unreadable ⟨text, stands⟩
    exact stands.not_unreadable unreadable

/-- A raw segment stands for the text that it writes. -/
theorem StandsFor.of_writes {text raw : String} (writes : Writes text.toList raw.toList)
    (noSlash : '/' ∉ text.toList) : StandsFor raw text :=
  ⟨writes.octets_eq.symm, noSlash⟩

/-! ### Paths -/

theorem intercalate_rawSegments (path : String) : "/".intercalate (rawSegments path) = path := by
  rw [← String.toList_inj, String.toList_intercalate, rawSegments, List.map_map]
  simpa [Function.comp_def] using Text.intercalate_splitOn '/' path.toList

theorem slash_not_mem_of_mem_rawSegments {path raw : String} (isRaw : raw ∈ rawSegments path) :
    '/' ∉ raw.toList := by
  obtain ⟨piece, isPiece, rfl⟩ := List.mem_map.mp isRaw
  rw [String.toList_ofList]
  exact Text.not_mem_of_mem_splitOn isPiece

theorem mem_of_mem_rawSegments {path raw : String} (isRaw : raw ∈ rawSegments path) {char : Char}
    (member : char ∈ raw.toList) : char ∈ path.toList := by
  obtain ⟨piece, isPiece, rfl⟩ := List.mem_map.mp isRaw
  rw [String.toList_ofList] at member
  exact Text.mem_of_mem_splitOn isPiece member

theorem ofRequest?_eq_none_iff {path : String} :
    ofRequest? path = none ↔ ∃ raw ∈ rawSegments path, Unreadable raw := by
  simp only [ofRequest?, Option.map_eq_none_iff, Checks.mapM_eq_none_iff,
    decodeSegment?_eq_none_iff]

theorem ofRequest?_eq_some_iff {path : String} {segments : List String} :
    ofRequest? path = some segments ↔
      ∃ texts, List.Forall₂ StandsFor (rawSegments path) texts ∧ Resolves texts segments := by
  simp only [ofRequest?, Option.map_eq_some_iff, Checks.mapM_eq_some_iff,
    decodeSegment?_eq_some_iff, resolve_eq_iff]

theorem named_of_mem_ofRequest? {path : String} {segments : List String}
    (read : ofRequest? path = some segments) {segment : String} (member : segment ∈ segments) :
    Named segment := by
  obtain ⟨texts, stand, resolves⟩ := ofRequest?_eq_some_iff.mp read
  rw [← resolves.resolve_eq] at member
  obtain ⟨isText, plain⟩ := mem_resolve member
  obtain ⟨index, bound, rfl⟩ := List.getElem_of_mem isText
  exact ⟨plain, (stand.get (stand.length_eq ▸ bound) bound).noSlash⟩

/-- Without percent signs there is nothing to decode. -/
theorem ofRequest?_of_no_sign {path : String} (noSign : '%' ∉ path.toList) :
    ofRequest? path = some (clean path) := by
  refine ofRequest?_eq_some_iff.mpr ⟨rawSegments path, ?_, resolve_eq_iff.mp rfl⟩
  rw [List.forall₂_same]
  intro raw isRaw
  have rawNoSign : '%' ∉ raw.toList := fun member => noSign (mem_of_mem_rawSegments isRaw member)
  exact .of_writes (Text.Percent.writes_self rawNoSign) (slash_not_mem_of_mem_rawSegments isRaw)

/-- The raw segment is a way of writing the segment. -/
def WritesSegment (segment raw : String) : Prop :=
  Writes segment.toList raw.toList

/-- Names that are written without slashes stay without them, and are stood for. -/
theorem standsFor_of_writes {segments written : List String}
    (named : ∀ segment ∈ segments, Named segment)
    (writes : List.Forall₂ WritesSegment segments written) :
    List.Forall₂ StandsFor written segments ∧ ∀ raw ∈ written, '/' ∉ raw.toList := by
  induction writes with
  | nil => exact ⟨.nil, nofun⟩
  | cons first _ inductionHypothesis =>
      obtain ⟨firstNamed, othersNamed⟩ := List.forall_mem_cons.mp named
      obtain ⟨stand, noSlash⟩ := inductionHypothesis othersNamed
      exact ⟨.cons (.of_writes first firstNamed.noSlash) stand,
        List.forall_mem_cons.mpr ⟨first.slash_not_mem firstNamed.noSlash, noSlash⟩⟩

/-- Names are got back from a path in which each is written in some way. -/
theorem ofRequest?_written {segments written : List String}
    (named : ∀ segment ∈ segments, Named segment)
    (writes : List.Forall₂ WritesSegment segments written) :
    ofRequest? ("/" ++ "/".intercalate written) = some segments := by
  obtain ⟨stand, noSlash⟩ := standsFor_of_writes named writes
  cases writes with
  | nil => decide +kernel
  | cons first others =>
      have root : StandsFor "" "" := .of_writes .nil List.not_mem_nil
      rw [ofRequest?_eq_some_iff, rawSegments_rooted (List.cons_ne_nil _ _) noSlash]
      -- The path begins with an empty segment, which is dropped.
      exact ⟨_, .cons root stand, @Resolves.blank [] _ _ _ (Or.inl rfl)
        (.names fun segment member => (named segment member).plain)⟩

/-- Request paths are read exactly, or refused. A path is refused when one of the raw segments
between its slashes stands for bytes that are no text or hide a slash; else its segments are
what the texts of the raw segments resolve to. They are names without slashes. A path without
percent signs has the segments that it has when it is taken literally, and every list of names
is got back from each way of writing it. -/
theorem ofRequest?_exact (path : String) :
    "/".intercalate (rawSegments path) = path ∧
      (∀ raw ∈ rawSegments path, '/' ∉ raw.toList) ∧
      (ofRequest? path = none ↔ ∃ raw ∈ rawSegments path, Unreadable raw) ∧
      (∀ segments, ofRequest? path = some segments ↔
        ∃ texts, List.Forall₂ StandsFor (rawSegments path) texts ∧ Resolves texts segments) ∧
      (∀ segments, ofRequest? path = some segments → ∀ segment ∈ segments, Named segment) ∧
      ('%' ∉ path.toList → ofRequest? path = some (clean path)) ∧
      ∀ segments written, (∀ segment ∈ segments, Named segment) →
        List.Forall₂ WritesSegment segments written →
          ofRequest? ("/" ++ "/".intercalate written) = some segments :=
  ⟨intercalate_rawSegments path, fun _ => slash_not_mem_of_mem_rawSegments,
    ofRequest?_eq_none_iff, fun _ => ofRequest?_eq_some_iff,
    fun _ read _ => named_of_mem_ofRequest? read, ofRequest?_of_no_sign,
    fun _ _ => ofRequest?_written⟩

namespace ResolutionSample

/-- A name with a percent sign, next to a letter that is written as an escape. -/
theorem writes : List.Forall₂ WritesSegment ["a", "%2"] ["%61", "%252"] := by
  have letter : Writes "a".toList "%61".toList :=
    @Writes.escaped 'a' [] "%61".toList [] (.cons (by decide) .nil) .nil
  have percent : Writes "%2".toList "%252".toList :=
    @Writes.escaped '%' ['2'] "%25".toList ['2'] (.cons (by decide) .nil)
      (.literal (by decide) .nil)
  exact .cons letter (.cons percent .nil)

end ResolutionSample

theorem ofRequest?_exact_sample :
    ofRequest? "/a/..%2Fb" = none ∧
      ofRequest? "/../a/./b/../c" = some (clean "/../a/./b/../c") ∧
      ofRequest? ("/" ++ "/".intercalate ["%61", "%252"]) = some ["a", "%2"] ∧
      ∃ texts, List.Forall₂ StandsFor (rawSegments "/%2e%2e/a") texts ∧ Resolves texts ["a"] := by
  obtain ⟨_, _, refused, _⟩ := ofRequest?_exact "/a/..%2Fb"
  obtain ⟨_, _, _, _, _, literal, written⟩ := ofRequest?_exact "/../a/./b/../c"
  obtain ⟨_, _, _, read, named, _⟩ := ofRequest?_exact "/%2e%2e/a"
  have segments : ofRequest? "/%2e%2e/a" = some ["a"] := by decide +kernel
  refine ⟨refused.mpr ⟨"..%2Fb", by decide +kernel, by decide +kernel⟩, literal (by decide),
    written _ _ (fun segment member => ?_) ResolutionSample.writes, (read _).mp segments⟩
  rcases List.mem_cons.mp member with rfl | isOther
  · exact named _ segments _ List.mem_cons_self
  · obtain rfl := List.mem_singleton.mp isOther
    exact ⟨by decide, by decide⟩

end Path

end CallPolicy
