import CallPolicy.Config.Sources
import CallPolicy.Proofs.Checks
import Mathlib.Data.List.Induction
import Mathlib.Data.List.Nodup

/-!
Contract: configuration from layers, told field by field.

Owns:
- merging of layers as an associative operation, with the empty layer on either side;
- fields of layers, which answer for a stack of layers by the last layer that sets them;
- when settings are accepted;
- what the environment and the file contribute to loaded settings, and that neither the
  order of a list of sources nor variables that are set to nothing matter.

Does not own: the documents that layers are read from.

## Fields

A layer has optional sections with optional fields, and both levels are merged. Seen from
one field there is only one level: a merged layer has the value of the upper layer, or else
that of the lower one. `Field` is a way of looking at layers for which this holds, so that
what a stack of layers says is one induction for all fields.
-/

namespace CallPolicy.Config

/-! ### Merging -/

section Merging

instance : Std.Associative PolicyLayer.merge where
  assoc first second third := by
    simp only [PolicyLayer.merge, Option.or_assoc]

instance : Std.LawfulIdentity PolicyLayer.merge PolicyLayer.empty where
  left_id layer := by simp [PolicyLayer.merge, PolicyLayer.empty]
  right_id layer := by simp [PolicyLayer.merge, PolicyLayer.empty]

instance : Std.Associative LoggingLayer.merge where
  assoc first second third := by
    simp only [LoggingLayer.merge, Option.or_assoc]

instance : Std.LawfulIdentity LoggingLayer.merge LoggingLayer.empty where
  left_id layer := by simp [LoggingLayer.merge, LoggingLayer.empty]
  right_id layer := by simp [LoggingLayer.merge, LoggingLayer.empty]

variable {α : Type} {merge : α → α → α} {empty : α}

theorem mergeSection_none_left [Std.LawfulIdentity merge empty] (upper : Option α) :
    mergeSection merge empty none upper = upper := by
  cases upper with
  | none => rfl
  | some upper =>
      have emptyBelow : merge empty upper = upper := Std.LawfulLeftIdentity.left_id upper
      exact congrArg some emptyBelow

/-- A section that only the lower layers have is merged like one above the empty section. -/
theorem mergeSection_assoc [Std.Associative merge] [Std.LawfulIdentity merge empty]
    (first second third : Option α) :
    mergeSection merge empty (mergeSection merge empty first second) third =
      mergeSection merge empty first (mergeSection merge empty second third) := by
  cases third with
  | none => rfl
  | some upper =>
      cases second with
      | none =>
          have emptyBelow : merge empty upper = upper := Std.LawfulLeftIdentity.left_id upper
          show some (merge (first.getD empty) upper) =
            some (merge (first.getD empty) (merge empty upper))
          rw [emptyBelow]
      | some middle =>
          exact congrArg some (Std.Associative.assoc (first.getD empty) middle upper)

theorem mergeSection_none_right (lower : Option α) :
    mergeSection merge empty lower none = lower := rfl

end Merging

namespace Layer

theorem merge_assoc (first second third : Layer) :
    (first.merge second).merge third = first.merge (second.merge third) := by
  simp only [merge, mergeSection_assoc]

theorem empty_merge (layer : Layer) : empty.merge layer = layer := by
  simp only [merge, empty, mergeSection_none_left]

theorem merge_empty (layer : Layer) : layer.merge empty = layer := by
  simp only [merge, empty, mergeSection_none_right]

/-- The layers of a stack, each laid over those before it. -/
def stacked (layers : List Layer) : Layer := layers.foldl merge empty

theorem stacked_append_singleton (layers : List Layer) (upper : Layer) :
    stacked (layers ++ [upper]) = (stacked layers).merge upper := by
  rw [stacked, List.foldl_append]
  rfl

end Layer

/-! ### Fields -/

/-- A field of layers. The empty layer does not set it, and a layer that is laid over another
sets it to its own value, if it has one. -/
structure Field (α : Type) where
  of : Layer → Option α
  of_empty : of Layer.empty = none
  of_merge : ∀ lower upper, of (lower.merge upper) = (of upper).or (of lower)

/-- The value that the last layer to set a field gives it. -/
def Field.last {α : Type} (field : Field α) (layers : List Layer) : Option α :=
  layers.reverse.findSome? field.of

theorem Field.of_stacked {α : Type} (field : Field α) (layers : List Layer) :
    field.of (Layer.stacked layers) = field.last layers := by
  -- From the end of the stack, since the layer laid last answers first.
  induction layers using List.reverseRecOn with
  | nil => exact field.of_empty
  | append_singleton layers upper inductionHypothesis =>
      rw [Layer.stacked_append_singleton, field.of_merge, inductionHypothesis, Field.last,
        Field.last, List.reverse_append, List.reverse_singleton, List.singleton_append,
        List.findSome?_cons]
      cases field.of upper <;> rfl

/-- A field of a section is a field of the layers with that section. -/
theorem bind_mergeSection {α β : Type} {merge : α → α → α} {empty : α} {get : α → Option β}
    (atEmpty : get empty = none)
    (atMerge : ∀ lower upper, get (merge lower upper) = (get upper).or (get lower))
    (lower upper : Option α) :
    (mergeSection merge empty lower upper).bind get = (upper.bind get).or (lower.bind get) := by
  cases upper with
  | none => rfl
  | some upper =>
      show get (merge (lower.getD empty) upper) = _
      rw [atMerge]
      cases lower with
      | none => simp [atEmpty]
      | some lower => rfl

/-- A field of the section about policy documents. -/
def Field.ofPolicy {α : Type} (get : PolicyLayer → Option α)
    (atEmpty : get PolicyLayer.empty = none)
    (atMerge : ∀ lower upper, get (lower.merge upper) = (get upper).or (get lower)) :
    Field α where
  of layer := layer.policy.bind get
  of_empty := rfl
  of_merge lower upper := bind_mergeSection atEmpty atMerge lower.policy upper.policy

/-- A field of the section about logging. -/
def Field.ofLogging {α : Type} (get : LoggingLayer → Option α)
    (atEmpty : get LoggingLayer.empty = none)
    (atMerge : ∀ lower upper, get (lower.merge upper) = (get upper).or (get lower)) :
    Field α where
  of layer := layer.logging.bind get
  of_empty := rfl
  of_merge lower upper := bind_mergeSection atEmpty atMerge lower.logging upper.logging

namespace Field

/-- The path of the allowlist. -/
def allowlistPath : Field String := .ofPolicy PolicyLayer.allowlistPath rfl fun _ _ => rfl

/-- The path of the denylist. -/
def denylistPath : Field String := .ofPolicy PolicyLayer.denylistPath rfl fun _ _ => rfl

/-- The greatest length of a body. -/
def maxBodyBytes : Field Nat := .ofPolicy PolicyLayer.maxBodyBytes rfl fun _ _ => rfl

/-- The level of log lines. -/
def level : Field String := .ofLogging LoggingLayer.level rfl fun _ _ => rfl

/-- The form of log lines. -/
def format : Field LogFormat := .ofLogging LoggingLayer.format rfl fun _ _ => rfl

end Field

/-- The settings with the value that is found for each field, or else with its default. -/
def Settings.ofFields (found : {α : Type} → Field α → Option α) : Settings where
  policy := {
    allowlistPath := found .allowlistPath
    denylistPath := found .denylistPath
    maxBodyBytes := (found .maxBodyBytes).getD defaultBodyLimit }
  logging := {
    level := (found .level).getD defaultLevel
    format := (found .format).getD .pretty }

theorem Layer.complete_eq (layer : Layer) :
    layer.complete = .ofFields fun field => field.of layer := by
  obtain ⟨policy, logging⟩ := layer
  cases policy <;> cases logging <;> rfl

/-! ### Accepted settings -/

/-- Bodies may have some bytes, and a denylist comes with an allowlist. -/
structure Settings.Consistent (settings : Settings) : Prop where
  someBytes : 0 < settings.policy.maxBodyBytes
  withAllowlist : settings.policy.denylistPath.isSome → settings.policy.allowlistPath.isSome

theorem Settings.check_eq_ok_iff {settings : Settings} :
    settings.check = .ok () ↔ settings.Consistent := by
  unfold Settings.check
  split_ifs with noBytes alone
  · exact iff_of_false nofun fun consistent => Nat.ne_of_gt consistent.someBytes noBytes
  · rw [Bool.and_eq_true, Option.isNone_iff_eq_none] at alone
    refine iff_of_false nofun fun consistent => ?_
    have present := consistent.withAllowlist alone.1
    rw [alone.2] at present
    cases present
  · refine iff_of_true rfl ⟨Nat.pos_of_ne_zero noBytes, fun denies => ?_⟩
    rw [denies, Bool.true_and, Bool.not_eq_true, Option.isNone_eq_false_iff] at alone
    exact alone

theorem Layer.settings_eq_ok_iff {layer : Layer} {settings : Settings} :
    layer.settings = .ok settings ↔ settings = layer.complete ∧ settings.Consistent := by
  rw [Layer.settings, Checks.unit_bind_eq_ok_iff, Settings.check_eq_ok_iff, Except.ok.injEq]
  constructor
  · rintro ⟨consistent, rfl⟩
    exact ⟨rfl, consistent⟩
  · rintro ⟨rfl, consistent⟩
    exact ⟨consistent, rfl⟩

/-! ### The environment -/

namespace Environment

/-- Each variable that is set, and not to nothing, stands for a value of its field. -/
structure Readable (environment : Environment) : Prop where
  maxBodyBytes : ∀ text, environment.value? knownVariables.maxBodyBytes = some text →
    ∃ count, count? text = some count
  format : ∀ text, environment.value? knownVariables.logFormat = some text →
    ∃ format, LogFormat.parse text = .ok format

/-- The fields that variables set. -/
def given (environment : Environment) : Layer where
  policy := some {
    allowlistPath := environment.value? knownVariables.allowlistPath
    denylistPath := environment.value? knownVariables.denylistPath
    maxBodyBytes := (environment.value? knownVariables.maxBodyBytes).bind count? }
  logging := some {
    level := environment.value? knownVariables.logLevel
    format := (environment.value? knownVariables.logFormat).bind fun text =>
      (LogFormat.parse text).toOption }

theorem countOf_eq_ok_iff {environment : Environment} {name : String} {found : Option Nat} :
    environment.countOf name = .ok found ↔
      (∀ text, environment.value? name = some text → ∃ count, count? text = some count) ∧
        (environment.value? name).bind count? = found := by
  unfold countOf
  cases environment.value? name with
  | none => simp
  | some text => cases read : count? text <;> simp [read]

theorem formatOf_eq_ok_iff {environment : Environment} {name : String}
    {found : Option LogFormat} :
    environment.formatOf name = .ok found ↔
      (∀ text, environment.value? name = some text →
        ∃ format, LogFormat.parse text = .ok format) ∧
        ((environment.value? name).bind fun text => (LogFormat.parse text).toOption) = found := by
  unfold formatOf
  cases environment.value? name with
  | none => simp
  | some text => cases read : LogFormat.parse text <;> simp [read, Except.toOption]

theorem layer_eq_ok_iff {environment : Environment} {layer : Layer} :
    environment.layer = .ok layer ↔ environment.Readable ∧ environment.given = layer := by
  simp only [Environment.layer, Checks.bind_eq_ok_iff, countOf_eq_ok_iff, formatOf_eq_ok_iff,
    Except.ok.injEq]
  constructor
  · rintro ⟨_, ⟨counts, rfl⟩, _, ⟨formats, rfl⟩, rfl⟩
    exact ⟨⟨counts, formats⟩, rfl⟩
  · rintro ⟨readable, rfl⟩
    exact ⟨_, ⟨readable.maxBodyBytes, rfl⟩, _, ⟨readable.format, rfl⟩, rfl⟩

/-- A variable that is set to nothing is as good as one that is not set. -/
theorem value?_value? (environment : Environment) (name : String) :
    value? environment.value? name = environment.value? name := by
  simp [value?, Option.filter_filter]

theorem layer_value? (environment : Environment) :
    layer environment.value? = environment.layer := by
  simp only [layer, countOf, formatOf, value?_value?]

end Environment

/-! ### Sources -/

/-- The layers that sources give, one over the other in the order of the list. -/
def layOver (sources : List LayerSource) (lower : Layer) : Except ConfigError Layer :=
  sources.foldlM (fun merged source => do .ok (merged.merge (← source.layer))) lower

theorem exists_layer_of_layOver {sources : List LayerSource} {lower merged : Layer}
    (laid : layOver sources lower = .ok merged) :
    ∀ source ∈ sources, ∃ layer, source.layer = .ok layer := by
  induction sources generalizing lower with
  | nil => exact List.forall_mem_nil _
  | cons source rest inductionHypothesis =>
      rw [layOver, List.foldlM_cons] at laid
      obtain ⟨next, given, laid⟩ := Checks.bind_eq_ok_iff.mp laid
      obtain ⟨layer, given, _⟩ := Checks.bind_eq_ok_iff.mp given
      exact List.forall_mem_cons.mpr ⟨⟨layer, given⟩, inductionHypothesis laid⟩

section Sources

variable {sources permuted : List LayerSource}

/-- Sources in the order in which their layers are laid over one another. -/
def inOrder (sources : List LayerSource) : List LayerSource :=
  sources.mergeSort fun left right => left.precedence ≤ right.precedence

theorem inOrder_ordered (sources : List LayerSource) :
    (inOrder sources).Pairwise fun left right => left.precedence ≤ right.precedence := by
  have sorted : (inOrder sources).Pairwise fun left right =>
      decide (left.precedence ≤ right.precedence) = true :=
    List.pairwise_mergeSort (fun first second third => by simpa using Nat.le_trans)
      (fun first second => by simpa using Nat.le_total _ _) sources
  simpa using sorted

/-- Where no two sources have the same precedence, there is one order of them, whatever the
order in which they are given. -/
theorem inOrder_perm (same : sources.Perm permuted)
    (distinct : (sources.map LayerSource.precedence).Nodup) :
    inOrder sources = inOrder permuted := by
  have sortedSame : (inOrder sources).Perm (inOrder permuted) :=
    (List.mergeSort_perm _ _).trans (same.trans (List.mergeSort_perm _ _).symm)
  refine List.Perm.eq_of_pairwise ?_ (inOrder_ordered sources) (inOrder_ordered permuted) sortedSame
  intro left right inSources inPermuted below above
  have leftMember : left ∈ sources := (List.mergeSort_perm _ _).mem_iff.mp inSources
  have rightMember : right ∈ sources :=
    same.mem_iff.mpr ((List.mergeSort_perm _ _).mem_iff.mp inPermuted)
  exact List.inj_on_of_nodup_map distinct leftMember rightMember (Nat.le_antisymm below above)

theorem mergeSources_eq (sources : List LayerSource) :
    mergeSources sources = layOver (inOrder sources) Layer.empty := rfl

/-- A source that fails lets the loading fail. -/
theorem exists_error_of_source {source : LayerSource} {error : ConfigError}
    (member : source ∈ sources) (failed : source.layer = .error error) :
    ∃ other, loadSources sources = .error other := by
  cases loaded : loadSources sources with
  | error other => exact ⟨other, rfl⟩
  | ok settings =>
      rw [loadSources, mergeSources_eq] at loaded
      obtain ⟨_, laid, _⟩ := Checks.bind_eq_ok_iff.mp loaded
      obtain ⟨layer, given⟩ := exists_layer_of_layOver laid source
        ((List.mergeSort_perm _ _).mem_iff.mpr member)
      rw [failed] at given
      cases given

end Sources

/-! ### Loading -/

section Loading

variable {files : Files} {environment : Environment} {path : String} {settings : Settings}

/-- The three sources stand in the order of their precedence, and the first one sets
nothing. -/
theorem loadFrom_eq (files : Files) (environment : Environment) (path : String) :
    loadFrom files environment path = (do
      let fromFile ← fileLayer files path
      let fromEnvironment ← environment.layer
      (fromFile.merge fromEnvironment).settings) := by
  have ordered : inOrder (SourceKind.all.map (SourceKind.source files environment path)) =
      SourceKind.all.map (SourceKind.source files environment path) :=
    List.mergeSort_of_pairwise (by simp [SourceKind.all, SourceKind.source, SourceKind.precedence])
  rw [loadFrom, loadSources, mergeSources_eq, ordered]
  simp only [layOver, SourceKind.all, SourceKind.source, SourceKind.layer, List.map_cons,
    List.map_nil, List.foldlM_cons, List.foldlM_nil]
  cases fileLayer files path with
  | error error => rfl
  | ok fromFile =>
      cases environment.layer with
      | error error => rfl
      | ok fromEnvironment =>
          show ((Layer.empty.merge Layer.empty).merge fromFile |>.merge fromEnvironment).settings =
            (fromFile.merge fromEnvironment).settings
          rw [Layer.empty_merge, Layer.empty_merge]

theorem fileLayer_of_missing (missing : files.holds path = false) :
    fileLayer files path = .ok Layer.empty := by
  simp [fileLayer, missing]

theorem loadFrom_of_missing (missing : files.holds path = false) :
    loadFrom files environment path = loadFromEnvironment environment := by
  rw [loadFrom_eq, fileLayer_of_missing missing]
  rfl

theorem loadFrom_value? (files : Files) (environment : Environment) (path : String) :
    loadFrom files environment.value? path = loadFrom files environment path := by
  rw [loadFrom_eq, loadFrom_eq, Environment.layer_value?]

/-- A variable counts before the file, the file before the default. -/
theorem loadFrom_eq_ok_iff :
    loadFrom files environment path = .ok settings ↔
      environment.Readable ∧ ∃ fromFile, fileLayer files path = .ok fromFile ∧
        (settings = .ofFields fun field =>
          (field.of environment.given).or (field.of fromFile)) ∧ settings.Consistent := by
  simp only [loadFrom_eq, Checks.bind_eq_ok_iff, Environment.layer_eq_ok_iff,
    Layer.settings_eq_ok_iff, Layer.complete_eq, Field.of_merge]
  constructor
  · rintro ⟨fromFile, read, _, ⟨readable, rfl⟩, accepted⟩
    exact ⟨readable, fromFile, read, accepted⟩
  · rintro ⟨readable, fromFile, read, accepted⟩
    exact ⟨fromFile, read, _, ⟨readable, rfl⟩, accepted⟩

theorem consistent_of_loadSources {sources : List LayerSource}
    (loaded : loadSources sources = .ok settings) : settings.Consistent := by
  obtain ⟨_, _, accepted⟩ := Checks.bind_eq_ok_iff.mp loaded
  exact (Layer.settings_eq_ok_iff.mp accepted).2

theorem consistent_of_loadFromEnvironment
    (loaded : loadFromEnvironment environment = .ok settings) : settings.Consistent := by
  obtain ⟨_, _, accepted⟩ := Checks.bind_eq_ok_iff.mp loaded
  exact (Layer.settings_eq_ok_iff.mp accepted).2

end Loading

/-- Layers form a monoid under merging. A stack of layers is accepted exactly when what the
last layer to set each field says about it, or else its default, is consistent, and then these
are the settings; whatever is loaded from sources or from the environment is consistent.
Loading with a file succeeds exactly when both the file and all variables can be read and the
settings are consistent in which each field has the value of a variable that is set to
something, else that of the file, else its default. Variables that are set to nothing do not
count, every source that fails lets the loading fail, and a file that is not there changes
nothing. Sources of different precedence may be given in any order. -/
theorem layers_resolve_by_field :
    (∀ first second third : Layer,
      (first.merge second).merge third = first.merge (second.merge third)) ∧
      (∀ layer : Layer, Layer.empty.merge layer = layer ∧ layer.merge Layer.empty = layer) ∧
      (∀ layers settings, (Layer.stacked layers).settings = .ok settings ↔
        (settings = .ofFields fun field => field.last layers) ∧ settings.Consistent) ∧
      (∀ files environment path settings,
        (load files environment = .ok settings ∨ loadFrom files environment path = .ok settings ∨
            loadFromEnvironment environment = .ok settings) →
          settings.Consistent) ∧
      (∀ files environment path,
        (∀ settings, loadFrom files environment path = .ok settings ↔
          environment.Readable ∧ ∃ fromFile, fileLayer files path = .ok fromFile ∧
            (settings = .ofFields fun field =>
              (field.of environment.given).or (field.of fromFile)) ∧ settings.Consistent) ∧
          loadFrom files environment.value? path = loadFrom files environment path ∧
          (∀ kind error, SourceKind.layer files environment path kind = .error error →
            ∃ other, loadFrom files environment path = .error other) ∧
          (files.holds path = false →
            loadFrom files environment path = loadFromEnvironment environment)) ∧
      ∀ sources permuted : List LayerSource, sources.Perm permuted →
        (sources.map LayerSource.precedence).Nodup →
          loadSources sources = loadSources permuted := by
  refine ⟨Layer.merge_assoc, fun layer => ⟨layer.empty_merge, layer.merge_empty⟩, ?_, ?_,
    fun files environment path => ⟨fun settings => loadFrom_eq_ok_iff,
      loadFrom_value? files environment path, ?_, loadFrom_of_missing⟩, ?_⟩
  · intro layers settings
    simp only [Layer.settings_eq_ok_iff, Layer.complete_eq, Field.of_stacked]
  · rintro files environment path settings (fromSystem | fromFile | fromEnvironment)
    · exact consistent_of_loadSources fromSystem
    · exact consistent_of_loadSources fromFile
    · exact consistent_of_loadFromEnvironment fromEnvironment
  · intro kind error failed
    have isSource : kind.source files environment path ∈
        SourceKind.all.map (SourceKind.source files environment path) :=
      List.mem_map_of_mem (by cases kind <;> decide)
    exact exists_error_of_source isSource failed
  · intro sources permuted same distinct
    rw [loadSources, loadSources, mergeSources_eq, mergeSources_eq, inOrder_perm same distinct]

namespace LayeringSample

/-- There is one file, which sets two fields. -/
def files : Files := fun path =>
  if path = "server.toml" then
    .ok (Text.Utf8.bytes "[policy]\nallowlist_path = \"allow.yaml\"\nmax_body_bytes = 4096\n")
  else .error .missing

/-- One variable is set that the file sets as well, one that it does not set, and one to
nothing. -/
def environment : Environment := fun name =>
  lookupEntry name [("WARDEN_MAX_BODY_BYTES", "8192"), ("WARDEN_LOG_FORMAT", "JSON"),
    ("WARDEN_ALLOWLIST_PATH", "")]

/-- No variable is set but one whose value is no number. -/
def unreadable : Environment := fun name =>
  lookupEntry name [("WARDEN_MAX_BODY_BYTES", "lots")]

/-- What the file sets. -/
def fromFile : Layer := ⟨some ⟨some "allow.yaml", none, some 4096⟩, none⟩

/-- The settings from variables, file and defaults. -/
def settings : Settings := ⟨⟨some "allow.yaml", none, 8192⟩, ⟨"info", .json⟩⟩

/-- The three sources, the file being "server.toml". -/
def sources : List LayerSource :=
  SourceKind.all.map (SourceKind.source files environment "server.toml")

theorem readable : environment.Readable :=
  (Environment.layer_eq_ok_iff.mp
    (by decide +kernel : environment.layer = .ok environment.given)).1

end LayeringSample

open LayeringSample in
theorem layers_resolve_by_field_sample :
    loadFrom files environment "server.toml" = .ok settings ∧ settings.Consistent ∧
      (∃ error, loadFrom files unreadable "server.toml" = .error error) ∧
      loadFrom files environment "other.toml" = loadFromEnvironment environment ∧
      loadSources sources = loadSources sources.reverse := by
  obtain ⟨_, _, _, consistent, onFile, inAnyOrder⟩ := layers_resolve_by_field
  obtain ⟨loads, _, _, _⟩ := onFile files environment "server.toml"
  obtain ⟨_, _, fails, _⟩ := onFile files unreadable "server.toml"
  obtain ⟨_, _, _, missing⟩ := onFile files environment "other.toml"
  have loaded : loadFrom files environment "server.toml" = .ok settings :=
    (loads settings).mpr ⟨readable, fromFile, by decide +kernel, by decide +kernel,
      ⟨by decide, by decide⟩⟩
  refine ⟨loaded, consistent _ _ _ _ (Or.inr (Or.inl loaded)), ?_, missing (by decide +kernel),
    inAnyOrder _ _ (List.reverse_perm sources).symm (by decide)⟩
  exact fails .environment (.badValue "WARDEN_MAX_BODY_BYTES" "invalid usize value \x27lots\x27")
    (by decide +kernel)

end CallPolicy.Config
