import CallPolicy.Capability.Params
import CallPolicy.Proofs.Checks
import CallPolicy.Proofs.Comparisons
import CallPolicy.Proofs.Containment

/-!
Contract: what capabilities read from their parameters, and what they then ask of a body.

Owns:
- the exact condition under which a text or a list of texts is read, absent or present;
- constraints that ask for exactly the given ones among some parameters;
- what a body has to show to meet such a constraint.

Does not own: which parameters a capability reads.
-/

namespace CallPolicy

/-- A text or a list of texts. -/
inductive Json.IsText : Json → Prop where
  | one (text : String) : IsText (.string text)
  | several (texts : List String) : IsText (.ofStrings texts)

theorem Json.mapM_string?_eq_some_iff {items : List Json} {texts : List String} :
    items.mapM string? = some texts ↔ items = texts.map .string := by
  induction items generalizing texts with
  | nil => simp [eq_comm]
  | cons item rest inductionHypothesis =>
      simp only [List.mapM_cons, Option.bind_eq_bind, Option.bind_eq_some_iff, Option.pure_def,
        Option.some.injEq, inductionHypothesis]
      constructor
      · rintro ⟨text, isText, _, rfl, rfl⟩
        cases item with
        | string _ => cases isText; rfl
        | null | bool _ | number _ | array _ | object _ => cases isText
      · intro same
        cases texts with
        | nil => cases same
        | cons text others =>
            obtain ⟨rfl, rfl⟩ := List.cons.inj same
            exact ⟨text, rfl, others, rfl, rfl⟩

namespace Params

/-- The parameter is absent or null. -/
def Unset (params : Params) (name : String) : Prop :=
  params.get? name = none ∨ params.get? name = some .null

instance (params : Params) (name : String) : Decidable (params.Unset name) := by
  unfold Unset
  infer_instance

/-- The parameter is a text that is not blank. -/
def HasText (params : Params) (name : String) : Prop :=
  ∃ text, params.get? name = some (.string text) ∧ isBlankText text = false

/-- The parameter is a list of texts. -/
def HasTexts (params : Params) (name : String) : Prop :=
  ∃ texts, params.get? name = some (.ofStrings texts)

/-- Something that may be absent is there or not. -/
theorem exists_given_iff {α : Type} {Absent : Prop} {Given : α → Prop} :
    (∃ given, Absent ∧ given = none ∨ ∃ value, Given value ∧ given = some value) ↔
      Absent ∨ ∃ value, Given value := by
  constructor
  · rintro ⟨_, ⟨absent, _⟩ | ⟨value, isGiven, _⟩⟩
    · exact Or.inl absent
    · exact Or.inr ⟨value, isGiven⟩
  · rintro (absent | ⟨value, isGiven⟩)
    · exact ⟨none, Or.inl ⟨absent, rfl⟩⟩
    · exact ⟨some value, Or.inr ⟨value, isGiven, rfl⟩⟩

section Reading

variable {params : Params} {name : String}

theorem requiredText_eq_ok_iff {text : String} :
    requiredText params name = .ok text ↔
      params.get? name = some (.string text) ∧ isBlankText text = false := by
  unfold requiredText
  cases params.get? name with
  | none => simp
  | some value =>
      cases value with
      | string given =>
          cases blank : isBlankText given with
          | true =>
              simp only [blank, if_true, reduceCtorEq, false_iff, not_and, Option.some.injEq,
                Json.string.injEq]
              rintro rfl
              simp [blank]
          | false =>
              simp only [blank, Bool.false_eq_true, if_false, Except.ok.injEq, Option.some.injEq,
                Json.string.injEq]
              exact ⟨fun same => ⟨same, same ▸ blank⟩, And.left⟩
      | null | bool _ | number _ | array _ | object _ => simp

/-- A text that may be absent is read when it is unset, or else as one that must be there. -/
theorem optionalText_eq_ok_iff {given : Option String} :
    optionalText params name = .ok given ↔
      params.Unset name ∧ given = none ∨
        ∃ text, requiredText params name = .ok text ∧ given = some text := by
  unfold optionalText Unset
  cases found : params.get? name with
  | none => simp [requiredText, found, eq_comm]
  | some value =>
      cases value with
      | null => simp [requiredText, found, eq_comm]
      | string _ | bool _ | number _ | array _ | object _ =>
          rw [Checks.map_eq_ok_iff]
          simp [eq_comm (a := given)]

theorem optionalTexts_eq_ok_iff {given : Option (List String)} :
    optionalTexts params name = .ok given ↔
      params.Unset name ∧ given = none ∨
        ∃ texts, params.get? name = some (.ofStrings texts) ∧ given = some texts := by
  unfold optionalTexts Unset
  cases params.get? name with
  | none => simp [eq_comm]
  | some value =>
      cases value with
      | null => simp [Json.ofStrings, eq_comm]
      | array items =>
          cases read : items.mapM Json.string? with
          | none =>
              have unread : ∀ texts : List String, items ≠ texts.map .string := by
                intro texts same
                rw [Json.mapM_string?_eq_some_iff.mpr same] at read
                cases read
              simp [read, Json.ofStrings, unread]
          | some texts =>
              obtain rfl := Json.mapM_string?_eq_some_iff.mp read
              have distinct : Function.Injective Json.string := fun _ _ => Json.string.inj
              simp [read, Json.ofStrings, eq_comm, (List.map_injective_iff.mpr distinct).eq_iff]
      | string _ | bool _ | number _ | object _ => simp [Json.ofStrings]

theorem exists_requiredText_iff :
    (∃ text, requiredText params name = .ok text) ↔ params.HasText name := by
  simp only [requiredText_eq_ok_iff, HasText]

theorem exists_optionalText_iff :
    (∃ given, optionalText params name = .ok given) ↔
      params.Unset name ∨ params.HasText name := by
  simp only [optionalText_eq_ok_iff, exists_given_iff, exists_requiredText_iff]

theorem exists_optionalTexts_iff :
    (∃ given, optionalTexts params name = .ok given) ↔
      params.Unset name ∨ params.HasTexts name := by
  simp only [optionalTexts_eq_ok_iff, exists_given_iff, HasTexts]

end Reading

end Params

/-- An object has each of the set parameters as a member: a text as it is, and a list as an
array with all its texts. -/
def Params.ShownByObject (params : Params) (names : List String) (members : Keyed Json) : Prop :=
  ∀ name ∈ names,
    (∀ text, params.get? name = some (.string text) →
      members.get? name = some (.string text)) ∧
    ∀ texts, params.get? name = some (.ofStrings texts) →
      ∃ items, members.get? name = some (.array items) ∧
        ∀ text ∈ texts, Json.string text ∈ items

/-- A form has each of the set parameters as a field, with the text or all the texts among
its values. -/
def Params.ShownByForm (params : Params) (names : List String) (form : Form) : Prop :=
  ∀ name ∈ names,
    (∀ text, params.get? name = some (.string text) →
      ∃ values, form.get? name = some values ∧ text ∈ values) ∧
    ∀ texts, params.get? name = some (.ofStrings texts) →
      ∃ values, form.get? name = some values ∧ texts ⊆ values

theorem Json.covers_string_iff {given : Json} {text : String} :
    covers given (.string text) = true ↔ given = .string text := by
  cases given <;> simp [covers]

theorem Json.covers_ofStrings_iff {given : Json} {texts : List String} :
    covers given (.ofStrings texts) = true ↔
      ∃ items, given = .array items ∧ ∀ text ∈ texts, string text ∈ items := by
  cases given with
  | array items =>
      rw [ofStrings, covers, coversItems_iff]
      simp only [List.forall_mem_map, covers_string_iff, exists_eq_right, array.injEq,
        exists_eq_left']
  | null | bool _ | number _ | string _ | object _ => simp [ofStrings, covers]

namespace Constraint

theorem fieldMet_string_iff {values : List String} {text : String} :
    fieldMet values (.string text) = true ↔ text ∈ values := by
  simp [fieldMet]

theorem fieldMet_ofStrings_iff {values texts : List String} :
    fieldMet values (.ofStrings texts) = true ↔ texts ⊆ values := by
  simp [fieldMet, Json.ofStrings, Json.string?, List.subset_def]

/-- The constraint asks for the parameters of some names that are set, and for nothing else.
Each parameter of these names is unset or one text or several. -/
structure AsksFor (constraint : Constraint) (params : Params) (names : List String) : Prop where
  headers : constraint.headers = Keyed.empty
  query : constraint.query = Keyed.empty
  body : ∀ name value, constraint.body.get? name = some value ↔
    name ∈ names ∧ params.get? name = some value ∧ value.IsText
  readable : ∀ name ∈ names, params.Unset name ∨
    ∃ value, params.get? name = some value ∧ value.IsText

variable {constraint : Constraint} {params : Params} {names : List String} {name : String}

theorem asksFor_nil (params : Params) : unrestricted.AsksFor params [] where
  headers := rfl
  query := rfl
  body := by simp [unrestricted]
  readable := by simp

theorem AsksFor.unset (asks : constraint.AsksFor params names) (unset : params.Unset name) :
    constraint.AsksFor params (name :: names) where
  headers := asks.headers
  query := asks.query
  body := by
    intro other value
    rw [asks.body, List.mem_cons]
    refine and_congr_left fun set => (or_iff_right ?_).symm
    rintro rfl
    obtain ⟨found, isText⟩ := set
    rcases unset with absent | null
    · rw [absent] at found
      cases found
    · rw [null] at found
      cases found
      cases isText
  readable := List.forall_mem_cons.mpr ⟨Or.inl unset, asks.readable⟩

theorem AsksFor.given (asks : constraint.AsksFor params names) {value : Json}
    (set : params.get? name = some value) (isText : value.IsText) :
    (constraint.withBodyField name value).AsksFor params (name :: names) where
  headers := asks.headers
  query := asks.query
  body := by
    intro other wanted
    rw [withBodyField, Keyed.get?_insert, List.mem_cons]
    by_cases same : name = other
    · subst same
      rw [if_pos rfl, set, Option.some.injEq]
      constructor
      · rintro rfl
        exact ⟨Or.inl rfl, rfl, isText⟩
      · exact fun asked => asked.2.1
    · rw [if_neg same, asks.body, or_iff_right (Ne.symm same)]
  readable := List.forall_mem_cons.mpr ⟨Or.inr ⟨value, set, isText⟩, asks.readable⟩

namespace AsksFor

variable (asks : constraint.AsksFor params names)

include asks

theorem requiredText {text : String} (read : params.requiredText name = .ok text) :
    (constraint.withBodyField name (.string text)).AsksFor params (name :: names) :=
  asks.given (Params.requiredText_eq_ok_iff.mp read).1 (.one text)

theorem optionalText {given : Option String} (read : params.optionalText name = .ok given) :
    (match given with
      | some text => constraint.withBodyField name (.string text)
      | none => constraint).AsksFor params (name :: names) := by
  rcases Params.optionalText_eq_ok_iff.mp read with ⟨unset, rfl⟩ | ⟨text, required, rfl⟩
  · exact asks.unset unset
  · exact asks.requiredText required

theorem optionalTexts {given : Option (List String)}
    (read : params.optionalTexts name = .ok given) :
    (match given with
      | some texts => constraint.withBodyField name (.ofStrings texts)
      | none => constraint).AsksFor params (name :: names) := by
  rcases Params.optionalTexts_eq_ok_iff.mp read with ⟨unset, rfl⟩ | ⟨texts, set, rfl⟩
  · exact asks.unset unset
  · exact asks.given set (.several texts)

theorem isEmpty_iff : constraint.body.isEmpty = true ↔ ∀ name ∈ names, params.Unset name := by
  rw [Keyed.isEmpty_iff]
  constructor
  · intro nothing name member
    rcases asks.readable name member with unset | ⟨value, set, isText⟩
    · exact unset
    · have asked := (asks.body name value).mpr ⟨member, set, isText⟩
      rw [nothing name] at asked
      cases asked
  · intro unset name
    cases asked : constraint.body.get? name with
    | none => rfl
    | some value =>
        obtain ⟨member, set, isText⟩ := (asks.body name value).mp asked
        rcases unset name member with absent | null
        · rw [absent] at set
          cases set
        · rw [null] at set
          cases set
          cases isText

theorem forall_asked_iff {Shown : String → Json → Prop} :
    (∀ name value, constraint.body.get? name = some value → Shown name value) ↔
      ∀ name ∈ names,
        (∀ text, params.get? name = some (.string text) → Shown name (.string text)) ∧
          ∀ texts, params.get? name = some (.ofStrings texts) → Shown name (.ofStrings texts) := by
  simp only [asks.body]
  constructor
  · intro shown name member
    exact ⟨fun text set => shown name _ ⟨member, set, .one text⟩,
      fun texts set => shown name _ ⟨member, set, .several texts⟩⟩
  · rintro shown name value ⟨member, set, isText⟩
    cases isText with
    | one text => exact (shown name member).1 text set
    | several texts => exact (shown name member).2 texts set

theorem coversMembers_iff {members : Keyed Json} :
    Json.coversMembers members.entries constraint.body.entries = true ↔
      params.ShownByObject names members := by
  have asked : Json.coversMembers members.entries constraint.body.entries = true ↔
      ∀ name value, constraint.body.get? name = some value →
        ∃ given, members.get? name = some given ∧ Json.covers given value = true := by
    simp only [Json.coversMembers_iff, Prod.forall, ← Keyed.get?_eq_some_iff]
    rfl
  rw [asked, asks.forall_asked_iff]
  simp only [Json.covers_string_iff, Json.covers_ofStrings_iff, exists_eq_right]
  refine forall₂_congr fun name _ => and_congr_right fun _ => forall₂_congr fun texts _ => ?_
  constructor
  · rintro ⟨_, found, items, rfl, held⟩
    exact ⟨items, found, held⟩
  · rintro ⟨items, found, held⟩
    exact ⟨_, found, items, rfl, held⟩

theorem formMet_iff {form : Form} :
    formMet form constraint.body = true ↔ params.ShownByForm names form := by
  rw [Constraint.formMet_iff, asks.forall_asked_iff]
  simp only [fieldMet_string_iff, fieldMet_ofStrings_iff]
  rfl

/-- A request meets the constraint when no parameter is set, or else when its body can be had
and shows all that are set, in an object or in a form as its media type says. -/
theorem met_iff {head : RequestHead} {body : Body} :
    (constraint.met head body).1 = true ↔
      (∀ name ∈ names, params.Unset name) ∨ ∃ bytes, body.look.1 = .ok bytes ∧
        ((head.mediaType? = some .json ∧ ∃ members,
            Json.parseBytes? bytes = some (.object members) ∧
              params.ShownByObject names (Json.membersOf members)) ∨
          (head.mediaType? = some .form ∧ ∃ form, Form.parse? bytes = some form ∧
            params.ShownByForm names form)) := by
  have headersMet : headersMet head constraint.headers = true := by rw [asks.headers]; rfl
  have queryMet : queryMet head constraint.query = true := by rw [asks.query]; rfl
  rw [Constraint.met_iff, and_iff_right headersMet, and_iff_right queryMet, asks.isEmpty_iff]
  simp only [contentMet_iff, asks.coversMembers_iff, asks.formMet_iff]

end AsksFor

end Constraint

end CallPolicy
