import CallPolicy.Proofs.Repositories

/-!
Contract: which parameters a capability is refused for.

Owns:
- the kinds of values that parameters have;
- parameters that are accepted, and those that an error blames;
- readings of several parameters in order, which end with the first that is not accepted.

Does not own: which parameters a capability reads.
-/

namespace CallPolicy

inductive ParameterKind where
  | visibleText
  | listOfTexts
  | repositoryName
deriving DecidableEq, Repr

/-- The value is of the kind: a text that is not blank, a list of texts, or the name of a
repository. -/
def ParameterKind.Fits : ParameterKind → Json → Prop
  | visibleText, value => ∃ text, value = .string text ∧ Params.isBlankText text = false
  | listOfTexts, value => ∃ texts, value = .ofStrings texts
  | repositoryName, value =>
      ∃ repo owner name, value = .string repo ∧ IsRepository repo owner name

theorem ParameterKind.not_fits_null (kind : ParameterKind) : ¬ kind.Fits .null := by
  cases kind <;> simp [Fits, Json.ofStrings]

/-- A parameter that a capability reads. -/
structure Parameter where
  name : String
  kind : ParameterKind
  needed : Bool
deriving DecidableEq, Repr

namespace Parameter

/-- The parameter is set to a value of its kind, or unset and not needed. -/
def Accepts (parameter : Parameter) (params : Params) : Prop :=
  (parameter.needed = false ∧ params.Unset parameter.name) ∨
    ∃ value, params.get? parameter.name = some value ∧ parameter.kind.Fits value

/-- The parameter is set, but not to a value of its kind. -/
def Misgiven (parameter : Parameter) (params : Params) : Prop :=
  ∃ value, params.get? parameter.name = some value ∧ value ≠ .null ∧
    ¬ parameter.kind.Fits value

/-- The error names the parameter and what is wrong with it. -/
def Blames (parameter : Parameter) (params : Params) : CapabilityError → Prop
  | .missing name =>
      name = parameter.name ∧ parameter.needed = true ∧ params.Unset parameter.name
  | .invalid name _ => name = parameter.name ∧ parameter.Misgiven params

variable {parameter : Parameter} {params : Params}

theorem not_misgiven_of_unset (unset : params.Unset parameter.name) :
    ¬ parameter.Misgiven params := by
  rintro ⟨value, found, set, _⟩
  rcases unset with absent | null
  · rw [absent] at found
    cases found
  · rw [null] at found
    exact set (Option.some.inj found).symm

theorem accepts_iff :
    parameter.Accepts params ↔
      ¬ (parameter.needed = true ∧ params.Unset parameter.name) ∧
        ¬ parameter.Misgiven params := by
  unfold Accepts Misgiven Params.Unset
  cases params.get? parameter.name with
  | none => simp
  | some value =>
      by_cases null : value = .null
      · subst null
        simp [parameter.kind.not_fits_null]
      · simp [null]

theorem Blames.not_accepts {error : CapabilityError} (blames : parameter.Blames params error) :
    ¬ parameter.Accepts params := by
  rw [accepts_iff, not_and_or, not_not, not_not]
  cases error with
  | missing name => exact Or.inl blames.2
  | invalid name problem => exact Or.inr blames.2

end Parameter

/-- Parameters that are read in their order. If all are accepted something is made of them,
and the first that is not accepted is blamed otherwise. -/
def ReadInOrder {α : Type} (parameters : List Parameter) (params : Params) :
    Except CapabilityError α → Prop
  | .ok _ => ∀ parameter ∈ parameters, parameter.Accepts params
  | .error error => ∃ before parameter after, parameters = before ++ parameter :: after ∧
      (∀ other ∈ before, other.Accepts params) ∧ parameter.Blames params error

namespace ReadInOrder

variable {α β : Type} {parameters others : List Parameter} {params : Params}
  {result : Except CapabilityError α}

theorem nothing (value : α) : ReadInOrder [] params (.ok value) := List.forall_mem_nil _

theorem one {parameter : Parameter}
    (accepted : (∃ value, result = .ok value) ↔ parameter.Accepts params)
    (missing : parameter.needed = true → params.Unset parameter.name →
      result = .error (.missing parameter.name))
    (invalid : ∀ value error, params.get? parameter.name = some value → value ≠ .null →
      result = .error error → ∃ problem, error = .invalid parameter.name problem) :
    ReadInOrder [parameter] params result := by
  cases result with
  | ok value => exact List.forall_mem_singleton.mpr (accepted.mp ⟨value, rfl⟩)
  | error error =>
      refine ⟨[], parameter, [], rfl, List.forall_mem_nil _, ?_⟩
      have refused : ¬ parameter.Accepts params := fun accepts => by
        obtain ⟨_, impossible⟩ := accepted.mpr accepts
        cases impossible
      rw [Parameter.accepts_iff, not_and_or, not_not, not_not] at refused
      rcases refused with ⟨needed, unset⟩ | ⟨value, found, set, misfit⟩
      · cases missing needed unset
        exact ⟨rfl, needed, unset⟩
      · obtain ⟨problem, rfl⟩ := invalid value error found set rfl
        exact ⟨rfl, value, found, set, misfit⟩

theorem bind (first : ReadInOrder parameters params result) {next : α → Except CapabilityError β}
    (second : ∀ value, ReadInOrder others params (next value)) :
    ReadInOrder (parameters ++ others) params (result >>= next) := by
  cases result with
  | error error =>
      obtain ⟨before, parameter, after, rfl, accepted, blames⟩ := first
      exact ⟨before, parameter, after ++ others, by simp, accepted, blames⟩
  | ok value =>
      change ReadInOrder (parameters ++ others) params (next value)
      have rest := second value
      cases outcome : next value with
      | ok made =>
          rw [outcome] at rest
          exact List.forall_mem_append.mpr ⟨first, rest⟩
      | error error =>
          rw [outcome] at rest
          obtain ⟨before, parameter, after, rfl, accepted, blames⟩ := rest
          exact ⟨parameters ++ before, parameter, after, by simp,
            List.forall_mem_append.mpr ⟨first, accepted⟩, blames⟩

theorem exists_ok_iff (read : ReadInOrder parameters params result) :
    (∃ value, result = .ok value) ↔ ∀ parameter ∈ parameters, parameter.Accepts params := by
  cases result with
  | ok value => exact iff_of_true ⟨value, rfl⟩ read
  | error error =>
      obtain ⟨before, parameter, after, rfl, _, blames⟩ := read
      refine iff_of_false nofun fun accepted => ?_
      have accepts := accepted parameter (List.mem_append_right _ List.mem_cons_self)
      exact blames.not_accepts accepts

end ReadInOrder

/-! ### The readers -/

namespace Params

variable {params : Params} {name : String}

theorem requiredText_of_unset (unset : params.Unset name) :
    params.requiredText name = .error (.missing name) := by
  unfold requiredText
  rcases unset with absent | null
  · rw [absent]
  · rw [null]

theorem invalid_of_requiredText {value : Json} {error : CapabilityError}
    (found : params.get? name = some value) (set : value ≠ .null)
    (refused : params.requiredText name = .error error) :
    ∃ problem, error = .invalid name problem := by
  unfold requiredText at refused
  rw [found] at refused
  cases value with
  | null => exact absurd rfl set
  | string text =>
      simp only at refused
      split at refused
      · exact ⟨_, (Except.error.inj refused).symm⟩
      · cases refused
  | bool _ | number _ | array _ | object _ => exact ⟨_, (Except.error.inj refused).symm⟩

theorem invalid_of_optionalText {value : Json} {error : CapabilityError}
    (found : params.get? name = some value) (set : value ≠ .null)
    (refused : params.optionalText name = .error error) :
    ∃ problem, error = .invalid name problem := by
  have asRequired : params.optionalText name = (params.requiredText name).map some := by
    unfold optionalText
    rw [found]
    cases value with
    | null => exact absurd rfl set
    | bool _ | number _ | string _ | array _ | object _ => rfl
  rw [asRequired] at refused
  cases required : params.requiredText name with
  | ok _ =>
      rw [required] at refused
      cases refused
  | error cause =>
      rw [required] at refused
      cases refused
      exact invalid_of_requiredText found set required

theorem invalid_of_optionalTexts {value : Json} {error : CapabilityError}
    (found : params.get? name = some value) (set : value ≠ .null)
    (refused : params.optionalTexts name = .error error) :
    ∃ problem, error = .invalid name problem := by
  unfold optionalTexts at refused
  rw [found] at refused
  cases value with
  | null => exact absurd rfl set
  | array items =>
      simp only at refused
      split at refused
      · cases refused
      · exact ⟨_, (Except.error.inj refused).symm⟩
  | bool _ | number _ | string _ | object _ => exact ⟨_, (Except.error.inj refused).symm⟩

variable (params name)

theorem requiredText_read :
    ReadInOrder [⟨name, .visibleText, true⟩] params (params.requiredText name) := by
  refine .one ?_ (fun _ => requiredText_of_unset) fun _ _ => invalid_of_requiredText
  rw [exists_requiredText_iff]
  simp [HasText, Parameter.Accepts, ParameterKind.Fits]

theorem optionalText_read :
    ReadInOrder [⟨name, .visibleText, false⟩] params (params.optionalText name) := by
  refine .one ?_ nofun fun _ _ => invalid_of_optionalText
  rw [exists_optionalText_iff]
  simp [HasText, Parameter.Accepts, ParameterKind.Fits]

theorem optionalTexts_read :
    ReadInOrder [⟨name, .listOfTexts, false⟩] params (params.optionalTexts name) := by
  refine .one ?_ nofun fun _ _ => invalid_of_optionalTexts
  rw [exists_optionalTexts_iff]
  simp [HasTexts, Parameter.Accepts, ParameterKind.Fits]

end Params

theorem Builtin.repository_read (params : Params) :
    ReadInOrder [⟨"repo", .repositoryName, true⟩] params (repository params) := by
  refine .one ?_ (fun _ unset => ?_) fun value error found set refused => ?_
  · simp only [repository_eq_ok_iff, Parameter.Accepts, ParameterKind.Fits]
    constructor
    · rintro ⟨repo, set, owner, name, isRepository⟩
      exact Or.inr ⟨_, set, repo, owner, name, rfl, isRepository⟩
    · rintro (⟨needless, _⟩ | ⟨_, set, repo, owner, name, rfl, isRepository⟩)
      · cases needless
      · exact ⟨repo, set, owner, name, isRepository⟩
  · rw [repository, Params.requiredText_of_unset unset]
    rfl
  · rw [repository] at refused
    cases required : params.requiredText "repo" with
    | error cause =>
        rw [required] at refused
        cases refused
        exact Params.invalid_of_requiredText found set required
    | ok repo =>
        rw [required] at refused
        change (if _ then _ else _) = _ at refused
        split at refused
        · cases refused
        · exact ⟨_, (Except.error.inj refused).symm⟩

end CallPolicy
