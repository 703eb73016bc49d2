import CallPolicy.Proofs.Entries
import CallPolicy.Proofs.Validation

/-!
Contract: what a prepared rule answers, told from the rule as it was declared.

Owns:
- the constraints that a declared rule has for a method, whatever its case;
- the one among them that the prepared rule keeps;
- when preparation keeps every constraint.

Does not own: which rules are installed.
-/

namespace CallPolicy.Rule

/-- Whether the pattern of a declared rule covers a path. -/
def reaches (rule : Rule) (segments : List String) : Bool :=
  Path.matchSegments (Path.clean rule.path) segments

/-- The constraints that a declared rule has for a method, in the order of the method
names and whatever their case. -/
def constraintsFor (rule : Rule) (method : String) : List Constraint :=
  (rule.methods.entries.filter fun entry =>
    Text.Ascii.upper entry.1 = Text.Ascii.upper method).map Prod.snd

@[simp] theorem prepare_covers (rule : Rule) (segments : List String) :
    rule.prepare.covers segments = rule.reaches segments := rfl

theorem mem_constraintsFor {rule : Rule} {method : String} {constraint : Constraint} :
    constraint ∈ rule.constraintsFor method ↔
      ∃ name, (name, constraint) ∈ rule.methods.entries ∧
        Text.Ascii.upper name = Text.Ascii.upper method := by
  simp [constraintsFor]

/-- The prepared rule keeps the last of the constraints that the declared one has for
a method. -/
theorem get?_prepare (rule : Rule) (method : String) :
    rule.prepare.methods.get? (Text.Ascii.upper method) =
      (rule.constraintsFor method).getLast? := by
  have asItems :
      (rule.methods.entries.map fun entry => (Text.Ascii.upper entry.1, entry.2)).reverse =
        rule.methods.entries.reverse.map fun entry => (Text.Ascii.upper entry.1, entry.2) :=
    List.map_reverse.symm
  rw [prepare, Keyed.get?_ofList, asItems,
    lookupEntry_map fun entry : String × Constraint => Text.Ascii.upper entry.1,
    ← List.head?_filter, List.filter_reverse, List.head?_reverse, constraintsFor,
    List.getLast?_map]

/-- With distinct methods a rule has at most one constraint for a method. -/
theorem constraintsFor_length_le_one {rule : Rule} (distinct : rule.MethodsDistinct)
    (method : String) : (rule.constraintsFor method).length ≤ 1 := by
  have counted := List.nodup_iff_count_le_one.mp distinct (Text.Ascii.upper method)
  rw [constraintsFor, List.length_map, ← List.countP_eq_length_filter]
  simpa [List.count, List.countP_map, Function.comp_def, beq_eq_decide] using counted

theorem get?_prepare_of_distinct {rule : Rule} (distinct : rule.MethodsDistinct)
    (method : String) :
    rule.prepare.methods.get? (Text.Ascii.upper method) =
      (rule.constraintsFor method).head? := by
  rw [get?_prepare]
  have short := constraintsFor_length_le_one distinct method
  match found : rule.constraintsFor method, short with
  | [], _ => rfl
  | [constraint], _ => rfl

/-- Methods that are equal up to case carry the same constraint. -/
def Unambiguous (rule : Rule) : Prop :=
  ∀ left ∈ rule.methods.entries, ∀ right ∈ rule.methods.entries,
    Text.Ascii.upper left.1 = Text.Ascii.upper right.1 → left.2 = right.2

theorem unambiguous_of_distinct {rule : Rule} (distinct : rule.MethodsDistinct) :
    rule.Unambiguous := by
  intro left isLeft right isRight same
  have short := constraintsFor_length_le_one distinct left.1
  have leftFound : left.2 ∈ rule.constraintsFor left.1 :=
    mem_constraintsFor.mpr ⟨left.1, isLeft, rfl⟩
  have rightFound : right.2 ∈ rule.constraintsFor left.1 :=
    mem_constraintsFor.mpr ⟨right.1, isRight, same.symm⟩
  match found : rule.constraintsFor left.1, short with
  | [], _ => simp [found] at leftFound
  | [constraint], _ =>
      rw [found, List.mem_singleton] at leftFound rightFound
      exact leftFound.trans rightFound.symm

/-- Preparation keeps every constraint of a rule exactly when methods that are equal up
to case carry the same constraint. -/
theorem prepare_keeps_iff (rule : Rule) :
    (∀ entry ∈ rule.methods.entries,
        rule.prepare.methods.get? (Text.Ascii.upper entry.1) = some entry.2) ↔
      rule.Unambiguous := by
  constructor
  · intro kept left isLeft right isRight same
    have leftKept := kept left isLeft
    rw [same, kept right isRight] at leftKept
    exact (Option.some.inj leftKept).symm
  · intro unambiguous entry member
    have found : entry.2 ∈ rule.constraintsFor entry.1 :=
      mem_constraintsFor.mpr ⟨entry.1, member, rfl⟩
    rw [get?_prepare]
    cases last : (rule.constraintsFor entry.1).getLast? with
    | none =>
        rw [List.getLast?_eq_none_iff.mp last] at found
        cases found
    | some constraint =>
        obtain ⟨name, isEntry, same⟩ := mem_constraintsFor.mp (List.mem_of_getLast? last)
        exact congrArg some (unambiguous (name, constraint) isEntry entry member same)

/-- A rule that prepares without loss answers for a method exactly what it declares for it in
some case. -/
theorem get?_prepare_eq_some_iff {rule : Rule} (unambiguous : rule.Unambiguous) {method : String}
    {constraint : Constraint} :
    rule.prepare.methods.get? (Text.Ascii.upper method) = some constraint ↔
      ∃ name, rule.methods.get? name = some constraint ∧
        Text.Ascii.upper name = Text.Ascii.upper method := by
  constructor
  · intro found
    rw [get?_prepare] at found
    obtain ⟨name, declared, same⟩ := mem_constraintsFor.mp (List.mem_of_getLast? found)
    exact ⟨name, Keyed.get?_eq_some_iff.mpr declared, same⟩
  · rintro ⟨name, declared, same⟩
    rw [← same]
    exact (prepare_keeps_iff rule).mpr unambiguous (name, constraint)
      (Keyed.get?_eq_some_iff.mp declared)

end CallPolicy.Rule
