import Mathlib.Data.List.Forall2

/-!
Contract: when a sequence of checks succeeds, and which error it ends with.

Owns:
- the success of one check after another, of a check on every item, and of a check or a
  reading that gives a value for every item;
- checks that end with the first of a list of faults, and that sequences of such checks
  end with the first fault in the order of the checks.

Does not own: any particular check.
-/

namespace CallPolicy.Checks

universe u v

variable {Error : Type v} {α β : Type u}

theorem bind_eq_ok_iff {first : Except Error α} {next : α → Except Error β} {result : β} :
    first >>= next = .ok result ↔ ∃ value, first = .ok value ∧ next value = .ok result := by
  cases first with
  | error error => simp [bind, Except.bind]
  | ok value => simp [bind, Except.bind]

theorem exists_bind_eq_ok_iff {first : Except Error α} {next : α → Except Error β} :
    (∃ result, first >>= next = .ok result) ↔
      ∃ value, first = .ok value ∧ ∃ result, next value = .ok result := by
  simp only [bind_eq_ok_iff, ← exists_and_left]
  exact exists_comm

theorem unit_bind_eq_ok_iff {first : Except Error PUnit.{u + 1}}
    {next : PUnit.{u + 1} → Except Error β} {result : β} :
    first >>= next = .ok result ↔ first = .ok ⟨⟩ ∧ next ⟨⟩ = .ok result := by
  rw [bind_eq_ok_iff]
  exact ⟨fun ⟨_, passed, rest⟩ => ⟨passed, rest⟩, fun ⟨passed, rest⟩ => ⟨_, passed, rest⟩⟩

theorem map_eq_ok_iff {first : Except Error α} {change : α → β} {result : β} :
    first.map change = .ok result ↔ ∃ value, first = .ok value ∧ change value = result := by
  cases first with
  | error error => simp [Except.map]
  | ok value => simp [Except.map]

theorem forM_eq_ok_iff {check : α → Except Error PUnit.{u + 1}} {items : List α} :
    items.forM check = .ok ⟨⟩ ↔ ∀ item ∈ items, check item = .ok ⟨⟩ := by
  induction items with
  | nil => simp [List.forM, pure, Except.pure]
  | cons item rest inductionHypothesis =>
      rw [List.forM, unit_bind_eq_ok_iff, List.forall_mem_cons, inductionHypothesis]

/-- A check that gives a known value to every item that passes gives the known values
of all items when all of them pass. -/
theorem mapM_eq_ok_iff {check : α → Except Error β} {Passes : α → Prop} {valueOf : α → β}
    (each : ∀ item result, check item = .ok result ↔ Passes item ∧ result = valueOf item)
    {items : List α} {results : List β} :
    items.mapM check = .ok results ↔
      (∀ item ∈ items, Passes item) ∧ results = items.map valueOf := by
  induction items generalizing results with
  | nil => simp [pure, Except.pure, eq_comm]
  | cons item rest inductionHypothesis =>
      simp only [List.mapM_cons, bind_eq_ok_iff, each, inductionHypothesis,
        List.forall_mem_cons, List.map_cons]
      constructor
      · intro checked
        obtain ⟨_, ⟨passes, rfl⟩, _, ⟨others, rfl⟩, same⟩ := checked
        exact ⟨⟨passes, others⟩, (Except.ok.inj same).symm⟩
      · intro accepted
        obtain ⟨⟨passes, others⟩, rfl⟩ := accepted
        exact ⟨_, ⟨passes, rfl⟩, _, ⟨others, rfl⟩, rfl⟩

/-- A reading of every item gives the values that the items are read as, one by one. -/
theorem mapM_eq_some_iff {read : α → Option β} {items : List α} {values : List β} :
    items.mapM read = some values ↔
      List.Forall₂ (fun item value => read item = some value) items values := by
  induction items generalizing values with
  | nil => simp [eq_comm]
  | cons item rest inductionHypothesis =>
      simp only [List.mapM_cons, Option.pure_def, Option.bind_eq_bind, Option.bind_eq_some_iff,
        inductionHypothesis, List.forall₂_cons_left_iff, Option.some.injEq]
      constructor
      · rintro ⟨value, isValue, others, each, rfl⟩
        exact ⟨value, others, isValue, each, rfl⟩
      · rintro ⟨value, others, isValue, each, rfl⟩
        exact ⟨value, isValue, others, each, rfl⟩

/-- Without a value for one item there is none for the list. -/
theorem mapM_eq_none_iff {read : α → Option β} {items : List α} :
    items.mapM read = none ↔ ∃ item ∈ items, read item = none := by
  induction items with
  | nil => simp
  | cons item rest inductionHypothesis =>
      rw [List.exists_mem_cons_iff, ← inductionHypothesis, List.mapM_cons]
      cases read item with
      | none => simp
      | some value => cases rest.mapM read <;> simp

/-- The first item whose check fails decides, after items that all pass. -/
theorem mapM_eq_error_iff {check : α → Except Error β} {items : List α} {error : Error} :
    items.mapM check = .error error ↔
      ∃ before item after, items = before ++ item :: after ∧
        (∀ other ∈ before, ∃ value, check other = .ok value) ∧ check item = .error error := by
  induction items with
  | nil => simp [pure, Except.pure]
  | cons item rest inductionHypothesis =>
      rw [List.mapM_cons]
      cases checked : check item with
      | error found =>
          show Except.error found = .error error ↔ _
          rw [Except.error.injEq]
          constructor
          · rintro rfl
            exact ⟨[], item, rest, rfl, List.forall_mem_nil _, checked⟩
          · rintro ⟨before, failing, after, cut, passed, failed⟩
            cases before with
            | nil =>
                rw [← (List.cons.inj cut).1, checked] at failed
                exact Except.error.inj failed
            | cons first others =>
                obtain ⟨value, succeeded⟩ := passed first List.mem_cons_self
                rw [← (List.cons.inj cut).1, checked] at succeeded
                cases succeeded
      | ok value =>
          have restDecides : (Except.ok value >>= fun first =>
              rest.mapM check >>= fun others => pure (first :: others)) = .error error ↔
                rest.mapM check = .error error := by
            cases rest.mapM check <;> simp [bind, Except.bind, pure, Except.pure]
          rw [restDecides, inductionHypothesis]
          constructor
          · rintro ⟨before, failing, after, rfl, passed, failed⟩
            exact ⟨item :: before, failing, after, rfl,
              List.forall_mem_cons.mpr ⟨⟨value, checked⟩, passed⟩, failed⟩
          · rintro ⟨before, failing, after, cut, passed, failed⟩
            cases before with
            | nil =>
                rw [← (List.cons.inj cut).1, checked] at failed
                cases failed
            | cons first others =>
                exact ⟨others, failing, after, (List.cons.inj cut).2,
                  (List.forall_mem_cons.mp passed).2, failed⟩

/-! ### The first fault -/

/-- A check succeeds where there is no fault, and ends with the first one where there are
some. -/
def Reports : Except Error α → List Error → Prop
  | .ok _, faults => faults = []
  | .error error, faults => faults.head? = some error

/-- A fault that is there under a condition. -/
def faultIf (condition : Prop) [Decidable condition] (fault : Error) : List Error :=
  if condition then [fault] else []

/-- The faults of items in their order. What is wrong with an item may depend on the items
before it; those given apart stand before the first one. -/
def inOrder (faultsOf : List α → α → List Error) (earlier : List α) : List α → List Error
  | [] => []
  | item :: rest => faultsOf earlier item ++ inOrder faultsOf (earlier ++ [item]) rest

@[simp] theorem mem_faultIf {condition : Prop} [Decidable condition] {fault other : Error} :
    other ∈ faultIf condition fault ↔ condition ∧ other = fault := by
  by_cases holds : condition <;> simp [faultIf, holds]

theorem mem_inOrder {faultsOf : List α → α → List Error} {earlier items : List α}
    {fault : Error} :
    fault ∈ inOrder faultsOf earlier items ↔
      ∃ before item after, items = before ++ item :: after ∧
        fault ∈ faultsOf (earlier ++ before) item := by
  induction items generalizing earlier with
  | nil => simp [inOrder]
  | cons first rest inductionHypothesis =>
      rw [inOrder, List.mem_append, inductionHypothesis]
      constructor
      · rintro (ofFirst | ⟨before, item, after, rfl, ofItem⟩)
        · exact ⟨[], first, rest, rfl, by rwa [List.append_nil]⟩
        · exact ⟨first :: before, item, after, rfl, by rwa [List.append_cons]⟩
      · rintro ⟨before, item, after, cut, ofItem⟩
        cases before with
        | nil =>
            obtain ⟨rfl, rfl⟩ := List.cons.inj cut
            exact Or.inl (by rwa [List.append_nil] at ofItem)
        | cons _ others =>
            obtain ⟨rfl, rfl⟩ := List.cons.inj cut
            exact Or.inr ⟨others, item, after, rfl, by rwa [List.append_cons] at ofItem⟩

section Reports

variable {first : Except Error α} {faults : List Error}

theorem Reports.eq_error_iff (reports : Reports first faults) {error : Error} :
    first = .error error ↔ faults.head? = some error := by
  cases first with
  | error found => simp [show faults.head? = some found from reports]
  | ok value => simp [show faults = [] from reports]

theorem Reports.exists_ok_iff (reports : Reports first faults) :
    (∃ value, first = .ok value) ↔ faults = [] := by
  cases first with
  | error found =>
      refine iff_of_false (by simp) fun none => ?_
      simp [Reports, none] at reports
  | ok value => simp [show faults = [] from reports]

@[simp] theorem reports_ok (value : α) : Reports (.ok value : Except Error α) [] := rfl

theorem reports_error (error : Error) (rest : List Error) :
    Reports (.error error : Except Error α) (error :: rest) := rfl

/-- The faults of a check come before those of the checks after it. -/
theorem Reports.bind (reports : Reports first faults) {next : α → Except Error β}
    {others : List Error} (nextReports : ∀ value, first = .ok value → Reports (next value) others) :
    Reports (first >>= next) (faults ++ others) := by
  cases first with
  | error found =>
      have isFirst : faults.head? = some found := reports
      change (faults ++ others).head? = some found
      rw [List.head?_append, isFirst]
      rfl
  | ok value =>
      have none : faults = [] := reports
      rw [none]
      exact nextReports value rfl

/-- Changing what a check gives leaves its faults as they are. -/
theorem Reports.map (reports : Reports first faults) (change : α → β) :
    Reports (first.map change) faults := by
  cases first with
  | error _ => exact reports
  | ok _ => exact reports

theorem Reports.bind_ok (reports : Reports first faults) (resultOf : α → β) :
    Reports (first >>= fun value => .ok (resultOf value)) faults := by
  have asMap : (first >>= fun value => .ok (resultOf value)) = first.map resultOf := by
    cases first <;> rfl
  rw [asMap]
  exact reports.map resultOf

/-- A refusal under a condition comes before the faults of what is checked otherwise. -/
theorem Reports.orElse (reports : Reports first faults) {condition refused : Prop}
    [Decidable condition] [Decidable refused] (same : refused ↔ condition) (error : Error) :
    Reports (if refused then .error error else first) (faultIf condition error ++ faults) := by
  by_cases holds : condition
  · rw [if_pos (same.mpr holds), faultIf, if_pos holds]
    exact reports_error error faults
  · rw [if_neg (same.not.mpr holds), faultIf, if_neg holds]
    exact reports

/-- A refusal of the first bad item comes before the faults of what is checked where no item
is bad. -/
theorem Reports.orFind {γ : Type u} {items : List γ} {isBad : γ → Bool} {errorOf : γ → Error}
    (refuses : ∀ item, items.find? isBad = some item → first = .error (errorOf item))
    (reports : items.find? isBad = none → Reports first faults) :
    Reports first ((items.filter isBad).map errorOf ++ faults) := by
  cases found : items.find? isBad with
  | some item =>
      rw [refuses item found]
      rw [← List.head?_filter] at found
      change (_ ++ faults).head? = some (errorOf item)
      rw [List.head?_append, List.head?_map, found]
      rfl
  | none =>
      have noItems : items.filter isBad = [] := by
        rw [← List.head?_eq_none_iff, List.head?_filter, found]
      rw [noItems]
      exact reports found

theorem reports_forM {check : α → Except Error PUnit.{u + 1}} {faultsOf : α → List Error}
    (each : ∀ item, Reports (check item) (faultsOf item)) (items : List α) :
    Reports (items.forM check) (items.flatMap faultsOf) := by
  induction items with
  | nil => exact reports_ok _
  | cons item rest inductionHypothesis =>
      rw [List.forM, List.flatMap_cons]
      exact (each item).bind fun _ _ => inductionHypothesis

theorem reports_mapM {check : α → Except Error β} {faultsOf : α → List Error}
    (each : ∀ item, Reports (check item) (faultsOf item)) (items : List α) :
    Reports (items.mapM check) (items.flatMap faultsOf) := by
  induction items with
  | nil => exact reports_ok _
  | cons item rest inductionHypothesis =>
      rw [List.mapM_cons, List.flatMap_cons]
      exact (each item).bind fun value _ => inductionHypothesis.bind_ok (value :: ·)

end Reports

end CallPolicy.Checks
