import CallPolicy.Proofs.Isolation

/-!
Contract: how the order of rules and the fallback to everyone's rules decide.

Owns:
- the finding of one rule, and findings put one after another;
- that scans of joined lists are findings put one after another;
- what appended rules can change about a look-up, and when everyone's rules answer.

Does not own: what the governing constraint asks for.

## Why findings are joined

A scan remembers that the path was covered while it still looks for the method. Told as a
value, this is a finding that gives way to a later match and to nothing else. Joining
findings in this way is associative, so a scan can be cut anywhere, and what appended rules
do is read off the two findings.
-/

namespace CallPolicy

namespace Rule

/-- Whether the rule covers a path as it stands in a request. A path that cannot be decoded
is covered by no rule. -/
def coversPath (rule : Rule) (path : String) : Bool :=
  (Path.ofRequest? path).any rule.covers

/-- Whether the rule has a constraint for a method, in whatever case it is written. -/
def declares (rule : Rule) (method : String) : Bool :=
  rule.methods.contains (Text.Ascii.upper method)

end Rule

namespace Allowlist

/-! ### Findings one after another -/

/-- The first match decides, and a covered path is remembered. -/
def Finding.followedBy : Finding → Finding → Finding
  | .matched constraint, _ => .matched constraint
  | .pathOnly, .matched constraint => .matched constraint
  | .pathOnly, _ => .pathOnly
  | .nothing, later => later

@[simp] theorem Finding.matched_followedBy (constraint : Constraint) (later : Finding) :
    (Finding.matched constraint).followedBy later = .matched constraint := rfl

@[simp] theorem Finding.followedBy_nothing (finding : Finding) :
    finding.followedBy .nothing = finding := by
  cases finding <;> rfl

theorem Finding.followedBy_assoc (first second third : Finding) :
    (first.followedBy second).followedBy third = first.followedBy (second.followedBy third) := by
  cases first <;> cases second <;> cases third <;> rfl

/-- What one rule says about a path and a method. -/
def finding (segments : List String) (method : String) (rule : Rule) : Finding :=
  if rule.covers segments then
    match rule.methods.get? method with
    | some constraint => .matched constraint
    | none => .pathOnly
  else .nothing

section Scans

variable (segments : List String) (method : String)

theorem scan_cons (rule : Rule) (rest : List Rule) :
    scan segments method (rule :: rest) =
      (finding segments method rule).followedBy (scan segments method rest) := by
  rw [scan, finding]
  by_cases covered : rule.covers segments = true
  · rw [if_pos covered, if_pos covered]
    cases rule.methods.get? method with
    | some constraint => rfl
    | none => cases scan segments method rest <;> rfl
  · rw [if_neg covered, if_neg covered]
    rfl

theorem scan_append (rules added : List Rule) :
    scan segments method (rules ++ added) =
      (scan segments method rules).followedBy (scan segments method added) := by
  induction rules with
  | nil => rfl
  | cons rule rest inductionHypothesis =>
      rw [List.cons_append, scan_cons, scan_cons, inductionHypothesis, Finding.followedBy_assoc]

end Scans

variable {segments : List String} {method : String} {rules : List Rule}

theorem scan_eq_nothing_iff :
    scan segments method rules = .nothing ↔ ∀ rule ∈ rules, rule.covers segments = false := by
  induction rules with
  | nil => simp [scan]
  | cons rule rest inductionHypothesis =>
      rw [scan_cons, List.forall_mem_cons, ← inductionHypothesis, finding]
      cases rule.covers segments with
      | false => simp [Finding.followedBy]
      | true =>
          cases rule.methods.get? method <;> cases scan segments method rest <;>
            simp [Finding.followedBy]

theorem scan_eq_matched_iff :
    (∃ constraint, scan segments method rules = .matched constraint) ↔
      ∃ rule ∈ rules, rule.covers segments = true ∧ rule.methods.contains method = true := by
  induction rules with
  | nil => simp [scan]
  | cons rule rest inductionHypothesis =>
      rw [scan_cons, List.exists_mem_cons_iff, ← inductionHypothesis, finding, Keyed.contains]
      cases rule.covers segments with
      | false => simp [Finding.followedBy]
      | true =>
          cases rule.methods.get? method <;> cases scan segments method rest <;>
            simp [Finding.followedBy]

theorem scan_eq_pathOnly (covered : ∃ rule ∈ rules, rule.covers segments = true)
    (undeclared : ∀ rule ∈ rules, rule.covers segments = true →
      rule.methods.contains method = false) : scan segments method rules = .pathOnly := by
  cases found : scan segments method rules with
  | matched constraint =>
      obtain ⟨rule, isRule, covers, declared⟩ := scan_eq_matched_iff.mp ⟨constraint, found⟩
      rw [undeclared rule isRule covers] at declared
      cases declared
  | pathOnly => rfl
  | nothing =>
      obtain ⟨rule, isRule, covers⟩ := covered
      rw [scan_eq_nothing_iff.mp found rule isRule] at covers
      cases covers

/-! ### Rules of one caller exchanged -/

/-- The allowlist with other rules for one caller of an integration. -/
def withRules (allowlist : Allowlist) (integration caller : String) (rules : List Rule) :
    Allowlist :=
  allowlist.alter (integrationKey integration) fun index =>
    (index.getD Keyed.empty).insert (callerKey caller) ⟨callerKey caller, [], rules⟩

/-- The allowlist with more rules after those of a caller. -/
def appendRules (allowlist : Allowlist) (integration caller : String) (added : List Rule) :
    Allowlist :=
  allowlist.withRules integration caller (allowlist.heldFor integration caller ++ added)

variable {allowlist : Allowlist} {integration caller path : String}

theorem heldFor_of_key {other : String} (same : callerKey caller = callerKey other) :
    allowlist.heldFor integration caller = allowlist.heldFor integration other := by
  rw [heldFor, heldFor, rulesFor?, rulesFor?, same]

theorem heldFor_withRules (other : String) :
    (allowlist.withRules integration caller rules).heldFor integration other =
      if callerKey caller = callerKey other then rules
      else allowlist.heldFor integration other := by
  have changed : (allowlist.withRules integration caller rules).get? (integrationKey integration) =
      some (((allowlist.get? (integrationKey integration)).getD Keyed.empty).insert
        (callerKey caller) ⟨callerKey caller, [], rules⟩) := by
    rw [withRules, Keyed.alter, Keyed.get?_insert, if_pos rfl]
  rw [heldFor_of_get? changed, rulesOf, Keyed.get?_insert]
  by_cases same : callerKey caller = callerKey other
  · rw [if_pos same, if_pos same]
  · rw [if_neg same, if_neg same]
    cases found : allowlist.get? (integrationKey integration) with
    | none => rw [heldFor_of_absent found]; rfl
    | some index => rw [heldFor_of_get? found]; rfl

/-! ### Look-ups -/

theorem find?_of_unreadable (unreadable : Path.ofRequest? path = none) :
    allowlist.find? integration caller path method = none := by
  rw [find?_eq, unreadable, Option.bind_none]

theorem find?_of_matched (readable : Path.ofRequest? path = some segments)
    {constraint : Constraint} (found : scan segments (Text.Ascii.upper method)
      (allowlist.heldFor integration caller) = .matched constraint) :
    allowlist.find? integration caller path method = some constraint := by
  rw [find?_eq, readable, Option.bind_some, chooseFrom, found]

theorem find?_of_pathOnly (readable : Path.ofRequest? path = some segments)
    (found : scan segments (Text.Ascii.upper method)
      (allowlist.heldFor integration caller) = .pathOnly) :
    allowlist.find? integration caller path method = none := by
  rw [find?_eq, readable, Option.bind_some, chooseFrom, found]

/-- Everyone's rules answer when the caller's own have nothing to say. -/
theorem find?_of_nothing (readable : Path.ofRequest? path = some segments)
    (found : scan segments (Text.Ascii.upper method)
      (allowlist.heldFor integration caller) = .nothing) :
    allowlist.find? integration caller path method =
      allowlist.find? integration wildcardCaller path method := by
  simp only [find?_eq, readable, Option.bind_some, chooseFrom, found]
  cases scan segments (Text.Ascii.upper method)
    (allowlist.heldFor integration wildcardCaller) <;> rfl

/-! ### Appended rules and everyone's rules -/

section Appending

variable (allowlist : Allowlist) (integration caller path method : String)

/-- A rule that covers the path and declares the method decides before anything that is
appended. -/
theorem find?_appendRules_of_declared (added : List Rule)
    (decided : ∃ rule ∈ allowlist.heldFor integration caller,
      rule.coversPath path = true ∧ rule.declares method = true) :
    ∃ constraint, allowlist.find? integration caller path method = some constraint ∧
      (allowlist.appendRules integration caller added).find? integration caller path method =
        some constraint := by
  obtain ⟨rule, isRule, covered, declared⟩ := decided
  obtain ⟨segments, readable, covers⟩ := (Option.any_eq_true _ _).mp covered
  obtain ⟨constraint, found⟩ := scan_eq_matched_iff.mpr ⟨rule, isRule, covers, declared⟩
  refine ⟨constraint, find?_of_matched readable found, find?_of_matched readable ?_⟩
  rw [appendRules, heldFor_withRules, if_pos rfl, scan_append, found,
    Finding.matched_followedBy]

/-- Appended rules that do not cover the path change nothing, also when they are appended
to everyone's rules. -/
theorem find?_appendRules_of_uncovered (added : List Rule)
    (uncovered : ∀ rule ∈ added, rule.coversPath path = false) :
    (allowlist.appendRules integration caller added).find? integration caller path method =
      allowlist.find? integration caller path method := by
  cases readable : Path.ofRequest? path with
  | none => rw [find?_of_unreadable readable, find?_of_unreadable readable]
  | some segments =>
      have silent : scan segments (Text.Ascii.upper method) added = .nothing := by
        refine scan_eq_nothing_iff.mpr fun rule isAdded => ?_
        have uncoveredRule := uncovered rule isAdded
        rwa [Rule.coversPath, readable, Option.any_some] at uncoveredRule
      have same : ∀ other, scan segments (Text.Ascii.upper method)
          ((allowlist.appendRules integration caller added).heldFor integration other) =
            scan segments (Text.Ascii.upper method) (allowlist.heldFor integration other) := by
        intro other
        rw [appendRules, heldFor_withRules]
        split
        · rename_i sameKey
          rw [scan_append, silent, Finding.followedBy_nothing, heldFor_of_key sameKey]
        · rfl
      simp only [find?_eq, readable, Option.bind_some, chooseFrom, same]

/-- A caller whose own rules cover the path but do not declare the method is not helped by
everyone's rules, whatever they are. -/
theorem find?_of_undeclared
    (covered : ∃ rule ∈ allowlist.heldFor integration caller, rule.coversPath path = true)
    (undeclared : ∀ rule ∈ allowlist.heldFor integration caller,
      rule.coversPath path = true → rule.declares method = false) :
    allowlist.find? integration caller path method = none := by
  cases readable : Path.ofRequest? path with
  | none => exact find?_of_unreadable readable
  | some segments =>
      simp only [Rule.coversPath, readable, Option.any_some] at covered undeclared
      exact find?_of_pathOnly readable (scan_eq_pathOnly covered undeclared)

theorem find?_of_uncovered
    (uncovered : ∀ rule ∈ allowlist.heldFor integration caller, rule.coversPath path = false) :
    allowlist.find? integration caller path method =
      allowlist.find? integration wildcardCaller path method := by
  cases readable : Path.ofRequest? path with
  | none => rw [find?_of_unreadable readable, find?_of_unreadable readable]
  | some segments =>
      simp only [Rule.coversPath, readable, Option.any_some] at uncovered
      exact find?_of_nothing readable (scan_eq_nothing_iff.mpr uncovered)

/-- Appended rules do not override earlier ones, and own rules stand before everyone's.
(1) Where an own rule covers the path and declares the method, the constraint is the same
with any rules after it. (2) Appended rules that do not cover the path change nothing.
(3) Where own rules cover the path and none of those declares the method, there is no
constraint, whatever rules everyone has. (4) A caller that is unknown, or whose own rules do
not cover the path, is answered as everyone is. -/
theorem find?_own_before_shared :
    (∀ added, (∃ rule ∈ allowlist.heldFor integration caller,
        rule.coversPath path = true ∧ rule.declares method = true) →
      ∃ constraint, allowlist.find? integration caller path method = some constraint ∧
        (allowlist.appendRules integration caller added).find? integration caller path method =
          some constraint) ∧
      (∀ added : List Rule, (∀ rule ∈ added, rule.coversPath path = false) →
        (allowlist.appendRules integration caller added).find? integration caller path method =
          allowlist.find? integration caller path method) ∧
      ((∃ rule ∈ allowlist.heldFor integration caller, rule.coversPath path = true) →
        (∀ rule ∈ allowlist.heldFor integration caller,
          rule.coversPath path = true → rule.declares method = false) →
        allowlist.find? integration caller path method = none ∧
          ∀ shared, callerKey caller ≠ wildcardCaller →
            (allowlist.withRules integration wildcardCaller shared).find? integration caller
              path method = none) ∧
      (allowlist.rulesFor? integration caller = none ∨
          (∀ rule ∈ allowlist.heldFor integration caller, rule.coversPath path = false) →
        allowlist.find? integration caller path method =
          allowlist.find? integration wildcardCaller path method) := by
  refine ⟨?_, ?_, ?_, ?_⟩
  · intro added decided
    exact find?_appendRules_of_declared allowlist integration caller path method added decided
  · intro added uncovered
    exact find?_appendRules_of_uncovered allowlist integration caller path method added uncovered
  · intro covered undeclared
    refine ⟨find?_of_undeclared allowlist integration caller path method covered undeclared, ?_⟩
    intro shared notWildcard
    have own : (allowlist.withRules integration wildcardCaller shared).heldFor integration caller =
        allowlist.heldFor integration caller := by
      rw [heldFor_withRules, if_neg fun same => notWildcard same.symm]
    apply find?_of_undeclared
    · rwa [own]
    · rwa [own]
  · rintro (unknown | uncovered)
    · apply find?_of_uncovered
      rw [heldFor, unknown]
      exact List.forall_mem_nil _
    · exact find?_of_uncovered allowlist integration caller path method uncovered

end Appending

namespace AppendingSample

/-- Reading of repositories, for one team. -/
def own : Rule :=
  ((Rule.onPath "/repos/*").withMethod "GET"
    (Constraint.unrestricted.withHeader "x-team" "ops")).prepare

/-- Reading and writing of everything. -/
def everything : Rule :=
  (((Rule.onPath "/**").withMethod "GET" Constraint.unrestricted).withMethod "POST"
    Constraint.unrestricted).prepare

def users : Rule := ((Rule.onPath "/users").withMethod "GET" Constraint.unrestricted).prepare

def store : Allowlist :=
  (withRules Keyed.empty "github" "ci" [own]).withRules "github" "*" [everything]

end AppendingSample

open AppendingSample in
theorem find?_own_before_shared_sample :
    (∃ constraint, store.find? "GitHub" "ci" "/repos/a" "get" = some constraint ∧
      (store.appendRules "GitHub" "ci" [everything]).find? "GitHub" "ci" "/repos/a" "get" =
        some constraint) ∧
      (store.appendRules "github" "ci" [users]).find? "github" "ci" "/repos/a" "POST" =
        store.find? "github" "ci" "/repos/a" "POST" ∧
      store.find? "github" "ci" "/repos/a" "POST" = none ∧
      (store.withRules "github" "*" [users]).find? "github" "ci" "/repos/a" "POST" = none ∧
      store.find? "github" "bot" "/users" "POST" =
        store.find? "github" "*" "/users" "POST" := by
  obtain ⟨declared, _⟩ := find?_own_before_shared store "GitHub" "ci" "/repos/a" "get"
  obtain ⟨_, uncovered, undeclared, _⟩ :=
    find?_own_before_shared store "github" "ci" "/repos/a" "POST"
  obtain ⟨_, _, _, unknown⟩ := find?_own_before_shared store "github" "bot" "/users" "POST"
  have withheld := undeclared (by decide +kernel) (by decide +kernel)
  exact ⟨declared [everything] (by decide +kernel), uncovered [users] (by decide +kernel),
    withheld.1, withheld.2 [users] (by decide), unknown (Or.inl (by decide +kernel))⟩

end Allowlist

end CallPolicy
