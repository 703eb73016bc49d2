import CallPolicy.Proofs.AllowInvariant
import CallPolicy.Proofs.Appending
import CallPolicy.Proofs.DenyInvariant
import CallPolicy.Proofs.Narrowing
import Mathlib.Tactic.SplitIfs

/-!
Contract: when a decision does not look at the body.

Owns:
- rules that ask about the body of a request, told from their declared paths and methods;
- that constraints and scans which do not ask leave the body alone, whatever it is;
- that a decision over held rules which do not ask is the same for every body.

Does not own: what a look at a body gives.
-/

namespace CallPolicy

/-- Whether the rule asks about the body of a request: its pattern matches the path, and it
declares the method with a constraint on the body whose other parts the request meets. -/
def Rule.asksBody (rule : Rule) (head : RequestHead) : Bool :=
  (Path.ofRequest? head.path).any fun segments =>
    rule.reaches segments && (rule.constraintsFor head.method).any fun constraint =>
      !constraint.body.isEmpty && constraint.headMet head

/-! ### Constraints and scans that do not ask -/

/-- Nothing is asked of the body, or the head is refused before that. -/
def Constraint.Unasked (constraint : Constraint) (head : RequestHead) : Prop :=
  constraint.body.isEmpty = true ∨ constraint.headMet head = false

theorem Constraint.met_unasked {constraint : Constraint} {head : RequestHead}
    (unasked : constraint.Unasked head) (body : Body) :
    constraint.met head body = (constraint.headMet head, body) := by
  apply Prod.ext
  · rw [met_fst]
    rcases unasked with nothing | refused
    · rw [nothing, Bool.true_or, Bool.and_true]
    · rw [refused, Bool.false_and]
  · unfold met
    rcases unasked with nothing | refused
    · simp only [nothing]
      split_ifs <;> rfl
    · simp only [refused, Bool.not_false, if_true]
      split_ifs <;> rfl

/-- Each rule hands on the body as it was given, so the next one is given it as well. -/
theorem Denylist.anyMet_unasked {head : RequestHead} {segments : List String} {method : String}
    {rules : List Rule}
    (unasked : ∀ rule ∈ rules, rule.covers segments = true →
      ∀ constraint, rule.methods.get? method = some constraint → constraint.Unasked head)
    (body : Body) :
    anyMet head segments method body rules =
      (rules.any fun rule => rule.covers segments &&
        (rule.methods.get? method).any fun constraint => constraint.headMet head, body) := by
  induction rules with
  | nil => rfl
  | cons rule rest inductionHypothesis =>
      obtain ⟨ruleUnasked, restUnasked⟩ := List.forall_mem_cons.mp unasked
      have others := inductionHypothesis restUnasked
      rw [anyMet, List.any_cons]
      by_cases covered : rule.covers segments = true
      · rw [if_pos covered, covered, Bool.true_and]
        cases found : rule.methods.get? method with
        | none => exact others
        | some constraint =>
            simp only [Constraint.met_unasked (ruleUnasked covered constraint found),
              Option.any_some]
            cases constraint.headMet head with
            | true => rfl
            | false => exact others
      · rw [if_neg covered, Bool.eq_false_iff.mpr covered]
        exact others

theorem Allowlist.Finding.matched_of_followedBy {first later : Finding} {constraint : Constraint}
    (matched : first.followedBy later = .matched constraint) :
    first = .matched constraint ∨ later = .matched constraint := by
  cases first with
  | matched other => exact Or.inl matched
  | nothing => exact Or.inr matched
  | pathOnly =>
      cases later with
      | matched other => exact Or.inr matched
      | pathOnly | nothing => cases matched

theorem Allowlist.finding_eq_matched_iff {segments : List String} {method : String} {rule : Rule}
    {constraint : Constraint} :
    finding segments method rule = .matched constraint ↔
      rule.covers segments = true ∧ rule.methods.get? method = some constraint := by
  unfold finding
  cases rule.covers segments with
  | false => simp
  | true => cases rule.methods.get? method <;> simp

theorem Allowlist.exists_of_scan_matched {segments : List String} {method : String}
    {rules : List Rule} {constraint : Constraint}
    (matched : scan segments method rules = .matched constraint) :
    ∃ rule ∈ rules, rule.covers segments = true ∧
      rule.methods.get? method = some constraint := by
  induction rules with
  | nil => cases matched
  | cons rule rest inductionHypothesis =>
      rw [scan_cons] at matched
      rcases Finding.matched_of_followedBy matched with here | later
      · exact ⟨rule, List.mem_cons_self, finding_eq_matched_iff.mp here⟩
      · obtain ⟨other, isOther, found⟩ := inductionHypothesis later
        exact ⟨other, List.mem_cons_of_mem _ isOther, found⟩

theorem Allowlist.exists_of_chooseFrom {own shared : List Rule} {segments : List String}
    {method : String} {constraint : Constraint}
    (chosen : chooseFrom own shared segments method = some constraint) :
    ∃ rule ∈ own ++ shared, rule.covers segments = true ∧
      rule.methods.get? method = some constraint := by
  unfold chooseFrom at chosen
  cases ownFound : scan segments method own with
  | matched other =>
      simp only [ownFound, Option.some.injEq] at chosen
      subst chosen
      obtain ⟨rule, isRule, found⟩ := exists_of_scan_matched ownFound
      exact ⟨rule, List.mem_append_left _ isRule, found⟩
  | pathOnly => simp [ownFound] at chosen
  | nothing =>
      cases sharedFound : scan segments method shared with
      | matched other =>
          simp only [ownFound, sharedFound, Option.some.injEq] at chosen
          subst chosen
          obtain ⟨rule, isRule, found⟩ := exists_of_scan_matched sharedFound
          exact ⟨rule, List.mem_append_right _ isRule, found⟩
      | pathOnly => simp [ownFound, sharedFound] at chosen
      | nothing => simp [ownFound, sharedFound] at chosen

/-! ### Held rules -/

theorem Allowlist.WellStored.ready {allowlist : Allowlist} (stored : allowlist.WellStored)
    {integration caller : String} {rule : Rule}
    (held : rule ∈ allowlist.heldFor integration caller) : rule.Ready := by
  cases found : allowlist.get? (integrationKey integration) with
  | none =>
      rw [heldFor_of_absent found] at held
      cases held
  | some index =>
      rw [heldFor_of_get? found, rulesOf] at held
      cases known : index.get? (callerKey caller) with
      | none => simp [known] at held
      | some installed =>
          rw [known] at held
          have index := stored _ (Keyed.get?_eq_some_iff.mp found)
          exact (index.callers _ (Keyed.get?_eq_some_iff.mp known)).ready rule held

theorem Denylist.WellStored.ready {denylist : Denylist} (stored : denylist.WellStored)
    {integration caller : String} {rule : Rule}
    (held : rule ∈ denylist.heldFor integration caller) : rule.Ready := by
  cases found : denylist.get? (integrationKey integration) with
  | none =>
      rw [heldFor_of_absent found] at held
      cases held
  | some index =>
      rw [heldFor_of_get? found, rulesOf] at held
      cases known : index.get? (callerKey caller) with
      | none => simp [known] at held
      | some rules =>
          rw [known] at held
          have index := stored.each _ (Keyed.get?_eq_some_iff.mp found)
          exact index.ready _ (Keyed.get?_eq_some_iff.mp known) rule held

/-- What a stored rule has for a request does not ask about the body when the rule as it is
declared does not. -/
theorem Rule.Ready.unasked {rule : Rule} (ready : rule.Ready) {head : RequestHead}
    (silent : rule.asksBody head = false) {segments : List String}
    (readable : Path.ofRequest? head.path = some segments)
    (covered : rule.covers segments = true) {constraint : Constraint}
    (found : rule.methods.get? (Text.Ascii.upper head.method) = some constraint) :
    constraint.Unasked head := by
  have declared : constraint ∈ rule.constraintsFor head.method :=
    mem_constraintsFor.mpr ⟨_, Keyed.get?_eq_some_iff.mp found, Text.Ascii.upper_upper _⟩
  have reached : rule.reaches segments = true := by
    rwa [Rule.covers, ready.segments] at covered
  rw [asksBody, readable, Option.any_some, reached, Bool.true_and, List.any_eq_false] at silent
  have unasked := silent constraint declared
  cases nothing : constraint.body.isEmpty with
  | true => exact Or.inl nothing
  | false => exact Or.inr (by simpa [nothing] using unasked)

/-! ### Decisions -/

theorem decisionOf_unasked {own shared denied : List Rule} {caller : String}
    {head : RequestHead} {segments : List String} {constraint : Constraint}
    (readable : Path.ofRequest? head.path = some segments)
    (chosen : Allowlist.chooseFrom own shared segments (Text.Ascii.upper head.method) =
      some constraint)
    (chosenUnasked : constraint.Unasked head)
    (deniedUnasked : ∀ rule ∈ denied, rule.covers segments = true →
      ∀ constraint, rule.methods.get? (Text.Ascii.upper head.method) = some constraint →
        constraint.Unasked head)
    (body : Body) :
    decisionOf own shared denied caller head body =
      (if constraint.headMet head then
        if denied.any fun rule => rule.covers segments &&
            (rule.methods.get? (Text.Ascii.upper head.method)).any fun other =>
              other.headMet head then
          .denied (.ofRequest caller head)
        else .allow
      else .notAllowed, body) := by
  simp only [decisionOf, readable, chosen, Constraint.met_unasked chosenUnasked,
    Denylist.anyMet_unasked deniedUnasked]
  cases constraint.headMet head with
  | false => rfl
  | true =>
      cases denied.any fun rule => rule.covers segments &&
        (rule.methods.get? (Text.Ascii.upper head.method)).any fun other => other.headMet head <;>
      rfl

theorem exists_decisionOf_unasked {own shared denied : List Rule} {caller : String}
    {head : RequestHead}
    (unasked : ∀ rule ∈ own ++ shared ++ denied, ∀ segments,
      Path.ofRequest? head.path = some segments → rule.covers segments = true →
        ∀ constraint, rule.methods.get? (Text.Ascii.upper head.method) = some constraint →
          constraint.Unasked head) :
    ∃ decision, ∀ body,
      decisionOf own shared denied caller head body = (decision, body) := by
  cases readable : Path.ofRequest? head.path with
  | none => exact ⟨.notAllowed, fun _ => by simp only [decisionOf, readable]⟩
  | some segments =>
      cases chosen : Allowlist.chooseFrom own shared segments (Text.Ascii.upper head.method) with
      | none => exact ⟨.notAllowed, fun _ => by simp only [decisionOf, readable, chosen]⟩
      | some constraint =>
          obtain ⟨rule, isRule, covered, found⟩ := Allowlist.exists_of_chooseFrom chosen
          exact ⟨_, decisionOf_unasked readable chosen
            (unasked rule (List.mem_append_left _ isRule) segments readable covered _ found)
            fun rule isDenied => unasked rule (List.mem_append_right _ isDenied) segments readable⟩

/-- Where no rule that either list holds for the caller or for everyone asks about the body
of a request, the decision is one and the same for every body, in memory or with a reader,
and the body is handed back as it was, so that no reader is drained. -/
theorem Engine.authorize_unread {registry : Registry} {engine : Engine}
    (reachable : Reachable registry engine) {integration caller : String} {head : RequestHead}
    (allowedSilent : ∀ rule ∈ engine.allowlist.heldFor integration caller ++
      engine.allowlist.heldFor integration wildcardCaller, rule.asksBody head = false)
    (deniedSilent : ∀ rule ∈ engine.denylist.heldFor integration caller ++
      engine.denylist.heldFor integration wildcardCaller, rule.asksBody head = false) :
    ∃ decision,
      (∀ body, engine.authorize integration caller head body = (decision, body)) ∧
        ∀ script limit, (engine.authorize integration caller head
          (.waiting script limit)).2.isDrained? = some false := by
  have allowStored := reachable.allowlist_invariant Allowlist.wellStored_empty
    fun before after => Allowlist.WellStored.writes
  have denyStored := reachable.denylist_invariant Denylist.wellStored_empty
    fun before after => Denylist.WellStored.writes
  have unasked : ∀ rule ∈ engine.allowlist.heldFor integration caller ++
      engine.allowlist.heldFor integration wildcardCaller ++
        engine.denylist.triedFor integration caller,
      ∀ segments, Path.ofRequest? head.path = some segments → rule.covers segments = true →
        ∀ constraint, rule.methods.get? (Text.Ascii.upper head.method) = some constraint →
          constraint.Unasked head := by
    intro rule isHeld segments readable covered constraint found
    rcases List.mem_append.mp isHeld with allowed | tried
    · have ready : rule.Ready :=
        (List.mem_append.mp allowed).elim allowStored.ready allowStored.ready
      exact ready.unasked (allowedSilent rule allowed) readable covered found
    · have denied : rule ∈ engine.denylist.heldFor integration caller ++
          engine.denylist.heldFor integration wildcardCaller :=
        List.mem_append.mpr (Denylist.mem_triedFor.mp tried)
      have ready : rule.Ready :=
        (List.mem_append.mp denied).elim denyStored.ready denyStored.ready
      exact ready.unasked (deniedSilent rule denied) readable covered found
  obtain ⟨decision, same⟩ := exists_decisionOf_unasked unasked
  have decided : ∀ body, engine.authorize integration caller head body = (decision, body) :=
    fun body => (engine.authorize_eq integration caller head body).trans (same body)
  exact ⟨decision, decided, fun script limit => by rw [decided]; rfl⟩

namespace UnreadSample

/-- A rule about one method on posts that asks for a member of the body. -/
def asking (method team : String) : Rule :=
  (Rule.onPath "/posts").withMethod method
    ((Constraint.unrestricted.withHeader "x-team" team).withBodyField "force" (.bool true))

/-- An engine in which everyone may read posts, and in which rules of both lists ask about
the bodies of other requests. -/
def engine : Engine :=
  ((Engine.ofRegistry Registry.empty).calls
    [.setAllowed "blog" [⟨"ci", [], [asking "POST" "ops"]⟩, ⟨"bot", [], []⟩,
        ⟨"*", [], [(Rule.onPath "/posts/**").withMethod "GET" .unrestricted]⟩],
      .setDenied "blog" [⟨"bot", [asking "POST" "ops"]⟩, ⟨"*", [asking "GET" "ops"]⟩]]).2

/-- A request to read posts that is not from the team that the denied one is from. -/
def head : RequestHead := ⟨"get", "/posts", none, [("x-team", Text.Utf8.bytes "dev")]⟩

end UnreadSample

open UnreadSample in
theorem Engine.authorize_unread_sample :
    engine.authorize "blog" "bot" head (.waiting [.failure "gone"] 0) =
        (.allow, .waiting [.failure "gone"] 0) ∧
      (engine.authorize "blog" "bot" head (.waiting [.failure "gone"] 0)).2.isDrained? =
        some false := by
  have reachable : Reachable Registry.empty engine := reachable_calls _ _
  have unread : ∃ decision,
      (∀ body, engine.authorize "blog" "bot" head body = (decision, body)) ∧
        ∀ script limit, (engine.authorize "blog" "bot" head
          (.waiting script limit)).2.isDrained? = some false :=
    authorize_unread reachable (by decide +kernel) (by decide +kernel)
  obtain ⟨decision, same, undrained⟩ := unread
  have allowed : (engine.authorize "blog" "bot" head .empty).1 = .allow := by decide +kernel
  rw [same] at allowed
  refine ⟨?_, undrained _ _⟩
  rw [same, show decision = .allow from allowed]

end CallPolicy
