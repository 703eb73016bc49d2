import CallPolicy.Denylist

/-!
Contract: constraints see the same body however often it was looked at before.

Owns:
- what a look leaves behind, and that evaluation depends on a body only through what a
  look at it gives;
- that rules which hand a body from one to the next answer as each of them would alone.

Does not own: which rules are evaluated.
-/

namespace CallPolicy

namespace LazyBody

theorem look_of_kept {body : LazyBody} {outcome : BodyOutcome}
    (kept : body.kept = some outcome) : body.look = (outcome, body) := by
  rw [look, kept]

/-- A look leaves its outcome behind. -/
theorem kept_look (body : LazyBody) : body.look.2.kept = some body.look.1 := by
  cases kept : body.kept with
  | some outcome => rw [look_of_kept kept, kept]
  | none => simp [look, kept]

theorem look_look (body : LazyBody) : body.look.2.look = body.look :=
  look_of_kept body.kept_look

end LazyBody

/-- A second look gives what the first one gave and changes nothing. -/
theorem Body.look_snd_look (body : Body) : body.look.2.look = body.look := by
  cases body with
  | buffered bytes limit => rfl
  | ondemand body =>
      have again := body.look_look
      simp only [look, again]

theorem Body.look_look (body : Body) : body.look.2.look.1 = body.look.1 := by
  rw [body.look_snd_look]

namespace Constraint

/-- A request meets a constraint when its head does and its body does, unless nothing is
asked of the body. -/
theorem met_fst (constraint : Constraint) (head : RequestHead) (body : Body) :
    (constraint.met head body).1 =
      (constraint.headMet head && (constraint.body.isEmpty ||
        outcomeMet head.mediaType? body.look.1 constraint.body)) := by
  cases nothing : constraint.isEmpty with
  | true =>
      have parts := nothing
      simp only [isEmpty, Bool.and_eq_true] at parts
      have noHeaders : headersMet head constraint.headers = true := by
        rw [headersMet, List.isEmpty_iff.mp parts.1.1, List.all_nil]
      simp [met, headMet, queryMet, nothing, parts, noHeaders]
  | false =>
      unfold met
      cases constraint.headMet head <;> cases constraint.body.isEmpty <;> simp [nothing]

theorem met_fst_congr (constraint : Constraint) (head : RequestHead) {left right : Body}
    (same : left.look.1 = right.look.1) :
    (constraint.met head left).1 = (constraint.met head right).1 := by
  unfold met
  split
  · rfl
  · split
    · rfl
    · split
      · rfl
      · simp only [same]

theorem look_met (constraint : Constraint) (head : RequestHead) (body : Body) :
    (constraint.met head body).2.look.1 = body.look.1 := by
  unfold met
  split
  · rfl
  · split
    · rfl
    · split
      · rfl
      · exact body.look_look

end Constraint

/-- Whether a stored rule covers the path, has the method and is met by the request. -/
def Rule.forbids (rule : Rule) (segments : List String) (method : String) (head : RequestHead)
    (body : Body) : Bool :=
  rule.covers segments &&
    (rule.methods.get? method).any fun constraint => (constraint.met head body).1

/-- A scan refuses when some rule forbids the request, whatever the body went through
before. -/
theorem Denylist.anyMet_fst (rules : List Rule) (segments : List String) (method : String)
    (head : RequestHead) (body : Body) {seen : Body} (same : seen.look.1 = body.look.1) :
    (anyMet head segments method seen rules).1 =
      rules.any fun rule => rule.forbids segments method head body := by
  -- Each rule hands on the body as it left it. Only what a look at it gives stays the
  -- same, so the induction runs over all bodies that look alike.
  induction rules generalizing seen with
  | nil => rfl
  | cons rule rest inductionHypothesis =>
      rw [anyMet, List.any_cons]
      by_cases covered : rule.covers segments = true
      · rw [if_pos covered]
        cases found : rule.methods.get? method with
        | none =>
            have silent : rule.forbids segments method head body = false := by
              simp [Rule.forbids, found]
            rw [silent, Bool.false_or]
            exact inductionHypothesis same
        | some constraint =>
            have alone : rule.forbids segments method head body = (constraint.met head seen).1 := by
              rw [constraint.met_fst_congr head same]
              simp [Rule.forbids, covered, found]
            have looked := (constraint.look_met head seen).trans same
            rw [alone]
            simp only []
            cases outcome : constraint.met head seen with
            | mk answer left =>
                rw [outcome] at looked
                cases answer with
                | true => rfl
                | false => exact inductionHypothesis looked
      · have silent : rule.forbids segments method head body = false := by
          simp [Rule.forbids, covered]
        rw [if_neg covered, silent, Bool.false_or]
        exact inductionHypothesis same

end CallPolicy
