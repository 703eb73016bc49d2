import CallPolicy.Engine
import CallPolicy.Proofs.Evaluation
import CallPolicy.Proofs.Readings
import Mathlib.Tactic.SplitIfs

/-!
Contract: a body with a reader is forwarded as it was evaluated.

Owns:
- what evaluation leaves of a body, which is the body or what one look leaves of it;
- runs of looks and evaluations on one request, with the body before and after each;
- the invariant of such a run, in which the slot of the reader and the kept outcome are
  in step;
- that every look gives the outcome that is forwarded.

Does not own: what the bytes say, and whether a request is allowed.
-/

namespace CallPolicy

/-! ### What evaluation leaves of a body -/

/-- The body is as it was, or as a look leaves it. -/
def Body.AtMostLooked (before after : Body) : Prop :=
  after = before ∨ after = before.look.2

theorem Body.AtMostLooked.trans {before between after : Body}
    (first : before.AtMostLooked between) (second : between.AtMostLooked after) :
    before.AtMostLooked after := by
  rcases first with rfl | rfl
  · exact second
  · rcases second with rfl | rfl
    · exact Or.inr rfl
    · rw [before.look_snd_look]
      exact Or.inr rfl

theorem Constraint.met_atMostLooked (constraint : Constraint) (head : RequestHead)
    (body : Body) : body.AtMostLooked (constraint.met head body).2 := by
  unfold met
  split_ifs
  · exact Or.inl rfl
  · exact Or.inl rfl
  · exact Or.inl rfl
  · exact Or.inr rfl

theorem Denylist.anyMet_atMostLooked (head : RequestHead) (segments : List String)
    (method : String) (body : Body) (rules : List Rule) :
    body.AtMostLooked (anyMet head segments method body rules).2 := by
  induction rules generalizing body with
  | nil => exact Or.inl rfl
  | cons rule rest inductionHypothesis =>
      rw [anyMet]
      split_ifs
      · cases rule.methods.get? method with
        | none => exact inductionHypothesis body
        | some constraint =>
            have handed := constraint.met_atMostLooked head body
            simp only []
            cases met : constraint.met head body with
            | mk isMet looked =>
                rw [met] at handed
                cases isMet with
                | true => exact handed
                | false => exact handed.trans (inductionHypothesis looked)
      · exact inductionHypothesis body

theorem Denylist.refusal?_atMostLooked (denylist : Denylist) (integration caller : String)
    (head : RequestHead) (body : Body) :
    body.AtMostLooked (denylist.refusal? integration caller head body).2 := by
  unfold refusal?
  cases denylist.get? (integrationKey integration) with
  | none => exact Or.inl rfl
  | some index =>
      simp only []
      split_ifs
      · exact Or.inl rfl
      · cases Path.ofRequest? head.path with
        | none => exact Or.inl rfl
        | some segments =>
            have tried := anyMet_atMostLooked head segments (Text.Ascii.upper head.method) body
              ((concerned (callerKey caller)).flatMap (rulesOf index))
            simp only []
            split <;> rename_i found <;> rwa [found] at tried

theorem Engine.authorize_atMostLooked (engine : Engine) (integration caller : String)
    (head : RequestHead) (body : Body) :
    body.AtMostLooked (engine.authorize integration caller head body).2 := by
  unfold authorize
  cases engine.allowlist.find? integration caller head.path head.method with
  | none => exact Or.inl rfl
  | some constraint =>
      have asked := constraint.met_atMostLooked head body
      simp only []
      cases met : constraint.met head body with
      | mk isMet looked =>
          rw [met] at asked
          cases isMet with
          | false => exact asked
          | true =>
              have refused := engine.denylist.refusal?_atMostLooked integration caller head looked
              simp only []
              split <;> rename_i found <;> rw [found] at refused <;> exact asked.trans refused

/-! ### Uses of one request -/

/-- What is done with a request that has a body. -/
inductive RequestUse where
  | look
  | isBuffered
  | meet (constraint : Constraint)
  | decide (engine : Engine) (integration caller : String)

/-- What a use of a request answers. -/
inductive RequestReply where
  | outcome (outcome : BodyOutcome)
  | isBuffered (drained : Option Bool)
  | meet (isMet : Bool)
  | decide (decision : Decision)

/-- One use of a request, with its reply and the body before and after it. -/
structure Exchange where
  before : Body
  use : RequestUse
  reply : RequestReply
  after : Body

/-- Uses a request with the given head once. -/
def RequestUse.exchange (head : RequestHead) (body : Body) : RequestUse → Exchange
  | .look => ⟨body, .look, .outcome body.look.1, body.look.2⟩
  | .isBuffered => ⟨body, .isBuffered, .isBuffered body.isDrained?, body⟩
  | .meet constraint =>
      let (isMet, after) := constraint.met head body
      ⟨body, .meet constraint, .meet isMet, after⟩
  | .decide engine integration caller =>
      let (decision, after) := engine.authorize integration caller head body
      ⟨body, .decide engine integration caller, .decide decision, after⟩

namespace Body

/-- Whether the reader is in its slot. -/
def holdsReader : Body → Bool
  | .buffered _ _ => false
  | .ondemand body => body.reader.isSome

/-- How many bytes were taken from the reader. -/
def taken : Body → Nat
  | .buffered _ _ => 0
  | .ondemand body => body.taken

/-- Whether both slots are empty, so that the next reading would find no reader. -/
def isSpent : Body → Bool
  | .buffered _ _ => false
  | .ondemand body => body.reader.isNone && body.kept.isNone

/-- The exchanges of a run of uses. -/
def exchanges (head : RequestHead) (body : Body) : List RequestUse → List Exchange
  | [] => []
  | use :: rest => use.exchange head body :: exchanges head (use.exchange head body).after rest

/-- The body that a run of uses leaves behind. -/
def afterUses (head : RequestHead) (body : Body) (uses : List RequestUse) : Body :=
  uses.foldl (fun current use => (use.exchange head current).after) body

end Body

/-- Whether the reader was taken out of its slot. -/
def Exchange.drains (exchange : Exchange) : Bool :=
  exchange.before.holdsReader && !exchange.after.holdsReader

theorem RequestUse.exchange_before (head : RequestHead) (body : Body) (use : RequestUse) :
    (use.exchange head body).before = body := by
  cases use <;> rfl

theorem RequestUse.exchange_atMostLooked (head : RequestHead) (body : Body)
    (use : RequestUse) : body.AtMostLooked (use.exchange head body).after := by
  cases use with
  | look => exact Or.inr rfl
  | isBuffered => exact Or.inl rfl
  | meet constraint => exact constraint.met_atMostLooked head body
  | decide engine integration caller =>
      exact engine.authorize_atMostLooked integration caller head body

/-! ### The slots are in step -/

/-- The body over a reader with the given script: as it was made, or with the reader gone,
its outcome kept and its bytes counted once. -/
inductive Body.InStep (script : List ReadEvent) (limit : Nat) : Body → Prop where
  | unread : InStep script limit (.waiting script limit)
  | read : InStep script limit (.ondemand
      { reader := none, kept := some ((Reading.upTo limit script).outcome limit), limit := limit,
        taken := (Reading.upTo limit script).taken })

namespace Body.InStep

variable {script : List ReadEvent} {limit : Nat} {body after : Body}

theorem look_fst (inStep : body.InStep script limit) :
    body.look.1 = (Reading.upTo limit script).outcome limit := by
  cases inStep <;> rfl

theorem look_snd (inStep : body.InStep script limit) : body.look.2.InStep script limit := by
  cases inStep with
  | unread =>
      have counted : (Body.waiting script limit).look.2 = .ondemand
          { reader := none, kept := some ((Reading.upTo limit script).outcome limit),
            limit := limit, taken := 0 + (Reading.upTo limit script).taken } := rfl
      rw [counted, Nat.zero_add]
      exact .read
  | read => exact .read

/-- Evaluation keeps the slots in step, whatever looks it takes. -/
theorem of_atMostLooked (inStep : body.InStep script limit)
    (handed : body.AtMostLooked after) : after.InStep script limit := by
  rcases handed with rfl | rfl
  · exact inStep
  · exact inStep.look_snd

theorem forward_eq (inStep : body.InStep script limit) :
    body.forward = (Reading.upTo limit script).outcome limit := by
  cases inStep <;> rfl

theorem taken_le (inStep : body.InStep script limit) : body.taken ≤ limit + 1 := by
  cases inStep with
  | unread => exact Nat.zero_le _
  | read => exact Reading.upTo_taken_le limit script

theorem release_taken_le (inStep : body.InStep script limit) :
    body.release.2.taken ≤ limit + 1 := by
  cases inStep with
  | unread =>
      have counted : (Body.waiting script limit).release.2.taken =
          0 + (Reading.upTo limit script).taken := rfl
      rw [counted, Nat.zero_add]
      exact Reading.upTo_taken_le limit script
  | read => exact Reading.upTo_taken_le limit script

theorem not_spent (inStep : body.InStep script limit) : body.isSpent = false := by
  cases inStep <;> rfl

theorem isDrained?_eq (inStep : body.InStep script limit) :
    body.isDrained? = some (!body.holdsReader) := by
  cases inStep <;> rfl

/-- A reader that is gone does not come back. -/
theorem holdsReader_after (inStep : body.InStep script limit)
    (handed : body.AtMostLooked after) :
    after.holdsReader = (body.holdsReader && !(body.holdsReader && !after.holdsReader)) := by
  rcases handed with rfl | rfl
  · cases after.holdsReader <;> rfl
  · cases inStep <;> rfl

/-! ### Whole runs -/

variable {head : RequestHead}

theorem afterUses (inStep : body.InStep script limit) (uses : List RequestUse) :
    (body.afterUses head uses).InStep script limit := by
  induction uses generalizing body with
  | nil => exact inStep
  | cons use rest inductionHypothesis =>
      exact inductionHypothesis (inStep.of_atMostLooked (use.exchange_atMostLooked head body))

/-- Every exchange of a run is one use of a body whose slots are in step. -/
theorem exists_of_mem_exchanges {uses : List RequestUse} {exchange : Exchange}
    (inStep : body.InStep script limit) (member : exchange ∈ body.exchanges head uses) :
    ∃ current use, current.InStep script limit ∧
      exchange = RequestUse.exchange head current use := by
  induction uses generalizing body with
  | nil => cases member
  | cons use rest inductionHypothesis =>
      rcases List.mem_cons.mp member with isFirst | later
      · exact ⟨body, use, inStep, isFirst⟩
      · exact inductionHypothesis
          (inStep.of_atMostLooked (use.exchange_atMostLooked head body)) later

/-- The reader is in its slot until the first exchange that takes it out. -/
theorem holdsReader_of_exchanges {uses : List RequestUse} {earlier later : List Exchange}
    {exchange : Exchange} (inStep : body.InStep script limit)
    (run : body.exchanges head uses = earlier ++ exchange :: later) :
    exchange.before.holdsReader = (body.holdsReader && !earlier.any Exchange.drains) := by
  induction uses generalizing body earlier with
  | nil => simp [Body.exchanges] at run
  | cons use rest inductionHypothesis =>
      rw [Body.exchanges] at run
      cases earlier with
      | nil =>
          have first : use.exchange head body = exchange := (List.cons.inj run).1
          rw [← first, use.exchange_before]
          simp
      | cons first others =>
          obtain ⟨sameFirst, sameRest⟩ := List.cons.inj run
          have handed := use.exchange_atMostLooked head body
          have held := inStep.holdsReader_after handed
          rw [inductionHypothesis (inStep.of_atMostLooked handed) sameRest, held,
            List.any_cons, ← sameFirst]
          unfold Exchange.drains
          rw [use.exchange_before, Bool.not_or, Bool.and_assoc]

end Body.InStep

/-- Evaluation is transparent to what is forwarded. In every run of looks, questions,
constraints and decisions on a request whose body has a reader, all looks give the outcome
of one reading of the reader, and that outcome is forwarded afterwards, also when the run is
empty. The body says that it is buffered exactly when an earlier use took the reader. No
more than one byte above the limit is taken in all. No use, and no forwarding, finds both
slots empty, and the error that tells of a missing reader is met only where the reader
itself fails with that text. -/
theorem Body.forwarded_as_evaluated (script : List ReadEvent) (limit : Nat)
    (head : RequestHead) (uses : List RequestUse) :
    (∀ exchange ∈ (Body.waiting script limit).exchanges head uses, exchange.use = .look →
        exchange.reply = .outcome ((Reading.upTo limit script).outcome limit)) ∧
      ((Body.waiting script limit).afterUses head uses).forward =
        (Reading.upTo limit script).outcome limit ∧
      (∀ earlier exchange later,
        (Body.waiting script limit).exchanges head uses = earlier ++ exchange :: later →
          exchange.use = .isBuffered →
            exchange.reply = .isBuffered (some (earlier.any Exchange.drains))) ∧
      (∀ exchange ∈ (Body.waiting script limit).exchanges head uses,
        exchange.after.taken ≤ limit + 1) ∧
      ((Body.waiting script limit).afterUses head uses).release.2.taken ≤ limit + 1 ∧
      (∀ exchange ∈ (Body.waiting script limit).exchanges head uses,
        exchange.before.isSpent = false) ∧
      ((Body.waiting script limit).afterUses head uses).isSpent = false ∧
      ((Reading.upTo limit script).outcome limit = .error LazyBody.readerGone →
        .failure "body reader already consumed" ∈ script) := by
  have start : (Body.waiting script limit).InStep script limit := .unread
  have last : ((Body.waiting script limit).afterUses head uses).InStep script limit :=
    start.afterUses uses
  refine ⟨?_, last.forward_eq, ?_, ?_, last.release_taken_le, ?_, last.not_spent,
    Reading.failure_mem_of_outcome⟩
  · intro exchange member isLook
    obtain ⟨current, use, inStep, rfl⟩ := start.exists_of_mem_exchanges member
    cases use with
    | look => exact congrArg RequestReply.outcome inStep.look_fst
    | isBuffered => cases isLook
    | meet constraint => cases isLook
    | decide engine integration caller => cases isLook
  · intro earlier exchange later run isQuestion
    have held := start.holdsReader_of_exchanges run
    have member : exchange ∈ (Body.waiting script limit).exchanges head uses := by
      rw [run]
      exact List.mem_append_right _ List.mem_cons_self
    obtain ⟨current, use, inStep, rfl⟩ := start.exists_of_mem_exchanges member
    rw [use.exchange_before] at held
    cases use with
    | look => cases isQuestion
    | isBuffered =>
        apply congrArg RequestReply.isBuffered
        have inSlot : (Body.waiting script limit).holdsReader = true := rfl
        rw [inStep.isDrained?_eq, held, inSlot, Bool.true_and, Bool.not_not]
    | meet constraint => cases isQuestion
    | decide engine integration caller => cases isQuestion
  · intro exchange member
    obtain ⟨current, use, inStep, rfl⟩ := start.exists_of_mem_exchanges member
    exact (inStep.of_atMostLooked (use.exchange_atMostLooked head current)).taken_le
  · intro exchange member
    obtain ⟨current, use, inStep, rfl⟩ := start.exists_of_mem_exchanges member
    rw [use.exchange_before]
    exact inStep.not_spent

end CallPolicy
