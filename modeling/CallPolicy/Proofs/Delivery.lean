import CallPolicy.Proofs.Narrowing
import CallPolicy.Proofs.Readings

/-!
Contract: how a body reaches the engine does not show in its decisions.

Owns:
- the readers that deliver given bytes, in pieces of any size and with interruptions;
- the outcome of a bounded reading of such a reader;
- that decisions depend on a body only through what a look at it gives.

Does not own: readers that fail.

## Why the length is bounded

For the largest limit, whether as many bytes are followed by more is not seen. Bytes in memory
are never more than can be counted, so bytes that compare with them have that bound.
-/

namespace CallPolicy

/-- The script delivers the bytes: in chunks that are not empty, with any interruptions,
and then the end of data, which is an empty chunk or the end of the script. -/
inductive Delivers : List ReadEvent → List UInt8 → Prop where
  | ended : Delivers [] []
  | closed (rest : List ReadEvent) : Delivers (.chunk [] :: rest) []
  | interrupted {rest : List ReadEvent} {bytes : List UInt8} (later : Delivers rest bytes) :
      Delivers (.interrupted :: rest) bytes
  | chunk {part : List UInt8} {rest : List ReadEvent} {bytes : List UInt8}
      (nonempty : part ≠ []) (later : Delivers rest bytes) :
      Delivers (.chunk part :: rest) (part ++ bytes)

namespace Delivers

variable {script : List ReadEvent} {bytes : List UInt8}

theorem delivered_eq (delivers : Delivers script bytes) : Reading.delivered script = bytes := by
  induction delivers with
  | ended => rfl
  | closed rest => exact Reading.delivered_cons_of_stop rfl
  | interrupted later inductionHypothesis =>
      rw [Reading.delivered_cons rfl, inductionHypothesis]
      rfl
  | chunk nonempty later inductionHypothesis =>
      rw [Reading.delivered_cons (by simpa [ReadEvent.goesOn] using nonempty), inductionHypothesis]
      rfl

theorem failing?_eq (delivers : Delivers script bytes) : Reading.failing? script = none := by
  induction delivers with
  | ended => rfl
  | closed rest => exact Reading.failing?_cons_of_stop rfl
  | interrupted later inductionHypothesis =>
      rw [Reading.failing?_cons rfl, inductionHypothesis]
  | chunk nonempty later inductionHypothesis =>
      rw [Reading.failing?_cons (by simpa [ReadEvent.goesOn] using nonempty), inductionHypothesis]

end Delivers

/-- With a limit, a reader gives its bytes or is refused exactly as the same bytes in
memory are. -/
theorem Reading.outcome_of_delivers {script : List ReadEvent} {bytes : List UInt8}
    (delivers : Delivers script bytes) (counted : bytes.length ≤ largestCount) (limit : Nat) :
    (upTo limit script).outcome limit =
      if limit < bytes.length then .error (.tooLarge limit) else .ok bytes := by
  rw [outcome_upTo_eq limit script rfl, delivers.delivered_eq, delivers.failing?_eq, ite_self,
    List.length_take]
  by_cases exceeded : limit < bytes.length
  · have seen : limit < min (room limit) bytes.length := by
      unfold room
      omega
    rw [if_pos exceeded]
    exact if_pos seen
  · have fits : bytes.length ≤ room limit := by
      unfold room
      omega
    have unseen : ¬ limit < min (room limit) bytes.length := by omega
    rw [if_neg exceeded, List.take_of_length_le fits]
    exact if_neg unseen

section Congruence

variable {left right : Body}

theorem Rule.stops_congr (same : left.look.1 = right.look.1) (rule : Rule)
    (head : RequestHead) : rule.stops head left = rule.stops head right := by
  unfold Rule.stops Rule.forbids
  simp only [Constraint.met_fst_congr _ head same]

theorem Engine.grants_congr (same : left.look.1 = right.look.1) (engine : Engine)
    (integration caller : String) (head : RequestHead) :
    engine.grants integration caller head left = engine.grants integration caller head right := by
  unfold Engine.grants
  cases engine.allowlist.find? integration caller head.path head.method with
  | none => rfl
  | some constraint => exact constraint.met_fst_congr head same

/-- Bodies that look alike are decided about alike. -/
theorem Engine.authorize_fst_congr (same : left.look.1 = right.look.1) (engine : Engine)
    (integration caller : String) (head : RequestHead) :
    (engine.authorize integration caller head left).1 =
      (engine.authorize integration caller head right).1 := by
  rw [authorize_fst, authorize_fst]
  simp only [grants_congr same, Rule.stops_congr same]

end Congruence

/-- An engine decides about a body with a reader as it decides about the same bytes in
memory, for every limit and every way in which the reader cuts them. -/
theorem Engine.authorize_delivered {script : List ReadEvent} {bytes : List UInt8}
    (delivers : Delivers script bytes) (counted : bytes.length ≤ largestCount)
    (engine : Engine) (integration caller : String) (head : RequestHead) (limit : Nat) :
    (engine.authorize integration caller head (.buffered bytes limit)).1 =
      (engine.authorize integration caller head (.waiting script limit)).1 := by
  have read : (Body.waiting script limit).look.1 = (Reading.upTo limit script).outcome limit := rfl
  apply Engine.authorize_fst_congr
  rw [read, Reading.outcome_of_delivers delivers counted]
  rfl

namespace DeliverySample

/-- A rule about posts whose body has one member. -/
def rule (name : String) (value : Json) : Rule :=
  (Rule.onPath "/posts").withMethod "POST" (Constraint.unrestricted.withBodyField name value)

/-- An engine that looks at the body for both lists. -/
def engine : Engine :=
  ((Engine.ofRegistry Registry.empty).calls
    [.setAllowed "blog" [⟨"ci", [], [rule "team" (.string "ops")]⟩],
      .setDenied "blog" [⟨"*", [rule "force" (.bool true)]⟩]]).2

/-- A post with a JSON body. -/
def head : RequestHead :=
  ⟨"POST", "/posts", none, [("content-type", Text.Utf8.bytes "application/json")]⟩

/-- What is posted. -/
def bytes : List UInt8 := Text.Utf8.bytes "\x7b\"team\":\"ops\"\x7d"

/-- A reader that is interrupted and cuts the bytes in three. -/
def script : List ReadEvent :=
  [.interrupted, .chunk (bytes.take 1), .interrupted, .interrupted,
    .chunk ((bytes.drop 1).take 9), .chunk (bytes.drop 10), .chunk []]

theorem delivers : Delivers script bytes :=
  .interrupted (.chunk (by decide) (.interrupted (.interrupted
    (.chunk (by decide) (.chunk (by decide) (.closed []))))))

end DeliverySample

open DeliverySample in
theorem Engine.authorize_delivered_sample :
    bytes.length = 14 ∧
      (engine.authorize "blog" "ci" head (.waiting script 14)).1 = .allow ∧
      (engine.authorize "blog" "ci" head (.waiting script 13)).1 = .notAllowed := by
  have counted : bytes.length ≤ largestCount := by decide
  have within : (engine.authorize "blog" "ci" head (.buffered bytes 14)).1 = .allow := by
    decide +kernel
  have beyond : (engine.authorize "blog" "ci" head (.buffered bytes 13)).1 = .notAllowed := by
    decide +kernel
  exact ⟨by decide,
    (authorize_delivered delivers counted engine "blog" "ci" head 14).symm.trans within,
    (authorize_delivered delivers counted engine "blog" "ci" head 13).symm.trans beyond⟩

end CallPolicy
