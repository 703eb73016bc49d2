import CallPolicy.Proofs.Comparisons
import CallPolicy.Proofs.Containment
import CallPolicy.Proofs.Delivery
import CallPolicy.Proofs.FormData
import CallPolicy.Proofs.Forwarding

/-!
Contract: a constraint that asks for more is met by fewer requests.

Owns:
- the order of constraints by what they ask for;
- that each of the four comparisons respects it, and so does a whole constraint;
- what a request has shown that meets a constraint on its body.

Does not own: the order of wanted values inside a member of a body.
-/

namespace CallPolicy

open Text

/-! ### The order of constraints -/

/-- Every name stands in the other map as well, with at least its values. -/
def Keyed.ValuesWithin (fewer more : Keyed (List String)) : Prop :=
  ∀ name values, fewer.get? name = some values →
    ∃ others, more.get? name = some others ∧ values ⊆ others

/-- Everything that the weaker constraint asks for is asked for by the stronger one. -/
structure Constraint.Within (weaker stronger : Constraint) : Prop where
  headers : weaker.headers.ValuesWithin stronger.headers
  query : weaker.query.ValuesWithin stronger.query
  body : ∀ name value, weaker.body.get? name = some value →
    stronger.body.get? name = some value

namespace Keyed

theorem ValuesWithin.refl (map : Keyed (List String)) : map.ValuesWithin map :=
  fun _ values found => ⟨values, found, List.Subset.refl values⟩

theorem valuesWithin_addValue (map : Keyed (List String)) (name value : String) :
    map.ValuesWithin (map.addValue name value) := by
  intro other values found
  rw [get?_addValue]
  by_cases same : name = other
  · subst same
    refine ⟨values ++ [value], ?_, List.subset_append_left _ _⟩
    rw [if_pos rfl, found, Option.getD_some]
  · exact ⟨values, by rw [if_neg same, found], List.Subset.refl values⟩

theorem isEmpty_of_names {β : Type} {fewer more : Keyed β}
    (within : ∀ name value, fewer.get? name = some value →
      ∃ other, more.get? name = some other)
    (nothing : more.isEmpty = true) : fewer.isEmpty = true := by
  rw [isEmpty_iff] at nothing ⊢
  intro name
  cases found : fewer.get? name with
  | none => rfl
  | some value =>
      obtain ⟨other, foundMore⟩ := within name value found
      rw [nothing name] at foundMore
      cases foundMore

end Keyed

namespace Constraint

theorem within_withHeader (constraint : Constraint) (name value : String) :
    constraint.Within (constraint.withHeader name value) :=
  ⟨Keyed.valuesWithin_addValue _ name value, .refl _, fun _ _ found => found⟩

theorem within_withQuery (constraint : Constraint) (name value : String) :
    constraint.Within (constraint.withQuery name value) :=
  ⟨.refl _, Keyed.valuesWithin_addValue _ name value, fun _ _ found => found⟩

/-- A member of the body that is asked for already would be replaced. -/
theorem within_withBodyField {constraint : Constraint} {name : String}
    (absent : constraint.body.get? name = none) (value : Json) :
    constraint.Within (constraint.withBodyField name value) := by
  refine ⟨.refl _, .refl _, fun other wanted found => ?_⟩
  have different : name ≠ other := by
    rintro rfl
    rw [absent] at found
    cases found
  rw [withBodyField, Keyed.get?_insert, if_neg different, found]

/-! ### Every comparison respects the order -/

variable {weaker stronger : Constraint} {head : RequestHead} {body : Body}
  {mediaType : Option MediaType}

theorem headersMet_of_within (within : weaker.Within stronger)
    (isMet : headersMet head stronger.headers = true) :
    headersMet head weaker.headers = true := by
  rw [headersMet_iff] at isMet ⊢
  intro name values found
  obtain ⟨others, foundMore, subset⟩ := within.headers name values found
  obtain ⟨checked, isName, present, given⟩ := headerMet_iff.mp (isMet name others foundMore)
  exact headerMet_iff.mpr
    ⟨checked, isName, present, fun value wanted => given value (subset wanted)⟩

/-- A query that is no form data meets only constraints that ask nothing of it. The weaker
one is then among them. -/
theorem queryMet_of_within (within : weaker.Within stronger)
    (isMet : queryMet head stronger.query = true) : queryMet head weaker.query = true := by
  rw [queryMet_iff] at isMet ⊢
  rcases isMet with nothing | ⟨form, parsed, given⟩
  · refine Or.inl (Keyed.isEmpty_of_names (fun name values found => ?_) nothing)
    exact (within.query name values found).imp fun _ => And.left
  · refine Or.inr ⟨form, parsed, formHas_iff.mpr fun name values found => ?_⟩
    obtain ⟨others, foundMore, subset⟩ := within.query name values found
    obtain ⟨held, isHeld, wanted⟩ := formHas_iff.mp given name others foundMore
    exact ⟨held, isHeld, List.Subset.trans subset wanted⟩

theorem contentMet_of_within (within : weaker.Within stronger) {bytes : List UInt8}
    (isMet : contentMet mediaType bytes stronger.body = true) :
    contentMet mediaType bytes weaker.body = true := by
  rw [contentMet_iff] at isMet ⊢
  refine isMet.imp ?_ ?_
  · rintro ⟨isJson, members, parsed, covered⟩
    refine ⟨isJson, members, parsed, ?_⟩
    rw [Json.coversMembers_iff] at covered ⊢
    exact fun want wanted => covered want (Keyed.get?_eq_some_iff.mp
      (within.body _ _ (Keyed.get?_eq_some_iff.mpr wanted)))
  · rintro ⟨isForm, form, parsed, given⟩
    rw [formMet_iff] at given
    exact ⟨isForm, form, parsed, formMet_iff.mpr fun name value found =>
      given name value (within.body name value found)⟩

/-- A request that meets a constraint meets every weaker one, with any body that looks like
its own. -/
theorem met_of_within (within : weaker.Within stronger) {other : Body}
    (same : other.look.1 = body.look.1) (isMet : (stronger.met head body).1 = true) :
    (weaker.met head other).1 = true := by
  rw [met_iff] at isMet ⊢
  obtain ⟨headers, query, content⟩ := isMet
  refine ⟨headersMet_of_within within headers, queryMet_of_within within query, ?_⟩
  rcases content with nothing | ⟨bytes, looked, content⟩
  · refine Or.inl (Keyed.isEmpty_of_names (fun name value found => ?_) nothing)
    exact ⟨value, within.body name value found⟩
  · exact Or.inr ⟨bytes, same.trans looked, contentMet_of_within within content⟩

end Constraint

/-! ### Bodies that are had lie within their limit -/

/-- A body as requests have it: bytes in memory, or a reader before or after it was read. -/
inductive Body.OfRequest (limit : Nat) : Body → Prop where
  | buffered (bytes : List UInt8) : OfRequest limit (.buffered bytes limit)
  | reader {script : List ReadEvent} {body : Body} (inStep : body.InStep script limit) :
      OfRequest limit body

theorem Body.OfRequest.length_le {limit : Nat} {body : Body} (received : body.OfRequest limit)
    {bytes : List UInt8} (looked : body.look.1 = .ok bytes) : bytes.length ≤ limit := by
  cases received with
  | buffered held =>
      simp only [look] at looked
      split_ifs at looked with exceeded
      cases looked
      omega
  | reader inStep =>
      rw [inStep.look_fst] at looked
      exact Reading.length_le_of_outcome looked

namespace Constraint

/-- What a request has shown that meets a constraint on its body: the body was looked at,
and its bytes are an object or a form, as its media type says. -/
theorem content_of_met {constraint : Constraint} {head : RequestHead} {body : Body}
    (asked : constraint.body.isEmpty = false) (isMet : (constraint.met head body).1 = true) :
    (constraint.met head body).2 = body.look.2 ∧
      ∃ bytes, body.look.1 = .ok bytes ∧
        ((head.mediaType? = some .json ∧
            ∃ members, Json.parseBytes? bytes = some (.object members)) ∨
          (head.mediaType? = some .form ∧
            Utf8.IsText bytes ∧ ¬ Percent.BrokenEscape bytes)) := by
  obtain ⟨headers, query, content⟩ := met_iff.mp isMet
  have notEmpty : constraint.isEmpty = false := by simp [isEmpty, asked]
  have headIsMet : constraint.headMet head = true := by rw [headMet, headers, query]; rfl
  refine ⟨by simp [met, notEmpty, headIsMet, asked], ?_⟩
  rcases content with nothing | ⟨bytes, looked, content⟩
  · rw [asked] at nothing
    cases nothing
  · refine ⟨bytes, looked, (contentMet_iff.mp content).imp ?_ ?_⟩
    · rintro ⟨isJson, members, parsed, _⟩
      exact ⟨isJson, members, parsed⟩
    · rintro ⟨isForm, form, parsed, _⟩
      exact ⟨isForm, (Form.parse?_eq_some_iff.mp parsed).1⟩

/-- Asking for more never opens a constraint to a request, whatever body the request comes
with and in whatever state. Header and query values can be added to any constraint, and
members of the body under names that are new to it. A request that meets a constraint on
its body has had its body read within the limit, and as an object or as a form. -/
theorem met_of_more_asked :
    (∀ (weaker stronger : Constraint) (head : RequestHead) (body other : Body),
      weaker.Within stronger → other.look.1 = body.look.1 →
        (stronger.met head body).1 = true → (weaker.met head other).1 = true) ∧
      (∀ (constraint : Constraint) (name value : String) (head : RequestHead) (body : Body),
        ((constraint.withHeader name value).met head body).1 = true ∨
            ((constraint.withQuery name value).met head body).1 = true →
          (constraint.met head body).1 = true) ∧
      (∀ (constraint : Constraint) (name : String) (value : Json) (head : RequestHead)
        (body : Body), constraint.body.get? name = none →
          ((constraint.withBodyField name value).met head body).1 = true →
            (constraint.met head body).1 = true) ∧
      ∀ (constraint : Constraint) (head : RequestHead) (limit : Nat) (body : Body),
        body.OfRequest limit → constraint.body.isEmpty = false →
          (constraint.met head body).1 = true →
            (constraint.met head body).2 = body.look.2 ∧
              ∃ bytes, body.look.1 = .ok bytes ∧ bytes.length ≤ limit ∧
                ((head.mediaType? = some .json ∧
                    ∃ members, Json.parseBytes? bytes = some (.object members)) ∨
                  (head.mediaType? = some .form ∧
                    Utf8.IsText bytes ∧ ¬ Percent.BrokenEscape bytes)) := by
  refine ⟨?_, ?_, ?_, ?_⟩
  · intro weaker stronger head body other within same isMet
    exact met_of_within within same isMet
  · intro constraint name value head body isMet
    rcases isMet with withHeader | withQuery
    · exact met_of_within (constraint.within_withHeader name value) rfl withHeader
    · exact met_of_within (constraint.within_withQuery name value) rfl withQuery
  · intro constraint name value head body absent isMet
    exact met_of_within (within_withBodyField absent value) rfl isMet
  · intro constraint head limit body received asked isMet
    obtain ⟨handed, bytes, looked, read⟩ := content_of_met asked isMet
    exact ⟨handed, bytes, looked, received.length_le looked, read⟩

namespace RequirementsSample

/-- One value of a header and any value of a query parameter. -/
def weaker : Constraint :=
  { Constraint.unrestricted.withHeader "x-team" "ops" with
    query := Keyed.empty.insert "page" [] }

/-- More values, and a member of the body. -/
def stronger : Constraint :=
  ((weaker.withHeader "x-team" "web").withQuery "page" "2").withBodyField "force" (.bool true)

def head : RequestHead :=
  ⟨"POST", "/posts", some "page=2", [("x-team", Utf8.bytes "web"), ("x-team", Utf8.bytes "ops"),
    ("content-type", Utf8.bytes "application/json")]⟩

/-- The body comes in two pieces. -/
def posted : Body :=
  .waiting [.chunk (Utf8.bytes "\x7b\"force\":"), .chunk (Utf8.bytes "true\x7d")] 14

theorem within : weaker.Within stronger := by
  refine ⟨?_, ?_, fun _ _ found => by cases found⟩
  · exact Keyed.valuesWithin_addValue weaker.headers "x-team" "web"
  · exact Keyed.valuesWithin_addValue weaker.query "page" "2"

end RequirementsSample

open RequirementsSample in
theorem met_of_more_asked_sample :
    (weaker.met head posted).1 = true ∧ (weaker.met head posted.look.2).1 = true ∧
      ∃ bytes, posted.look.1 = .ok bytes ∧ bytes.length ≤ 14 := by
  have isMet : (stronger.met head posted).1 = true := by decide +kernel
  obtain ⟨ofMore, ofAdded, ofMember, shown⟩ := met_of_more_asked
  have withoutMember := ofMember
    ((weaker.withHeader "x-team" "web").withQuery "page" "2") "force" (.bool true) head posted
    (by decide) isMet
  have withoutQuery := ofAdded (weaker.withHeader "x-team" "web") "page" "2" head posted
    (Or.inr withoutMember)
  obtain ⟨_, bytes, looked, bounded, _⟩ := shown stronger head 14 posted
    (.reader .unread) (by decide) isMet
  exact ⟨ofAdded weaker "x-team" "web" head posted (Or.inl withoutQuery),
    ofMore weaker stronger head posted posted.look.2 within posted.look_look isMet,
    bytes, looked, bounded⟩

end Constraint

end CallPolicy
