import AttributeRelease.Proofs.Engine.Failure
import AttributeRelease.Proofs.Engine.Release
import AttributeRelease.Proofs.Rule.Applicability

/-!
# Denials that cannot be evaluated

A denial whose matcher does not apply denies every value of its attribute, and a denied value is not
released, whoever permits it. So where a rule fails for want of a fact under negations and
disjunctions of a denial, the attribute is withheld as a whole.
-/

namespace AttributeRelease.Engine

variable {engine : Engine} {context : FilterContext} {id : String} {resolved : Attribute}

/-- A pass that succeeds has met no failure, so all matchers of active policies can be evaluated for
the attributes that the request has. -/
theorem exists_select_of_succeeded (succeeded : (engine.filter context).2 = none)
    {policy : Policy} (member : policy ∈ engine.policies)
    (active : policy.requirement.evaluate context.request = .ok .true)
    {rule : AttributeRule} (ruleMember : rule ∈ policy.rules)
    (found : context.request.attribute? rule.attributeId = some resolved) :
    ∃ selection, rule.matcher.select context.request resolved = .ok selection := by
  cases selected : rule.matcher.select context.request resolved with
  | ok selection => exact ⟨selection, rfl⟩
  | error cause =>
    have policyFails : ∃ error, Policy.FailsWith context.request policy error :=
      Policy.exists_failsWith_iff.2
        (.inr ⟨active, rule, ruleMember, cause, resolved, found, selected⟩)
    obtain ⟨error, first⟩ := FirstIn.exists_iff.2 ⟨policy, member, policyFails⟩
    cases succeeded.symm.trans (filter_eq_some_iff.2 first)

/-- A rule of an active policy denies an attribute by a matcher that does not apply, for a rule which
fails. -/
def DeniesUnevaluated (engine : Engine) (request : Request) (id : String) : Prop :=
  HasActiveRule engine.policies request fun rule =>
    rule.attributeId = id ∧ rule.effect = .deny ∧ rule.matcher.ExposesFailure request

/-- A rule that fails under a denial which does not apply denies every value of the attribute. -/
theorem DeniesUnevaluated.denies (denied : engine.DeniesUnevaluated context.request id)
    (succeeded : (engine.filter context).2 = none)
    (found : context.request.attribute? id = some resolved) (value : Value) :
    engine.Denies context.request id resolved value := by
  obtain ⟨policy, member, active, rule, ruleMember, rfl, deny, failure⟩ := denied
  obtain ⟨selection, selected⟩ :=
    exists_select_of_succeeded succeeded member active ruleMember found
  have notApplicable : selection = .notApplicable :=
    (rule.matcher.eq_notApplicable_iff selected).2 failure
  subst notApplicable
  exact ⟨policy, member, active, rule, ruleMember, rfl, deny, .inl selected⟩

/-- A matcher does not apply exactly if a rule fails that stands in it under negations and
disjunctions only. If this is so for a denial of an active policy, a pass that succeeds releases
nothing of the attribute, whatever any policy permits. -/
theorem filter_withholds_where_denial_fails :
    (∀ (matcher : Matcher) (request : Request) (resolved : Attribute) (selection : Selection),
      matcher.select request resolved = .ok selection →
        (selection = .notApplicable ↔ matcher.ExposesFailure request)) ∧
    ∀ (engine : Engine) (context after : FilterContext) (id : String) (resolved : Attribute),
      engine.filter context = (after, none) → context.request.attribute? id = some resolved →
        engine.DeniesUnevaluated context.request id → after.released.find? id = none := by
  constructor
  · intro matcher request resolved selection selected
    exact matcher.eq_notApplicable_iff selected
  · intro engine context after id resolved filtered found denied
    have succeeded : (engine.filter context).2 = none := congrArg Prod.snd filtered
    obtain ⟨area, evaluated, rfl⟩ := eq_of_filter_succeeded filtered
    rw [Option.eq_none_iff_forall_ne_some]
    intro released isReleased
    obtain ⟨other, otherFound, ⟨value, _, _, notDenied⟩, _⟩ :=
      (find?_release_iff evaluated).1 isReleased
    exact notDenied (denied.denies succeeded otherFound value)

/-- Permits all affiliations, denies the one of staff, and denies a guest all of them. -/
def affiliationsUnlessGuest : Engine :=
  ⟨"example", [⟨"permit", .any, [⟨"affiliation", .permit, .any⟩]⟩,
    ⟨"deny", .any, [⟨"affiliation", .deny, .or [.value (.exact "staff" false),
      .not (.not (.fromRule (.fact .principal (.exact "guest" false))))]⟩]⟩]⟩

/-- While the principal is missing, no affiliation is released. -/
theorem affiliationsUnlessGuest_withholds :
    (affiliationsUnlessGuest.filter affiliated).2 = none ∧
      (affiliated.request.attribute? "affiliation").isSome = true ∧
      affiliationsUnlessGuest.DeniesUnevaluated affiliated.request "affiliation" ∧
      (affiliationsUnlessGuest.filter affiliated).1.released.find? "affiliation" = none := by
  have succeeded : (affiliationsUnlessGuest.filter affiliated).2 = none := by decide
  have present : (affiliated.request.attribute? "affiliation").isSome = true := by decide
  have denied : affiliationsUnlessGuest.DeniesUnevaluated affiliated.request "affiliation" := by
    refine ⟨_, List.mem_cons_of_mem _ List.mem_cons_self, rfl, _, List.mem_cons_self, rfl, rfl, ?_⟩
    exact ⟨_, .or (List.mem_cons_of_mem _ List.mem_cons_self) (.not (.not (.fromRule _))), rfl⟩
  obtain ⟨resolved, found⟩ := Option.isSome_iff_exists.1 present
  exact ⟨succeeded, present, denied, filter_withholds_where_denial_fails.2 affiliationsUnlessGuest
    affiliated _ "affiliation" resolved (Prod.ext rfl succeeded) found denied⟩

end AttributeRelease.Engine
