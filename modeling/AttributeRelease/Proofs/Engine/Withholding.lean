import AttributeRelease.Proofs.Engine.Scriptless
import AttributeRelease.Proofs.Rule.LateFact

/-!
# A missing fact releases nothing more

What an engine releases while a fact is missing it still releases once the fact is known, if its
conjunctions of matchers do not take a failure for want of the fact to select nothing where this is
negated or denied.
-/

namespace AttributeRelease

/-- The same context with a fact known. -/
def FilterContext.learn (context : FilterContext) (late : LateFact) : FilterContext :=
  { context with request := context.request.learn late }

namespace Engine

variable {engine : Engine} {request : Request} {late : LateFact} {id : String}
  {resolved : Attribute} {value : Value}

/-- What is permitted while a fact is missing is permitted once it is known. -/
theorem Permits.learn (missing : late.Missing request.facts)
    (noScript : ∀ node ∈ engine.nodes, node.isScript = false)
    (negated : ∀ node ∈ engine.nodes, ∀ part ∈ node.negated?, part.KeepsFailures late.kind)
    (permits : engine.Permits request id resolved value) :
    engine.Permits (request.learn late) id resolved value := by
  refine HasActiveRule.mono permits fun policy member isTrue => ?_
  obtain ⟨first, second, evaluated, evaluatedAfter, gains⟩ :=
    Node.gains_of_follows .growing missing (.rule policy.requirement)
      (forall_mem_requirement noScript member) (forall_mem_requirement negated member)
  cases evaluated.symm.trans isTrue
  cases gains
  refine ⟨evaluatedAfter, fun rule ruleMember ⟨named, permit, values, selected, isValue⟩ => ?_⟩
  obtain ⟨found, more, selectedBefore, selectedAfter, gains⟩ :=
    Node.gains_of_follows .growing missing (.matcher rule.matcher)
      (forall_mem_matcher noScript member ruleMember) (forall_mem_matcher negated member ruleMember)
      resolved
  cases selectedBefore.symm.trans selected
  obtain ⟨more, rfl, isMore⟩ := gains.has ⟨values, rfl, isValue⟩
  exact ⟨named, permit, more, selectedAfter, isMore⟩

/-- What is denied once a fact is known was denied while it was missing, if denials do not depend on
requirements. -/
theorem Denies.of_learn (missing : late.Missing request.facts)
    (noScript : ∀ node ∈ engine.nodes, node.isScript = false)
    (always : ∀ policy ∈ engine.policies, (∃ rule ∈ policy.rules, rule.effect = .deny) →
      policy.requirement = .any)
    (denied : ∀ policy ∈ engine.policies, ∀ rule ∈ policy.rules, rule.effect = .deny →
      (Node.matcher rule.matcher).KeepsFailures late.kind)
    (denies : engine.Denies (request.learn late) id resolved value) :
    engine.Denies request id resolved value := by
  obtain ⟨policy, member, _, rule, ruleMember, named, deny, selected⟩ := denies
  have isAny := always policy member ⟨rule, ruleMember, deny⟩
  refine ⟨policy, member, by rw [isAny]; rfl, rule, ruleMember, named, deny, ?_⟩
  obtain ⟨first, second, selectedBefore, selectedAfter, gains⟩ :=
    Node.gains_of_follows .steady missing (.matcher rule.matcher)
      (forall_mem_matcher noScript member ruleMember) (denied policy member rule ruleMember deny)
      resolved
  cases gains with
  | settled => exact .inl selectedBefore
  | same =>
    rwa [AttributeRule.Selects, selectedBefore, ← selectedAfter]

/-- Every value that is released while a fact is missing is released once the fact is known, if the
engine has no scripts, denies only without requirement, and has no conjunction of matchers that asks
about the fact under a negation or in a denial. -/
theorem filter_learn_releases (engine : Engine) {context : FilterContext} {late : LateFact}
    (noScript : ∀ node ∈ engine.nodes, node.isScript = false)
    (always : ∀ policy ∈ engine.policies, (∃ rule ∈ policy.rules, rule.effect = .deny) →
      policy.requirement = .any)
    (negated : ∀ node ∈ engine.nodes, ∀ part ∈ node.negated?, part.KeepsFailures late.kind)
    (denied : ∀ policy ∈ engine.policies, ∀ rule ∈ policy.rules, rule.effect = .deny →
      (Node.matcher rule.matcher).KeepsFailures late.kind)
    (missing : late.Missing context.request.facts) :
    (engine.filter context).2 = none ∧ (engine.filter (context.learn late)).2 = none ∧
      ∀ id released, (engine.filter context).1.released.find? id = some released →
        ∃ more, (engine.filter (context.learn late)).1.released.find? id = some more ∧
          ∀ value ∈ released.values, value ∈ more.values := by
  obtain ⟨area, evaluated, filtered⟩ := exists_evaluate noScript context
  obtain ⟨areaAfter, evaluatedAfter, filteredAfter⟩ := exists_evaluate noScript (context.learn late)
  have stillReleases : ∀ id resolved value, engine.Releases context.request id resolved value →
      engine.Releases (context.request.learn late) id resolved value :=
    fun _ _ _ ⟨permits, notDenies⟩ => ⟨permits.learn missing noScript negated,
      fun denies => notDenies (denies.of_learn missing noScript always denied)⟩
  rw [filtered, filteredAfter]
  refine ⟨rfl, rfl, fun id released isReleased => ?_⟩
  obtain ⟨resolved, found, ⟨value, member, releases⟩, rfl⟩ :=
    (find?_release_iff evaluated).1 isReleased
  refine ⟨_, (find?_release_iff evaluatedAfter).2
    ⟨resolved, found, ⟨value, member, stillReleases _ _ _ releases⟩, rfl⟩, ?_⟩
  intro other otherMember
  obtain ⟨inInput, releasesOther⟩ := List.mem_filter.1 otherMember
  exact List.mem_filter.2 ⟨inInput,
    decide_eq_true (stillReleases _ _ _ (of_decide_eq_true releasesOther))⟩

/-- Releases names, apart from pseudonyms, and mail addresses to all but one principal. -/
def namesUnlessGuest : Engine :=
  ⟨"example", [⟨"names", .any, [⟨"uid", .permit, .any⟩,
      ⟨"uid", .deny, .value (.exact "anonymous" false)⟩,
      ⟨"mail", .permit, .not (.fromRule (.fact .principal (.exact "guest" false)))⟩]⟩]⟩

/-- A request with a name and a mail address, of which no fact is known. -/
def unidentified : FilterContext :=
  .ofRequest { Request.blank with
    attributes := Request.byId
      [.ofValues "uid" [.string "jsmith"], .ofValues "mail" [.string "jsmith@example.org"]] }

/-- Of this request as much is released once the principal is known. -/
theorem namesUnlessGuest_learns :
    (namesUnlessGuest.filter unidentified).2 = none ∧
      (namesUnlessGuest.filter (unidentified.learn (.principal "jsmith"))).2 = none ∧
      ∀ id released, (namesUnlessGuest.filter unidentified).1.released.find? id = some released →
        ∃ more, (namesUnlessGuest.filter
            (unidentified.learn (.principal "jsmith"))).1.released.find? id = some more ∧
          ∀ value ∈ released.values, value ∈ more.values := by
  refine filter_learn_releases namesUnlessGuest (by decide) ?_ (by decide) (by decide) rfl
  intro policy member _
  cases List.mem_singleton.1 member
  rfl

/-- Releases names unless all matchers of a conjunction select them, of which there is one: that the
principal is a guest. -/
def unlessGuestInAll : Engine :=
  ⟨"example", [⟨"names", .any, [⟨"uid", .permit,
    .not (.and [.fromRule (.fact .principal (.exact "guest" false))])⟩]⟩]⟩

/-- A negated conjunction releases names while the principal is missing, and withholds them once it is
known to be a guest. -/
theorem unlessGuestInAll_withholds :
    (∀ node ∈ unlessGuestInAll.nodes, node.isScript = false) ∧
      (∀ policy ∈ unlessGuestInAll.policies, ∀ rule ∈ policy.rules, rule.effect = .permit) ∧
      (LateFact.principal "guest").Missing unidentified.request.facts ∧
      ((unlessGuestInAll.filter unidentified).1.released.find? "uid").isSome = true ∧
      (unlessGuestInAll.filter (unidentified.learn (.principal "guest"))).2 = none ∧
      (unlessGuestInAll.filter (unidentified.learn (.principal "guest"))).1.released.find? "uid" =
        none :=
  ⟨by decide, by decide, rfl, by decide, by decide, by decide⟩

end Engine

end AttributeRelease
