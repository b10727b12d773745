import AttributeRelease.Proofs.Engine.Scriptless

/-!
# Attributes that an engine does not mention

A pass over a request reads the attributes that the engine mentions, by rules for them or by rules
that ask about them. What other attributes the request has makes no difference to what the pass
permits, denies and releases.
-/

namespace AttributeRelease

variable {before after : Request}

/-- What is released from a work area depends only on the attributes of which something is left. -/
theorem Request.release_congr {area : WorkArea}
    (same : ∀ id left, area.released? id = some left → before.attribute? id = after.attribute? id) :
    before.release area = after.release area := by
  ext id
  unfold release
  rw [NameMap.find?_filterMap, NameMap.find?_filterMap]
  cases isLeft : area.released? id with
  | none => simp
  | some left => rw [same id left isLeft]

/-- Rules do the same on two requests that are the same to their matchers and in their
attributes. -/
theorem Policy.applyRules_congr {policy : Policy} {rules : List AttributeRule}
    (matcherSame : ∀ rule ∈ rules, (Node.matcher rule.matcher).SameOn before after)
    (attributeSame : ∀ rule ∈ rules,
      before.attribute? rule.attributeId = after.attribute? rule.attributeId) (area : WorkArea) :
    policy.applyRules before rules area = policy.applyRules after rules area := by
  induction rules generalizing area with
  | nil => rfl
  | cons rule rest ih =>
    obtain ⟨headMatcher, restMatcher⟩ := List.forall_mem_cons.1 matcherSame
    obtain ⟨headAttribute, restAttribute⟩ := List.forall_mem_cons.1 attributeSame
    have selectSame : ∀ resolved,
        rule.matcher.select before resolved = rule.matcher.select after resolved := headMatcher
    simp only [applyRules, AttributeRule.apply, headAttribute, selectSame,
      ih restMatcher restAttribute]

/-- Policies do the same on two requests that are the same to them and in the attributes of their
rules. -/
theorem Engine.applyPolicies_congr {policies : List Policy}
    (same : ∀ policy ∈ policies, policy.SameOn before after)
    (attributeSame : ∀ policy ∈ policies, ∀ rule ∈ policy.rules,
      before.attribute? rule.attributeId = after.attribute? rule.attributeId) (area : WorkArea) :
    applyPolicies before policies area = applyPolicies after policies area := by
  induction policies generalizing area with
  | nil => rfl
  | cons policy rest ih =>
    obtain ⟨⟨requirementSame, matcherSame⟩, restSame⟩ := List.forall_mem_cons.1 same
    obtain ⟨headAttribute, restAttribute⟩ := List.forall_mem_cons.1 attributeSame
    have requirementSame : policy.requirement.evaluate before = policy.requirement.evaluate after :=
      requirementSame
    simp only [applyPolicies_cons, requirementSame, Policy.apply,
      Policy.applyRules_congr matcherSame headAttribute, ih restSame restAttribute]

namespace Engine

/-- The attributes that an engine mentions: those that it has rules for, and those that it asks about
in rules and matchers. -/
def mentioned (engine : Engine) : List String :=
  (engine.policies.flatMap fun policy => policy.rules.map (·.attributeId)) ++
    engine.nodes.filterMap Node.attributeId?

/-- An engine mentions the attributes that its rules are about. -/
theorem mem_mentioned_of_rule {engine : Engine} {policy : Policy} {rule : AttributeRule}
    (member : policy ∈ engine.policies) (ruleMember : rule ∈ policy.rules) :
    rule.attributeId ∈ engine.mentioned :=
  List.mem_append_left _
    (List.mem_flatMap.2 ⟨policy, member, List.mem_map_of_mem ruleMember⟩)

/-- An engine mentions the attributes that its rules and matchers ask about. -/
theorem mem_mentioned_of_node {engine : Engine} {node : Node} {id : String}
    (member : node ∈ engine.nodes) (named : node.attributeId? = some id) : id ∈ engine.mentioned :=
  List.mem_append_right _ (List.mem_filterMap.2 ⟨node, member, named⟩)

/-- Of an attribute without a rule nothing is left to be released. -/
theorem mem_mentioned_of_released {engine : Engine} {request : Request} {area : WorkArea}
    (evaluated : engine.evaluate request = .ok area) {id : String} {left : ValueSet}
    (isLeft : area.released? id = some left) : id ∈ engine.mentioned := by
  obtain ⟨⟨value, member⟩, mem_left⟩ := WorkArea.released?_eq_some_iff.1 isLeft
  obtain ⟨policy, policyMember, _, rule, ruleMember, _, rfl, _⟩ :=
    (evaluate_has_iff evaluated).1 ((mem_left value).1 member).1
  exact mem_mentioned_of_rule policyMember ruleMember

/-- Attributes that an engine without scripts does not mention have no influence on a pass: it
succeeds with and without them, and permits, denies and releases the same. -/
theorem filter_ignores_unmentioned (engine : Engine) {before after : FilterContext}
    (noScript : ∀ node ∈ engine.nodes, node.isScript = false)
    (facts : before.request.facts = after.request.facts)
    (resolve : before.request.resolve = after.request.resolve)
    (same : ∀ id ∈ engine.mentioned,
      before.request.attribute? id = after.request.attribute? id) :
    (engine.filter before).2 = none ∧ (engine.filter after).2 = none ∧
      (engine.filter before).1.workArea = (engine.filter after).1.workArea ∧
      (engine.filter before).1.released = (engine.filter after).1.released := by
  obtain ⟨area, evaluated, filtered⟩ := exists_evaluate noScript before
  obtain ⟨areaAfter, evaluatedAfter, filteredAfter⟩ := exists_evaluate noScript after
  have evaluatedSame : engine.evaluate before.request = engine.evaluate after.request :=
    applyPolicies_congr
      (sameOn_of_attributes facts resolve noScript fun _ member id named =>
        same id (mem_mentioned_of_node member named))
      (fun _ member _ ruleMember => same _ (mem_mentioned_of_rule member ruleMember)) .empty
  cases evaluated.symm.trans (evaluatedSame.trans evaluatedAfter)
  rw [filtered, filteredAfter]
  exact ⟨rfl, rfl, rfl, Request.release_congr fun id _ isLeft =>
    same id (mem_mentioned_of_released evaluated isLeft)⟩

/-- Permits the mail address of staff, unless it is marked as private. -/
def mailOfStaff : Engine :=
  ⟨"example", [⟨"mail", .attributeValues "role" (.value (.exact "staff" false)),
    [⟨"mail", .permit, .not (.fromRule (.valueCount ⟨"private", some 1, none⟩))⟩]⟩]⟩

/-- A request of a member of staff with a mail address and further attributes. -/
def staffWith (others : List Attribute) : FilterContext :=
  .ofRequest { Request.blank with
    attributes := Request.byId
      ([.ofValues "role" [.string "staff"], .ofValues "mail" [.string "jsmith@example.org"]] ++
        others) }

/-- A telephone number makes no difference to the release of a mail address. -/
theorem mailOfStaff_ignores_phone :
    (mailOfStaff.filter (staffWith [])).2 = none ∧
      (mailOfStaff.filter (staffWith [.ofValues "phone" [.string "123"]])).2 = none ∧
      (mailOfStaff.filter (staffWith [])).1.workArea =
        (mailOfStaff.filter (staffWith [.ofValues "phone" [.string "123"]])).1.workArea ∧
      (mailOfStaff.filter (staffWith [])).1.released =
        (mailOfStaff.filter (staffWith [.ofValues "phone" [.string "123"]])).1.released :=
  filter_ignores_unmentioned mailOfStaff (by decide) rfl rfl (by decide)

end Engine

end AttributeRelease
