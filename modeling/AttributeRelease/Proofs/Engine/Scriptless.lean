import AttributeRelease.Proofs.Engine.Failure
import AttributeRelease.Proofs.Engine.Release
import AttributeRelease.Proofs.Rule.Agreement
import AttributeRelease.Proofs.Rule.Verdict

/-!
# Engines without scripts

What stands in the rules and matchers of an engine. An engine in which there is no script never
fails, and gives the same on requests from which it reads the same.
-/

namespace AttributeRelease

/-- All that stands in the requirement and in the rules of a policy. -/
def Policy.nodes (policy : Policy) : List Node :=
  policy.requirement.nodes ++ policy.rules.flatMap fun rule => rule.matcher.nodes

/-- All that stands in the policies of an engine. -/
def Engine.nodes (engine : Engine) : List Node := engine.policies.flatMap Policy.nodes

variable {property : Node → Prop} {engine : Engine} {policy : Policy}

/-- What holds of all nodes of an engine holds of those in a requirement. -/
theorem Engine.forall_mem_requirement (every : ∀ node ∈ engine.nodes, property node)
    (member : policy ∈ engine.policies) :
    ∀ node ∈ (Node.rule policy.requirement).nodes, property node :=
  fun node within => every node (List.mem_flatMap.2 ⟨policy, member, List.mem_append_left _ within⟩)

/-- What holds of all nodes of an engine holds of those in a matcher. -/
theorem Engine.forall_mem_matcher (every : ∀ node ∈ engine.nodes, property node)
    (member : policy ∈ engine.policies) {rule : AttributeRule} (ruleMember : rule ∈ policy.rules) :
    ∀ node ∈ (Node.matcher rule.matcher).nodes, property node :=
  fun node within => every node (List.mem_flatMap.2 ⟨policy, member,
    List.mem_append_right _ (List.mem_flatMap.2 ⟨rule, ruleMember, within⟩)⟩)

/-- Without scripts a pass succeeds on every context. -/
theorem Engine.filter_succeeds (noScript : ∀ node ∈ engine.nodes, node.isScript = false)
    (context : FilterContext) : (engine.filter context).2 = none := by
  by_contra failed
  obtain ⟨error, failed⟩ := Option.ne_none_iff_exists'.1 failed
  obtain ⟨policy, member, policyFails⟩ := FirstIn.exists_iff.1 ⟨error, filter_eq_some_iff.1 failed⟩
  rcases Policy.exists_failsWith_iff.1 policyFails with
    ⟨cause, failed⟩ | ⟨_, rule, ruleMember, cause, resolved, _, failed⟩
  · obtain ⟨outcome, evaluated⟩ :=
      Node.decides_of_noScript context.request _ (forall_mem_requirement noScript member)
    cases evaluated.symm.trans failed
  · obtain ⟨verdict, selected⟩ := Node.decides_of_noScript context.request _
      (forall_mem_matcher noScript member ruleMember) resolved.id
    cases (selected resolved rfl).symm.trans failed

/-- A pass of an engine without scripts succeeds. -/
theorem Engine.exists_evaluate (noScript : ∀ node ∈ engine.nodes, node.isScript = false)
    (context : FilterContext) : ∃ area, engine.evaluate context.request = .ok area ∧
      engine.filter context =
        ({ context with workArea := area, released := context.request.release area }, none) :=
  exists_evaluate_of_succeeded (filter_succeeds noScript context)

/-- A policy gives the same on two requests, in its requirement and in the matchers of its rules. -/
def Policy.SameOn (before after : Request) (policy : Policy) : Prop :=
  (Node.rule policy.requirement).SameOn before after ∧
    ∀ rule ∈ policy.rules, (Node.matcher rule.matcher).SameOn before after

/-- All policies of an engine give the same on two requests. -/
def Engine.SameOn (before after : Request) (engine : Engine) : Prop :=
  ∀ policy ∈ engine.policies, policy.SameOn before after

/-- An engine without scripts gives the same on requests with the same facts and metadata that have
the attributes in common which it asks about. -/
theorem Engine.sameOn_of_attributes {before after : Request} (facts : before.facts = after.facts)
    (resolve : before.resolve = after.resolve)
    (noScript : ∀ node ∈ engine.nodes, node.isScript = false)
    (attributes : ∀ node ∈ engine.nodes, ∀ id, node.attributeId? = some id →
      before.attribute? id = after.attribute? id) : engine.SameOn before after := by
  have metadata : ∀ party, before.metadata? party = after.metadata? party := by
    intro party
    rw [Request.metadata?, Request.metadata?, facts, resolve]
  have alike : ∀ node ∈ engine.nodes, node.ReadsAlike before after := fun node member =>
    { noScript := noScript node member
      facts := fun _ _ _ => by rw [facts]
      attributes := attributes node member }
  intro policy member
  refine ⟨Node.sameOn_of_readsAlike metadata _ (forall_mem_requirement alike member), ?_⟩
  intro rule ruleMember
  exact Node.sameOn_of_readsAlike metadata _ (forall_mem_matcher alike member ruleMember)

end AttributeRelease
