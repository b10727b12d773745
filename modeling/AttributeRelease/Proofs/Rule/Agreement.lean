import AttributeRelease.Proofs.Outcome
import AttributeRelease.Proofs.Rule.Node
import AttributeRelease.Rule.Evaluation

/-!
# Requests that a rule cannot tell apart

A rule or a matcher without scripts reads of a request the facts that it compares, the attributes
that it names and the metadata of the parties. On two requests that have these in common it gives the
same, whatever else is in them.
-/

namespace AttributeRelease

open Outcome

/-- Two requests give a node the same to read, apart from what stands in it and from metadata. -/
structure Node.ReadsAlike (before after : Request) (node : Node) : Prop where
  noScript : node.isScript = false
  facts : ∀ kind, node.factKind? = some kind → ∀ test,
    kind.evaluate before.facts test = kind.evaluate after.facts test
  attributes : ∀ id, node.attributeId? = some id → before.attribute? id = after.attribute? id

/-- A node gives the same on two requests, a matcher for every attribute. -/
def Node.SameOn (before after : Request) : Node → Prop
  | rule r => r.evaluate before = r.evaluate after
  | matcher m => ∀ resolved, m.select before resolved = m.select after resolved

variable {before after : Request}

/-- A check of metadata holds on both of two requests with the same metadata, or on neither. -/
theorem MetadataCheck.holds_congr
    (metadata : ∀ party, before.metadata? party = after.metadata? party) (check : MetadataCheck) :
    check.holds before = check.holds after := by
  cases check <;> simp only [holds, metadata]

/-- What is requested selects the same on two requests with the same metadata. -/
theorem RequestedMatch.select_congr
    (metadata : ∀ party, before.metadata? party = after.metadata? party) (sought : RequestedMatch)
    (resolved : Attribute) : sought.select before resolved = sought.select after resolved := by
  simp only [select, metadata]

/-- A conjunction that is under way comes to the same on two requests if its rules do. -/
theorem evaluateAndWith_congr {rules : List Rule}
    (same : ∀ rule ∈ rules, rule.evaluate before = rule.evaluate after) (found : Tristate) :
    evaluateAndWith before found rules = evaluateAndWith after found rules := by
  induction rules generalizing found with
  | nil => rfl
  | cons rule rest ih =>
    obtain ⟨headSame, restSame⟩ := List.forall_mem_cons.1 same
    simp only [evaluateAndWith, headSame, ih restSame]

/-- A conjunction comes to the same on two requests if its rules do. -/
theorem evaluateAnd_congr {rules : List Rule}
    (same : ∀ rule ∈ rules, rule.evaluate before = rule.evaluate after) :
    evaluateAnd before rules = evaluateAnd after rules := by
  cases rules with
  | nil => rfl
  | cons rule rest =>
    obtain ⟨headSame, restSame⟩ := List.forall_mem_cons.1 same
    simp only [evaluateAnd, headSame, evaluateAndWith_congr restSame]

/-- A disjunction comes to the same on two requests if its rules do. -/
theorem evaluateOr_congr {rules : List Rule}
    (same : ∀ rule ∈ rules, rule.evaluate before = rule.evaluate after) (found : Tristate) :
    evaluateOr before found rules = evaluateOr after found rules := by
  induction rules generalizing found with
  | nil => rfl
  | cons rule rest ih =>
    obtain ⟨headSame, restSame⟩ := List.forall_mem_cons.1 same
    simp only [evaluateOr, headSame, ih restSame]

/-- Matchers select the same on two requests if each of them does. -/
theorem selectAll_congr {matchers : List Matcher} {resolved : Attribute}
    (same : ∀ matcher ∈ matchers, matcher.select before resolved = matcher.select after resolved) :
    selectAll before resolved matchers = selectAll after resolved matchers := by
  induction matchers with
  | nil => rfl
  | cons matcher rest ih =>
    obtain ⟨headSame, restSame⟩ := List.forall_mem_cons.1 same
    simp only [selectAll, headSame, ih restSame]

namespace Node

/-- A node that reads the same from two requests gives the same on them. -/
theorem sameOn_of_readsAlike (metadata : ∀ party, before.metadata? party = after.metadata? party)
    (node : Node) (alike : ∀ inner ∈ node.nodes, inner.ReadsAlike before after) :
    node.SameOn before after := by
  induction node using induction with
  | step node ih =>
    obtain ⟨here, inParts⟩ := forall_mem_nodes_iff.1 alike
    have partsSame : ∀ part ∈ node.parts, part.SameOn before after :=
      fun part member => ih part member (inParts part member)
    match node with
    | rule .any | rule .none => rfl
    | rule (.and rules) => exact evaluateAnd_congr (List.forall_mem_map.1 partsSame)
    | rule (.or rules) => exact evaluateOr_congr (List.forall_mem_map.1 partsSame) _
    | rule (.not part) =>
      have same : part.evaluate before = part.evaluate after :=
        partsSame (rule part) List.mem_cons_self
      simp only [SameOn, Rule.evaluate, same]
    | rule (.fact kind test) => exact congrArg _ (here.facts kind rfl test)
    | rule (.valueCount count) =>
      have same := here.attributes _ rfl
      simp only [SameOn, Rule.evaluate, ValueCount.holds, same]
    | rule (.attributeValues id part) =>
      have same := here.attributes _ rfl
      have partSame : ∀ resolved, part.select before resolved = part.select after resolved :=
        partsSame (matcher part) List.mem_cons_self
      simp only [SameOn, Rule.evaluate, same, partSame]
    | rule (.metadata check) =>
      simp only [SameOn, Rule.evaluate, check.holds_congr metadata]
    | rule (.script _) | matcher (.script _) => cases here.noScript
    | matcher .any | matcher (.value _) | matcher (.scope _) => exact fun _ => rfl
    | matcher (.and matchers) | matcher (.or matchers) =>
      intro resolved
      have same : selectAll before resolved matchers = selectAll after resolved matchers :=
        selectAll_congr fun part member =>
          partsSame (matcher part) (List.mem_map_of_mem member) resolved
      simp only [Matcher.select, same]
    | matcher (.not part) =>
      have partSame : ∀ resolved, part.select before resolved = part.select after resolved :=
        partsSame (matcher part) List.mem_cons_self
      simp only [SameOn, Matcher.select, partSame, implies_true]
    | matcher (.metadata check) =>
      simp only [SameOn, Matcher.select, check.holds_congr metadata, implies_true]
    | matcher (.requested sought) =>
      simp only [SameOn, Matcher.select, sought.select_congr metadata, implies_true]
    | matcher (.fromRule part) =>
      have same : part.evaluate before = part.evaluate after :=
        partsSame (rule part) List.mem_cons_self
      simp only [SameOn, Matcher.select, same, implies_true]

end Node

end AttributeRelease
