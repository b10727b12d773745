import AttributeRelease.Rule.Basic

/-!
# Nodes of rules and matchers

Rules and matchers are made of each other. A node is either of them, so that a statement about both
is one statement, with `Node.induction` for the induction that goes down both at once. `Node.nodes`
lists all that a node is made of, so that what is asked of every node in a rule can be computed.
-/

namespace AttributeRelease

/-- A rule or a matcher. -/
inductive Node where
  | rule (rule : Rule)
  | matcher (matcher : Matcher)

mutual

/-- The rule itself and all that stands in it, at any depth. -/
def Rule.nodes : Rule → List Node
  | .and rules => .rule (.and rules) :: nodesOfRules rules
  | .or rules => .rule (.or rules) :: nodesOfRules rules
  | .not part => .rule (.not part) :: part.nodes
  | .attributeValues id matcher => .rule (.attributeValues id matcher) :: matcher.nodes
  | leaf => [.rule leaf]

/-- The matcher itself and all that stands in it, at any depth. -/
def Matcher.nodes : Matcher → List Node
  | .and matchers => .matcher (.and matchers) :: nodesOfMatchers matchers
  | .or matchers => .matcher (.or matchers) :: nodesOfMatchers matchers
  | .not part => .matcher (.not part) :: part.nodes
  | .fromRule rule => .matcher (.fromRule rule) :: rule.nodes
  | leaf => [.matcher leaf]

/-- All that stands in several rules. -/
def nodesOfRules : List Rule → List Node
  | [] => []
  | rule :: rest => rule.nodes ++ nodesOfRules rest

/-- All that stands in several matchers. -/
def nodesOfMatchers : List Matcher → List Node
  | [] => []
  | matcher :: rest => matcher.nodes ++ nodesOfMatchers rest

end

namespace Node

/-- The node itself and all that stands in it, at any depth. -/
def nodes : Node → List Node
  | rule r => r.nodes
  | matcher m => m.nodes

/-- The nodes that a node is made of directly. -/
def parts : Node → List Node
  | rule (.and rules) => rules.map rule
  | rule (.or rules) => rules.map rule
  | rule (.not part) => [rule part]
  | rule (.attributeValues _ part) => [matcher part]
  | matcher (.and matchers) => matchers.map matcher
  | matcher (.or matchers) => matchers.map matcher
  | matcher (.not part) => [matcher part]
  | matcher (.fromRule part) => [rule part]
  | _ => []

/-- Whether the node is a script. -/
def isScript : Node → Bool
  | rule (.script _) => true
  | matcher (.script _) => true
  | _ => false

/-- The attribute that the node asks about, other than the one whose values are selected. -/
def attributeId? : Node → Option String
  | rule (.valueCount count) => some count.attributeId
  | rule (.attributeValues id _) => some id
  | _ => none

/-- The fact that the node asks about. -/
def factKind? : Node → Option FactKind
  | rule (.fact kind _) => some kind
  | _ => none

/-- Whether the node is a conjunction of matchers. -/
def isConjunction : Node → Bool
  | matcher (.and _) => true
  | _ => false

/-- What the node negates. -/
def negated? : Node → Option Node
  | rule (.not part) => some (rule part)
  | matcher (.not part) => some (matcher part)
  | _ => none

/-- What a node negates is a part of it. -/
theorem mem_parts_of_negated {node part : Node} (negated : node.negated? = some part) :
    part ∈ node.parts := by
  match node, negated with
  | rule (.not _), rfl | matcher (.not _), rfl => exact List.mem_cons_self

/-- In several rules stands what stands in each. -/
theorem nodesOfRules_eq (rules : List Rule) :
    nodesOfRules rules = (rules.map rule).flatMap nodes := by
  induction rules with
  | nil => rfl
  | cons head rest ih =>
    rw [nodesOfRules, ih]
    rfl

/-- In several matchers stands what stands in each. -/
theorem nodesOfMatchers_eq (matchers : List Matcher) :
    nodesOfMatchers matchers = (matchers.map matcher).flatMap nodes := by
  induction matchers with
  | nil => rfl
  | cons head rest ih =>
    rw [nodesOfMatchers, ih]
    rfl

/-- In a node stand the node itself and what stands in its parts. -/
theorem nodes_eq (node : Node) : node.nodes = node :: node.parts.flatMap nodes := by
  cases node with
  | rule r => cases r <;> simp [nodes, Rule.nodes, parts, nodesOfRules_eq]
  | matcher m => cases m <;> simp [nodes, Matcher.nodes, parts, nodesOfMatchers_eq]

/-- A node stands in itself. -/
theorem self_mem_nodes (node : Node) : node ∈ node.nodes := by
  rw [nodes_eq]
  exact List.mem_cons_self

/-- A property of all nodes in a node, one level at a time. -/
theorem forall_mem_nodes_iff {property : Node → Prop} {node : Node} :
    (∀ inner ∈ node.nodes, property inner) ↔
      property node ∧ ∀ part ∈ node.parts, ∀ inner ∈ part.nodes, property inner := by
  rw [nodes_eq, List.forall_mem_cons, List.forall_mem_flatMap]

/-- A part is smaller than the node that it is a part of. -/
theorem sizeOf_lt_of_mem_parts {part node : Node} (member : part ∈ node.parts) :
    sizeOf part < sizeOf node := by
  unfold parts at member
  split at member
  case h_1 | h_2 | h_5 | h_6 =>
    obtain ⟨inner, innerMember, rfl⟩ := List.mem_map.1 member
    have smaller := List.sizeOf_lt_of_mem innerMember
    simp only [rule.sizeOf_spec, matcher.sizeOf_spec, Rule.and.sizeOf_spec, Rule.or.sizeOf_spec,
      Matcher.and.sizeOf_spec, Matcher.or.sizeOf_spec]
    omega
  case h_9 => cases member
  all_goals
    cases List.mem_singleton.1 member
    simp only [rule.sizeOf_spec, matcher.sizeOf_spec, Rule.not.sizeOf_spec,
      Rule.attributeValues.sizeOf_spec, Matcher.not.sizeOf_spec, Matcher.fromRule.sizeOf_spec]
    omega

/-- What holds of a node if it holds of its parts holds of every node. -/
@[elab_as_elim]
theorem induction {motive : Node → Prop}
    (step : ∀ node, (∀ part ∈ node.parts, motive part) → motive node) (node : Node) :
    motive node :=
  step node fun part _ => induction step part
termination_by sizeOf node
decreasing_by exact sizeOf_lt_of_mem_parts ‹_›

end Node

/-- What holds of a matcher if it holds of the matchers that it is made of directly holds of every
matcher, whatever its rules are. -/
@[elab_as_elim]
theorem Matcher.induction {motive : Matcher → Prop}
    (step : ∀ matcher, (∀ part, .matcher part ∈ (Node.matcher matcher).parts → motive part) →
      motive matcher) (matcher : Matcher) : motive matcher :=
  step matcher fun part _ => Matcher.induction step part
termination_by sizeOf matcher
decreasing_by
  have smaller := Node.sizeOf_lt_of_mem_parts ‹_›
  simpa only [Node.matcher.sizeOf_spec, Nat.add_lt_add_iff_left] using smaller

end AttributeRelease
