import AttributeRelease.Proofs.Rule.Agreement
import AttributeRelease.Proofs.Rule.Gain
import AttributeRelease.Proofs.Rule.Verdict

/-!
# When more facts are known

A rule fails for want of a fact, and a matcher made from it does not apply. Whatever else rules and
matchers come to without scripts has been decided by facts that are known, and more facts do not
change it: `Request.Extends.decided_stays`. Only a conjunction of matchers decides for want of a fact,
as it selects nothing where a part does not apply; there must be none.
-/

namespace AttributeRelease

/-- Facts among which are all that are known elsewhere, with what they say there. -/
structure Facts.Extends (after before : Facts) : Prop where
  issuer : ∀ id, before.issuer = some id → after.issuer = some id
  requester : ∀ id, before.requester = some id → after.requester = some id
  principal : ∀ name, before.principal = some name → after.principal = some name
  authenticationMethod : ∀ method,
    before.authenticationMethod = some method → after.authenticationMethod = some method
  proxiedRequesters : ∀ ids,
    before.proxiedRequesters = some ids → after.proxiedRequesters = some ids

/-- Facts extend themselves. -/
theorem Facts.Extends.refl (facts : Facts) : facts.Extends facts :=
  ⟨fun _ => id, fun _ => id, fun _ => id, fun _ => id, fun _ => id⟩

/-- A request of which at least as many facts are known as of another, and which is like it in all
else that rules read. -/
structure Request.Extends (after before : Request) : Prop where
  facts : after.facts.Extends before.facts
  attributes : after.attributes = before.attributes
  metadata : ∀ party, after.metadata? party = before.metadata? party

variable {before after : Request} {trend : Trend}

/-- A request of which more is known has the same attributes. -/
theorem Request.Extends.attribute? (more : after.Extends before) (id : String) :
    before.attribute? id = after.attribute? id :=
  congrArg (·.find? id) more.attributes.symm

/-- A comparison of a fact that is missing fails, and is open; that of a known one is settled. -/
theorem FactKind.evaluate_gains {before after : Facts} (more : after.Extends before)
    (kind : FactKind) (test : StringMatch) :
    (kind.evaluate before test).Gains trend (kind.evaluate after test) := by
  have single : ∀ known later : Option String, (∀ text, known = some text → later = some text) →
      (FactKind.evaluate.single test known).Gains trend
        (FactKind.evaluate.single test later) := by
    intro known later stays
    cases known with
    | none => exact .settled _
    | some text =>
      rw [stays text rfl]
      exact .same _
  cases kind with
  | issuer => exact single _ _ more.issuer
  | requester => exact single _ _ more.requester
  | principal => exact single _ _ more.principal
  | authenticationMethod => exact single _ _ more.authenticationMethod
  | proxiedRequester =>
    simp only [FactKind.evaluate]
    cases known : before.proxiedRequesters with
    | none => exact .settled _
    | some ids =>
      rw [more.proxiedRequesters ids known]
      exact .same _

namespace Node

variable {node : Node}

/-- A node without scripts that reads the same from two requests gives the same on them. -/
theorem gains_of_readsAlike (metadata : ∀ party, before.metadata? party = after.metadata? party)
    (noScript : ∀ inner ∈ node.nodes, inner.isScript = false)
    (alike : ∀ inner ∈ node.nodes, inner.ReadsAlike before after) :
    node.Gains trend before after := by
  have same := sameOn_of_readsAlike metadata node alike
  have decides := node.decides_of_noScript before noScript
  cases node with
  | rule r =>
    obtain ⟨outcome, evaluated⟩ := decides
    exact ⟨outcome, outcome, evaluated, (Eq.symm same).trans evaluated, .same _⟩
  | matcher m =>
    intro resolved
    obtain ⟨verdict, judged⟩ := decides resolved.id
    exact ⟨_, _, judged resolved rfl, (same resolved).symm.trans (judged resolved rfl), .same _⟩

/-- A node that is made of no others compares a fact, or reads nothing that more facts change. -/
theorem gains_of_leaf (more : after.Extends before)
    (noScript : ∀ inner ∈ node.nodes, inner.isScript = false) (noParts : node.parts = []) :
    node.Gains trend before after := by
  cases asks : node.factKind? with
  | some kind =>
    match node, asks with
    | rule (.fact _ test), rfl => exact ⟨_, _, rfl, rfl, kind.evaluate_gains more.facts test⟩
  | none =>
    have alike : node.ReadsAlike before after :=
      { noScript := noScript node node.self_mem_nodes
        facts := fun _ asked => nomatch asks.symm.trans asked
        attributes := fun id _ => more.attribute? id }
    refine gains_of_readsAlike (fun party => (more.metadata party).symm) noScript ?_
    rw [forall_mem_nodes_iff]
    exact ⟨alike, by simp [noParts]⟩

/-- With more facts a node gains what its parts gain. What it negates must not have grown, and a
conjunction of matchers can grow even if its parts do not. -/
theorem gains_of_parts (more : after.Extends before)
    (noScript : ∀ inner ∈ node.nodes, inner.isScript = false)
    (conjunction : node.isConjunction = true → trend = .growing)
    (parts : ∀ part ∈ node.parts, part.Gains trend before after)
    (negated : ∀ part, node.negated? = some part → part.Gains .steady before after) :
    node.Gains trend before after := by
  match node with
  | rule .any | rule .none | rule (.fact _ _) | rule (.valueCount _) | rule (.metadata _)
  | rule (.script _) | matcher .any | matcher (.value _) | matcher (.scope _) | matcher (.script _)
  | matcher (.metadata _) | matcher (.requested _) => exact gains_of_leaf more noScript rfl
  | rule (.and rules) =>
    exact evaluateAnd_gains fun part member => parts (rule part) (List.mem_map_of_mem member)
  | rule (.or rules) =>
    exact evaluateOr_gains fun part member => parts (rule part) (List.mem_map_of_mem member)
  | rule (.not part) =>
    obtain ⟨first, second, evaluated, evaluatedAfter, gains⟩ := negated (rule part) rfl
    simp only [Gains, Rule.evaluate, evaluated, evaluatedAfter]
    exact ⟨_, _, rfl, rfl, gains.not⟩
  | rule (.attributeValues id part) =>
    cases found : before.attribute? id with
    | none =>
      simp only [Gains, Rule.evaluate, ← more.attribute?, found]
      exact ⟨_, _, rfl, rfl, .same _⟩
    | some resolved =>
      obtain ⟨first, second, selected, selectedAfter, gains⟩ :=
        parts (matcher part) List.mem_cons_self resolved
      simp only [Gains, Rule.evaluate, ← more.attribute?, found, selected, selectedAfter]
      exact ⟨_, _, rfl, rfl, gains.toOutcome⟩
  | matcher (.and matchers) =>
    cases conjunction rfl
    intro resolved
    obtain ⟨first, second, selected, selectedAfter, gains⟩ :=
      selectAll_gains resolved fun part member =>
        parts (matcher part) (List.mem_map_of_mem member)
    simp only [Matcher.select, selected, selectedAfter]
    exact ⟨_, _, rfl, rfl, Selection.Gains.common gains⟩
  | matcher (.or matchers) =>
    intro resolved
    obtain ⟨first, second, selected, selectedAfter, gains⟩ :=
      selectAll_gains resolved fun part member =>
        parts (matcher part) (List.mem_map_of_mem member)
    simp only [Matcher.select, selected, selectedAfter]
    exact ⟨_, _, rfl, rfl, Selection.Gains.joined gains⟩
  | matcher (.not part) =>
    intro resolved
    obtain ⟨first, second, selected, selectedAfter, gains⟩ := negated (matcher part) rfl resolved
    simp only [Matcher.select, selected, selectedAfter]
    exact ⟨_, _, rfl, rfl, gains.complement⟩
  | matcher (.fromRule part) =>
    intro resolved
    obtain ⟨first, second, evaluated, evaluatedAfter, gains⟩ :=
      parts (rule part) List.mem_cons_self
    simp only [Matcher.select, evaluated, evaluatedAfter]
    exact ⟨_, _, rfl, rfl, Selection.Gains.ofOutcome gains⟩

/-- Without scripts and conjunctions of matchers, nothing that was decided changes with more
facts. -/
theorem gains_of_extends (more : after.Extends before) (node : Node)
    (noScript : ∀ inner ∈ node.nodes, inner.isScript = false)
    (noConjunction : ∀ inner ∈ node.nodes, inner.isConjunction = false) :
    node.Gains .steady before after := by
  induction node using induction with
  | step node ih =>
    obtain ⟨notConjunction, partNoConjunction⟩ := forall_mem_nodes_iff.1 noConjunction
    have partNoScript := (forall_mem_nodes_iff.1 noScript).2
    have partGains : ∀ part ∈ node.parts, part.Gains .steady before after := by
      intro part member
      exact ih part member (partNoScript part member) (partNoConjunction part member)
    apply gains_of_parts more noScript
    · intro isConjunction
      cases notConjunction.symm.trans isConjunction
    · exact partGains
    · intro part negated
      exact partGains part (mem_parts_of_negated negated)

end Node

/-- What is decided stays when more facts become known. A rule without scripts and conjunctions of
matchers that is true or false stays so, and a matcher without them that applies to an attribute
selects the same values of it. Only failures, and matchers that do not apply, can change. -/
theorem Request.Extends.decided_stays (more : after.Extends before) :
    (∀ rule : Rule,
      (∀ node ∈ rule.nodes, node.isScript = false ∧ node.isConjunction = false) →
        ∃ first second, rule.evaluate before = .ok first ∧ rule.evaluate after = .ok second ∧
          (first ≠ .fail → second = first)) ∧
    ∀ matcher : Matcher,
      (∀ node ∈ matcher.nodes, node.isScript = false ∧ node.isConjunction = false) →
        ∀ resolved, ∃ first second, matcher.select before resolved = .ok first ∧
          matcher.select after resolved = .ok second ∧
          (first ≠ .notApplicable → second = first) := by
  constructor
  · intro rule plain
    obtain ⟨first, second, evaluated, evaluatedAfter, gains⟩ :=
      Node.gains_of_extends more (.rule rule) (fun node member => (plain node member).1)
        fun node member => (plain node member).2
    refine ⟨first, second, evaluated, evaluatedAfter, fun decided => ?_⟩
    cases gains with
    | settled => exact absurd rfl decided
    | same => rfl
  · intro matcher plain resolved
    obtain ⟨first, second, selected, selectedAfter, gains⟩ :=
      Node.gains_of_extends more (.matcher matcher) (fun node member => (plain node member).1)
        (fun node member => (plain node member).2) resolved
    refine ⟨first, second, selected, selectedAfter, fun applies => ?_⟩
    cases gains with
    | settled => exact absurd rfl applies
    | same => rfl

/-- True for an administrator, and for a certain requester whoever asks. -/
def adminOrElsewhere : Rule :=
  .or [.fact .principal (.exact "admin" false),
    .fact .requester (.exact "https://idp.example.org" false)]

/-- Selects all values but one, and that one too if the rule holds. -/
def withoutStaffUnlessAdmin : Matcher :=
  .or [.not (.value (.exact "staff" false)), .fromRule adminOrElsewhere]

/-- The same request once its principal is known. -/
def namedAndKnown : Request :=
  { namedElsewhere with facts := { namedElsewhere.facts with principal := some "jsmith" } }

/-- What was decided before the principal is known stays so. -/
theorem adminOrElsewhere_stays :
    namedAndKnown.Extends namedElsewhere ∧
      (∀ node ∈ adminOrElsewhere.nodes, node.isScript = false ∧ node.isConjunction = false) ∧
      (∀ node ∈ withoutStaffUnlessAdmin.nodes,
        node.isScript = false ∧ node.isConjunction = false) ∧
      adminOrElsewhere.evaluate namedElsewhere = .ok .true ∧
      adminOrElsewhere.evaluate namedAndKnown = .ok .true ∧
      ∃ selection, selection ≠ .notApplicable ∧
        withoutStaffUnlessAdmin.select namedElsewhere (.ofValues "role" [.string "staff"]) =
          .ok selection ∧
        withoutStaffUnlessAdmin.select namedAndKnown (.ofValues "role" [.string "staff"]) =
          .ok selection := by
  have more : namedAndKnown.Extends namedElsewhere :=
    { facts := { Facts.Extends.refl namedElsewhere.facts with
        principal := fun _ known => nomatch known }
      attributes := rfl
      metadata := fun party => by cases party <;> rfl }
  have plainRule : ∀ node ∈ adminOrElsewhere.nodes,
      node.isScript = false ∧ node.isConjunction = false := by decide
  have plainMatcher : ∀ node ∈ withoutStaffUnlessAdmin.nodes,
      node.isScript = false ∧ node.isConjunction = false := by decide
  have isTrue : adminOrElsewhere.evaluate namedElsewhere = .ok .true := by decide
  have applies : withoutStaffUnlessAdmin.select namedElsewhere
      (.ofValues "role" [.string "staff"]) ≠ .ok .notApplicable := by decide
  obtain ⟨ruleStays, matcherStays⟩ := Request.Extends.decided_stays more
  obtain ⟨first, second, evaluated, evaluatedAfter, stays⟩ := ruleStays adminOrElsewhere plainRule
  cases evaluated.symm.trans isTrue
  obtain ⟨selection, later, selected, selectedAfter, same⟩ :=
    matcherStays withoutStaffUnlessAdmin plainMatcher (.ofValues "role" [.string "staff"])
  have decided : selection ≠ .notApplicable := by
    rintro rfl
    exact applies selected
  exact ⟨more, plainRule, plainMatcher, isTrue, stays (by decide) ▸ evaluatedAfter,
    selection, decided, selected, same decided ▸ selectedAfter⟩

end AttributeRelease
