import AttributeRelease.Proofs.Compile.Acceptance

/-!
# Inlining of references

An inlining gives a clause for every reference, to be written in its place. The one that belongs to a
configuration satisfies `Config.Unfolds`: each named definition is given with all references in it
replaced in turn. `Config.unfolds_fullInlining` says that a configuration that compiles has one, and
`Config.compile_inlinedBy` that its policies, written out with it, compile to the same engine without
any named definition.

Compiling a clause that was written out is compiling it with other meanings of its references
(`Clause.compile_inline`), and these are the same as before because inlined definitions compile to
what the definitions do, by induction on how many references can still be opened.
-/

namespace AttributeRelease

open Outcome

/-- What to write in the place of references. -/
structure Inlining where
  rule : String → RuleSpec
  matcher : String → MatcherSpec

mutual

/-- The rule with every reference replaced. -/
def RuleSpec.inline (inlining : Inlining) : RuleSpec → RuleSpec
  | .and rules => .and (RuleSpec.inlineAll inlining rules)
  | .or rules => .or (RuleSpec.inlineAll inlining rules)
  | .not rule => .not (rule.inline inlining)
  | .attributeMatcher id matcher => .attributeMatcher id (matcher.inline inlining)
  | .reference id => inlining.rule id
  | .any => .any
  | .none => .none
  | .fact kind test => .fact kind test
  | .valueCount id least most => .valueCount id least most
  | .attributeValue id test => .attributeValue id test
  | .attributeScope id test => .attributeScope id test
  | .entityAttributeText name format text party => .entityAttributeText name format text party
  | .entityAttributePattern name format pattern party =>
    .entityAttributePattern name format pattern party
  | .nameIdFormat format => .nameIdFormat format
  | .registrationAuthority authorities ifSilent => .registrationAuthority authorities ifSilent
  | .entityGroup group party => .entityGroup group party
  | .script source => .script source

/-- The rules with every reference replaced. -/
def RuleSpec.inlineAll (inlining : Inlining) : List RuleSpec → List RuleSpec
  | [] => []
  | rule :: rest => rule.inline inlining :: RuleSpec.inlineAll inlining rest

/-- The matcher with every reference replaced. -/
def MatcherSpec.inline (inlining : Inlining) : MatcherSpec → MatcherSpec
  | .and matchers => .and (MatcherSpec.inlineAll inlining matchers)
  | .or matchers => .or (MatcherSpec.inlineAll inlining matchers)
  | .not matcher => .not (matcher.inline inlining)
  | .rule rule => .rule (rule.inline inlining)
  | .reference id => inlining.matcher id
  | .any => .any
  | .value test => .value test
  | .scope test => .scope test
  | .script source => .script source
  | .requested sought => .requested sought

/-- The matchers with every reference replaced. -/
def MatcherSpec.inlineAll (inlining : Inlining) : List MatcherSpec → List MatcherSpec
  | [] => []
  | matcher :: rest => matcher.inline inlining :: MatcherSpec.inlineAll inlining rest

end

/-- References are replaced in each rule of a list. -/
theorem RuleSpec.inlineAll_eq_map {inlining : Inlining} {rules : List RuleSpec} :
    RuleSpec.inlineAll inlining rules = rules.map (·.inline inlining) := by
  induction rules with
  | nil => rw [RuleSpec.inlineAll, List.map_nil]
  | cons rule rest ih => rw [RuleSpec.inlineAll, List.map_cons, ih]

/-- References are replaced in each matcher of a list. -/
theorem MatcherSpec.inlineAll_eq_map {inlining : Inlining} {matchers : List MatcherSpec} :
    MatcherSpec.inlineAll inlining matchers = matchers.map (·.inline inlining) := by
  induction matchers with
  | nil => rw [MatcherSpec.inlineAll, List.map_nil]
  | cons matcher rest ih => rw [MatcherSpec.inlineAll, List.map_cons, ih]

/-- The clause to write in the place of a reference. -/
def Inlining.get (inlining : Inlining) : Reference → Clause
  | .rule id => .rule (inlining.rule id)
  | .matcher id => .matcher (inlining.matcher id)

namespace Clause

variable {host : ScriptHost} {limit : UInt64}

/-- The clause with every reference replaced. -/
def inline (inlining : Inlining) : Clause → Clause
  | rule spec => rule (spec.inline inlining)
  | matcher spec => matcher (spec.inline inlining)

/-- A clause with its references replaced compiles to what it compiles to with them, if each stands
for what its replacement compiles to. -/
theorem compile_inline {inlining : Inlining} {left right : References} {clause : Clause}
    (same : ∀ target, clause.Mentions target →
      (inlining.get target).compile host limit left = right.get target) :
    (clause.inline inlining).compile host limit left = clause.compile host limit right := by
  induction clause using Clause.induction with
  | step clause ih =>
    have partSame : ∀ part ∈ clause.parts,
        (part.inline inlining).compile host limit left = part.compile host limit right := by
      intro part member
      exact ih part member fun target mentions => same target (mentions.of_part member)
    have ruleSame : ∀ spec, rule spec ∈ clause.parts →
        compileRule host limit left (spec.inline inlining) = compileRule host limit right spec :=
      fun spec member => map_inj (fun _ _ => Sum.inl.inj) (partSame _ member)
    have matcherSame : ∀ spec, matcher spec ∈ clause.parts →
        compileMatcher host limit left (spec.inline inlining) =
          compileMatcher host limit right spec :=
      fun spec member => map_inj (fun _ _ => Sum.inr.inj) (partSame _ member)
    cases clause with
    | rule spec =>
      cases spec
      case and rules | or rules =>
        cases rules with
        | nil => simp only [inline, RuleSpec.inline, RuleSpec.inlineAll, compile, compileRule]
        | cons first rest =>
          have firstSame := ruleSame first (List.mem_cons_self ..)
          have restSame := mapM_map_congr fun spec (member : spec ∈ rest) =>
            ruleSame spec (List.mem_cons_of_mem _ (List.mem_map_of_mem member))
          simp only [inline, RuleSpec.inline, RuleSpec.inlineAll, RuleSpec.inlineAll_eq_map, compile,
            compileRule, Compile.compileRules_eq_mapM, firstSame, restSame]
      case not part =>
        simp only [inline, RuleSpec.inline, compile, compileRule, ruleSame part (by simp [parts])]
      case attributeMatcher id part =>
        simp only [inline, RuleSpec.inline, compile, compileRule,
          matcherSame part (by simp [parts])]
      case reference id => exact same (.rule id) ⟨_, .self, rfl⟩
      all_goals simp only [inline, RuleSpec.inline, compile, compileRule]
    | matcher spec =>
      cases spec
      case and matchers | or matchers =>
        have matchersSame := mapM_map_congr fun spec (member : spec ∈ matchers) =>
          matcherSame spec (List.mem_map_of_mem member)
        simp only [inline, MatcherSpec.inline, MatcherSpec.inlineAll_eq_map, compile,
          compileMatcher, Compile.compileMatchers_eq_mapM, matchersSame]
      case not part =>
        simp only [inline, MatcherSpec.inline, compile, compileMatcher,
          matcherSame part (by simp [parts])]
      case rule part =>
        simp only [inline, MatcherSpec.inline, compile, compileMatcher,
          ruleSame part (by simp [parts])]
      case reference id => exact same (.matcher id) ⟨_, .self, rfl⟩
      all_goals simp only [inline, MatcherSpec.inline, compile, compileMatcher]

/-- Only what a clause mentions matters for its replacement. -/
theorem inline_congr {left right : Inlining} {clause : Clause}
    (same : ∀ target, clause.Mentions target → left.get target = right.get target) :
    clause.inline left = clause.inline right := by
  induction clause using Clause.induction with
  | step clause ih =>
    have partSame : ∀ part ∈ clause.parts, part.inline left = part.inline right := by
      intro part member
      exact ih part member fun target mentions => same target (mentions.of_part member)
    have ruleSame : ∀ spec, rule spec ∈ clause.parts → spec.inline left = spec.inline right :=
      fun spec member => rule.inj (partSame _ member)
    have matcherSame : ∀ spec, matcher spec ∈ clause.parts →
        spec.inline left = spec.inline right :=
      fun spec member => matcher.inj (partSame _ member)
    cases clause with
    | rule spec =>
      cases spec
      case and rules | or rules =>
        have rulesSame := List.map_congr_left fun spec (member : spec ∈ rules) =>
          ruleSame spec (List.mem_map_of_mem member)
        simp only [inline, RuleSpec.inline, RuleSpec.inlineAll_eq_map, rulesSame]
      case not part => simp only [inline, RuleSpec.inline, ruleSame part (by simp [parts])]
      case attributeMatcher id part =>
        simp only [inline, RuleSpec.inline, matcherSame part (by simp [parts])]
      case reference id => exact same (.rule id) ⟨_, .self, rfl⟩
      all_goals simp only [inline, RuleSpec.inline]
    | matcher spec =>
      cases spec
      case and matchers | or matchers =>
        have matchersSame := List.map_congr_left fun spec (member : spec ∈ matchers) =>
          matcherSame spec (List.mem_map_of_mem member)
        simp only [inline, MatcherSpec.inline, MatcherSpec.inlineAll_eq_map, matchersSame]
      case not part => simp only [inline, MatcherSpec.inline, matcherSame part (by simp [parts])]
      case rule part => simp only [inline, MatcherSpec.inline, ruleSame part (by simp [parts])]
      case reference id => exact same (.matcher id) ⟨_, .self, rfl⟩
      all_goals simp only [inline, MatcherSpec.inline]

end Clause

/-- The attribute rule with every reference in it replaced. -/
def AttributeRuleSpec.inline (inlining : Inlining) (rule : AttributeRuleSpec) :
    AttributeRuleSpec :=
  { rule with
    permit := rule.permit.map (·.inline inlining)
    deny := rule.deny.map (·.inline inlining) }

/-- The policy with every reference in it replaced. -/
def PolicySpec.inline (inlining : Inlining) (policy : PolicySpec) : PolicySpec :=
  { policy with
    requirement := policy.requirement.inline inlining
    rules := policy.rules.map (·.inline inlining) }

namespace Config

variable {config : Config} {host : ScriptHost} {inlining : Inlining}

/-- Every name is replaced by its definition, in which all references are replaced in turn. -/
def Unfolds (config : Config) (inlining : Inlining) : Prop :=
  ∀ reference definition, config.definition? reference = some definition →
    inlining.get reference = definition.inline inlining

/-- The configuration with all references in policies replaced and without named definitions. -/
def inlinedBy (config : Config) (inlining : Inlining) : Config :=
  { config with definitions := ⟨∅, ∅, config.definitions.policies.map (·.inline inlining)⟩ }

/-- What to write in the place of names if references are replaced to some depth. -/
def inliningTo (config : Config) : (depth : Nat) → Inlining
  | 0 => ⟨.reference, .reference⟩
  | depth + 1 =>
    { rule := fun id =>
        match config.definitions.rules.find? id with
        | some spec => spec.inline (config.inliningTo depth)
        | none => .reference id
      matcher := fun id =>
        match config.definitions.matchers.find? id with
        | some spec => spec.inline (config.inliningTo depth)
        | none => .reference id }

/-- What to write in the place of names: deeper than there are definitions, nothing changes. -/
def fullInlining (config : Config) : Inlining :=
  config.inliningTo (config.references.length + 1)

/-- One level deeper, a name is replaced by its definition with references replaced to the level
before. -/
theorem get_inliningTo_succ {depth : Nat} {reference : Reference} {definition : Clause}
    (found : config.definition? reference = some definition) :
    (config.inliningTo (depth + 1)).get reference =
      definition.inline (config.inliningTo depth) := by
  cases reference with
  | rule id =>
    obtain ⟨spec, listed, rfl⟩ := Option.map_eq_some_iff.1 found
    simp only [Inlining.get, inliningTo, listed, Clause.inline]
  | matcher id =>
    obtain ⟨spec, listed, rfl⟩ := Option.map_eq_some_iff.1 found
    simp only [Inlining.get, inliningTo, listed, Clause.inline]

/-- A clause that compiles is replaced in the same way at all depths that compiling it can reach. -/
theorem inline_inliningTo {openOnes : List Reference} {left depth : Nat} {clause : Clause}
    (compiles : clause.Compiles host config.engine.maxScriptLength
      (.within config host left openOnes)) (deep : left ≤ depth) :
    clause.inline (config.inliningTo depth) = clause.inline (config.inliningTo left) := by
  induction left using Nat.strongRecOn generalizing openOnes depth clause with
  | ind left ih =>
    refine Clause.inline_congr fun target mentions => ?_
    obtain ⟨definition, fewer, found, _, rfl, deeper⟩ :=
      (References.compiles_within_iff.1 compiles).2 target mentions
    obtain ⟨rest, rfl⟩ := Nat.exists_eq_add_of_le' deep
    rw [← Nat.add_assoc, get_inliningTo_succ found, get_inliningTo_succ found]
    exact ih fewer (Nat.lt_succ_self fewer) deeper (Nat.le_add_left fewer rest)

/-- In a configuration that compiles, references can be replaced once and for all. -/
theorem unfolds_fullInlining {engine : Engine} (compiled : config.compile host = .ok engine) :
    config.Unfolds config.fullInlining := by
  intro reference definition found
  have compiles := (exists_compile_eq_ok_iff.1 ⟨engine, compiled⟩).1 reference definition found
  unfold CompilesOpen References.ofConfig at compiles
  rw [← length_references] at compiles
  rw [fullInlining, get_inliningTo_succ found]
  exact (inline_inliningTo compiles (Nat.le_succ _)).symm

/-- A clause that compiles does so without named definitions once its references are replaced, and to
the same. -/
theorem compile_inline_within (unfolds : config.Unfolds inlining) (references : References)
    {openOnes : List Reference} {left : Nat} {clause : Clause}
    (compiles : clause.Compiles host config.engine.maxScriptLength
      (.within config host left openOnes)) :
    (clause.inline inlining).compile host config.engine.maxScriptLength references =
      clause.compile host config.engine.maxScriptLength (.within config host left openOnes) := by
  induction left using Nat.strongRecOn generalizing openOnes clause with
  | ind left ih =>
    refine Clause.compile_inline fun target mentions => ?_
    obtain ⟨definition, fewer, found, closed, rfl, deeper⟩ :=
      (References.compiles_within_iff.1 compiles).2 target mentions
    rw [unfolds target definition found, ih fewer (Nat.lt_succ_self fewer) deeper,
      References.get_within_succ, found]
    simp only [closed, if_false]

/-- A rule that compiles comes to the same with its references replaced. -/
theorem compileRule_inlinedBy (unfolds : config.Unfolds inlining) {spec : RuleSpec}
    (compiles : config.CompilesOpen host [] (.rule spec)) :
    (config.inlinedBy inlining).compileRule host [] (spec.inline inlining) =
      config.compileRule host [] spec :=
  map_inj (fun _ _ => Sum.inl.inj) (compile_inline_within unfolds _ compiles)

/-- A matcher that compiles comes to the same with its references replaced. -/
theorem compileMatcher_inlinedBy (unfolds : config.Unfolds inlining) {spec : MatcherSpec}
    (compiles : config.CompilesOpen host [] (.matcher spec)) :
    (config.inlinedBy inlining).compileMatcher host [] (spec.inline inlining) =
      config.compileMatcher host [] spec :=
  map_inj (fun _ _ => Sum.inr.inj) (compile_inline_within unfolds _ compiles)

/-- An attribute rule whose clauses compile comes to the same with its references replaced. -/
theorem compileAttributeRule_inlinedBy (unfolds : config.Unfolds inlining)
    {rule : AttributeRuleSpec}
    (compiles : ∀ clause ∈ rule.clauses, config.CompilesOpen host [] clause) :
    (config.inlinedBy inlining).compileAttributeRule host (rule.inline inlining) =
      config.compileAttributeRule host rule := by
  obtain ⟨id, permit, deny⟩ := rule
  have permitSame : ∀ spec, permit = some spec →
      (config.inlinedBy inlining).compileMatcher host [] (spec.inline inlining) =
        config.compileMatcher host [] spec := by
    rintro spec rfl
    exact compileMatcher_inlinedBy unfolds (compiles _ (by simp [AttributeRuleSpec.clauses]))
  have denySame : ∀ spec, deny = some spec →
      (config.inlinedBy inlining).compileMatcher host [] (spec.inline inlining) =
        config.compileMatcher host [] spec := by
    rintro spec rfl
    exact compileMatcher_inlinedBy unfolds (compiles _ (by simp [AttributeRuleSpec.clauses]))
  cases permit with
  | none =>
    cases deny with
    | none => rfl
    | some spec =>
      simp only [compileAttributeRule, AttributeRuleSpec.inline, Option.map_none, Option.map_some,
        denySame spec rfl]
  | some spec =>
    cases deny with
    | none =>
      simp only [compileAttributeRule, AttributeRuleSpec.inline, Option.map_none, Option.map_some,
        permitSame spec rfl]
    | some other => rfl

/-- A policy whose clauses compile comes to the same with its references replaced. -/
theorem compilePolicy_inlinedBy (unfolds : config.Unfolds inlining) {policy : PolicySpec}
    (compiles : ∀ clause ∈ policy.clauses, config.CompilesOpen host [] clause) :
    (config.inlinedBy inlining).compilePolicy host (policy.inline inlining) =
      config.compilePolicy host policy := by
  have requirementSame := compileRule_inlinedBy unfolds (compiles _ (List.mem_cons_self ..))
  have rulesSame := mapM_map_congr fun rule (member : rule ∈ policy.rules) =>
    compileAttributeRule_inlinedBy unfolds fun clause clauseMember =>
      compiles clause (List.mem_cons_of_mem _ (List.mem_flatMap.2 ⟨rule, member, clauseMember⟩))
  simp only [compilePolicy, PolicySpec.inline, requirementSame, rulesSame]

/-- Policies whose clauses compile come to the same with their references replaced. -/
theorem compilePolicies_inlinedBy (unfolds : config.Unfolds inlining) (before : List String)
    {policies : List PolicySpec}
    (compiles : ∀ policy ∈ policies, ∀ clause ∈ policy.clauses,
      config.CompilesOpen host [] clause) :
    (config.inlinedBy inlining).compilePolicies host before (policies.map (·.inline inlining)) =
      config.compilePolicies host before policies := by
  induction policies generalizing before with
  | nil => rfl
  | cons policy rest ih =>
    obtain ⟨here, later⟩ := List.forall_mem_cons.1 compiles
    have sameId : (policy.inline inlining).id = policy.id := rfl
    simp only [List.map_cons, compilePolicies, sameId, compilePolicy_inlinedBy unfolds here,
      ih _ later]

/-- A configuration that compiles gives the same engine with its references replaced. -/
theorem compile_inlinedBy (unfolds : config.Unfolds inlining) {engine : Engine}
    (compiled : config.compile host = .ok engine) :
    (config.inlinedBy inlining).compile host = .ok engine := by
  have policiesCompile := (exists_compile_eq_ok_iff.1 ⟨engine, compiled⟩).2.1
  have policiesSame := compilePolicies_inlinedBy unfolds []
    fun policy listed => (policiesCompile policy listed).2
  simp only [compile, bind_eq_ok_iff] at compiled ⊢
  obtain ⟨_, _, _, _, policies, policiesCompiled, result⟩ := compiled
  exact ⟨(), rfl, (), rfl, policies, policiesSame.trans policiesCompiled, result⟩

/-- With references replaced nothing is defined by a name. -/
theorem definition?_inlinedBy {target : Reference} :
    (config.inlinedBy inlining).definition? target = none := by
  cases target <;> rfl

/-- Once references are replaced, none is left. -/
theorem not_mentions_inlinedBy (unfolds : config.Unfolds inlining) {engine : Engine}
    (compiled : config.compile host = .ok engine) {clause : Clause}
    (written : (config.inlinedBy inlining).Writes clause) (target : Reference) :
    ¬ clause.Mentions target := by
  intro mentions
  rcases written with found | ⟨listed, member⟩
  · cases definition?_inlinedBy.symm.trans found
  · have succeeds := exists_compile_eq_ok_iff.1 ⟨engine, compile_inlinedBy unfolds compiled⟩
    have compiles := (succeeds.2.1 _ listed).2 clause member
    obtain ⟨definition, _, found, _⟩ :=
      (References.compiles_within_iff.1 compiles).2 target mentions
    cases definition?_inlinedBy.symm.trans found

/-- References are transparent. The references of a configuration that compiles can be replaced, and
however they are, none is left and the policies compile without named definitions to the same engine.
So two configurations that come to the same when their references are replaced compile to the same
engine. -/
theorem compile_inlined {config : Config} {host : ScriptHost} {engine : Engine}
    (compiled : config.compile host = .ok engine) :
    config.Unfolds config.fullInlining ∧
    (∀ inlining, config.Unfolds inlining →
      (∀ clause target, (config.inlinedBy inlining).Writes clause → ¬ clause.Mentions target) ∧
        (config.inlinedBy inlining).compile host = .ok engine) ∧
    ∀ (other : Config) (otherEngine : Engine), other.compile host = .ok otherEngine →
      other.inlinedBy other.fullInlining = config.inlinedBy config.fullInlining →
      otherEngine = engine := by
  refine ⟨unfolds_fullInlining compiled, fun inlining unfolds => ⟨?_, ?_⟩, ?_⟩
  · exact fun clause target written => not_mentions_inlinedBy unfolds compiled written target
  · exact compile_inlinedBy unfolds compiled
  · intro other otherEngine otherCompiled same
    have fromOther := compile_inlinedBy (unfolds_fullInlining otherCompiled) otherCompiled
    have fromThis := compile_inlinedBy (unfolds_fullInlining compiled) compiled
    rw [same, fromThis] at fromOther
    exact (Except.ok.inj fromOther).symm

/-- Refers to one named matcher twice, which refers to a named rule that is a metadata check. -/
def sharedStaff : Config :=
  { Config.default with
    definitions :=
      { rules := NameMap.ofList [("registered", .entityGroup "research" .requester)]
        matchers := NameMap.ofList
          [("staff", .and [.rule (.reference "registered"), .value (.text "staff" false)])]
        policies :=
          [⟨"release", none, .attributeMatcher "role" (.reference "staff"),
            [⟨"role", some (.or [.reference "staff", .rule (.reference "registered")]), none⟩]⟩] } }

/-- The configuration compiles, and without references it compiles to the same engine. -/
theorem sharedStaff_inlined :
    ∃ engine, sharedStaff.compile .none = .ok engine ∧
      (sharedStaff.inlinedBy sharedStaff.fullInlining).compile .none = .ok engine := by
  have compiled : ∃ engine, sharedStaff.compile .none = .ok engine := ⟨_, rfl⟩
  obtain ⟨engine, compiled⟩ := compiled
  obtain ⟨unfolds, same, _⟩ := compile_inlined compiled
  exact ⟨engine, compiled, (same _ unfolds).2⟩

end Config

end AttributeRelease
