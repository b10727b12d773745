import AttributeRelease.Proofs.Compile.Reference

/-!
# Which configurations compile

`Config.Valid` says what is asked of a configuration without compiling anything: all references are
defined, the graph of references has no cycle, every clause is sound wherever it stands, and policies
and their attribute rules are well formed. Exactly these configurations compile.

A clause that compiles leads to nothing that is open, so a named definition does not lead to itself.
For the converse, references are opened along paths of a graph without cycles: those that are open
differ from each other, so there are no more of them than definitions, and one can always be opened.
-/

namespace AttributeRelease

open Outcome Relation

/-- The matchers of an attribute rule. -/
def AttributeRuleSpec.clauses (rule : AttributeRuleSpec) : List Clause :=
  (rule.permit.toList ++ rule.deny.toList).map .matcher

/-- The requirement of a policy and the matchers of its attribute rules. -/
def PolicySpec.clauses (policy : PolicySpec) : List Clause :=
  .rule policy.requirement :: policy.rules.flatMap AttributeRuleSpec.clauses

/-- An attribute rule names an attribute and says either what it permits or what it denies. -/
structure AttributeRuleSpec.WellFormed (rule : AttributeRuleSpec) : Prop where
  named : ¬ Text.isBlank rule.attributeId
  oneEffect : rule.permit.isSome = !rule.deny.isSome

/-- A policy has a name, and its attribute rules are well formed. -/
structure PolicySpec.WellFormed (policy : PolicySpec) : Prop where
  named : ¬ Text.isBlank policy.id
  rules : ∀ rule ∈ policy.rules, rule.WellFormed

namespace Config

/-- The clauses that are written in a configuration, as named definitions or in policies. -/
inductive Writes (config : Config) : Clause → Prop where
  | definition {reference clause} (found : config.definition? reference = some clause) :
      Writes config clause
  | policy {policy clause} (listed : policy ∈ config.definitions.policies)
      (member : clause ∈ policy.clauses) : Writes config clause

/-- What is asked of a configuration. -/
structure Valid (config : Config) (host : ScriptHost) : Prop where
  /-- Every reference, wherever it is written, names a definition of its own kind. -/
  defined : ∀ clause target, config.Writes clause → clause.Mentions target →
    (config.definition? target).isSome = true
  /-- No definition leads back to itself. -/
  acyclic : ∀ reference, ¬ TransGen config.Refers reference reference
  /-- Every clause, however deep, is sound. -/
  sound : ∀ clause inner : Clause, config.Writes clause → inner.Within clause →
    inner.Sound host config.engine.maxScriptLength
  policies : ∀ policy ∈ config.definitions.policies, policy.WellFormed
  distinct : (config.definitions.policies.map (·.id)).Nodup

variable {config : Config} {host : ScriptHost}

/-- A clause compiles while some references are open and all others may be opened. -/
def CompilesOpen (config : Config) (host : ScriptHost) (openOnes : List Reference)
    (clause : Clause) : Prop :=
  clause.Compiles host config.engine.maxScriptLength (.ofConfig config host openOnes)

/-- A named rule passes its check exactly if it compiles while its own name is open. -/
theorem exists_checkRule_eq_ok_iff {id : String} {spec : RuleSpec} :
    (∃ done, config.checkRule host id spec = .ok done) ↔
      config.CompilesOpen host [.rule id] (.rule spec) := by
  simp [checkRule, exists_bind_eq_ok_iff, mapError_eq_ok_iff, CompilesOpen,
    Clause.compiles_rule_iff, compileRule]

/-- A named matcher passes its check exactly if it compiles while its own name is open. -/
theorem exists_checkMatcher_eq_ok_iff {id : String} {spec : MatcherSpec} :
    (∃ done, config.checkMatcher host id spec = .ok done) ↔
      config.CompilesOpen host [.matcher id] (.matcher spec) := by
  simp [checkMatcher, exists_bind_eq_ok_iff, mapError_eq_ok_iff, CompilesOpen,
    Clause.compiles_matcher_iff, compileMatcher]

/-- Both tables of named definitions pass their checks exactly if every definition compiles while it
is open itself. -/
theorem checks_eq_ok_iff :
    ((∃ done, config.definitions.rules.toList.forM
        (fun (id, rule) => config.checkRule host id rule) = .ok done) ∧
      ∃ done, config.definitions.matchers.toList.forM
        (fun (id, matcher) => config.checkMatcher host id matcher) = .ok done) ↔
      ∀ reference clause, config.definition? reference = some clause →
        config.CompilesOpen host [reference] clause := by
  simp only [exists_forM_eq_ok_iff, Prod.forall, exists_checkRule_eq_ok_iff,
    exists_checkMatcher_eq_ok_iff, ← NameMap.find?_eq_some_iff]
  constructor
  · rintro ⟨rules, matchers⟩ reference clause found
    cases reference with
    | rule id =>
      obtain ⟨spec, listed, rfl⟩ := Option.map_eq_some_iff.1 found
      exact rules id spec listed
    | matcher id =>
      obtain ⟨spec, listed, rfl⟩ := Option.map_eq_some_iff.1 found
      exact matchers id spec listed
  · intro every
    constructor
    · intro id spec listed
      exact every (.rule id) (.rule spec) (Option.map_eq_some_iff.2 ⟨spec, listed, rfl⟩)
    · intro id spec listed
      exact every (.matcher id) (.matcher spec) (Option.map_eq_some_iff.2 ⟨spec, listed, rfl⟩)

/-- An attribute rule compiles exactly if it is well formed and all of its clauses compile. -/
theorem exists_compileAttributeRule_eq_ok_iff {rule : AttributeRuleSpec} :
    (∃ compiled, config.compileAttributeRule host rule = .ok compiled) ↔
      rule.WellFormed ∧ ∀ clause ∈ rule.clauses, config.CompilesOpen host [] clause := by
  have wellFormed : rule.WellFormed ↔
      ¬ Text.isBlank rule.attributeId ∧ rule.permit.isSome = !rule.deny.isSome :=
    ⟨fun ⟨named, oneEffect⟩ => ⟨named, oneEffect⟩, fun ⟨named, oneEffect⟩ => ⟨named, oneEffect⟩⟩
  rw [wellFormed, and_assoc]
  simp only [compileAttributeRule, exists_bind_eq_ok_iff, Compile.nonBlank_eq_ok_iff,
    exists_const, AttributeRuleSpec.clauses]
  refine and_congr_right fun _ => ?_
  cases rule.permit with
  | none =>
    cases rule.deny with
    | none => simp
    | some deny =>
      simp [exists_bind_eq_ok_iff, CompilesOpen, Clause.compiles_matcher_iff, compileMatcher]
  | some permit =>
    cases rule.deny with
    | none =>
      simp [exists_bind_eq_ok_iff, CompilesOpen, Clause.compiles_matcher_iff, compileMatcher]
    | some deny => simp

/-- A policy compiles exactly if it is well formed and all of its clauses compile. -/
theorem exists_compilePolicy_eq_ok_iff {policy : PolicySpec} :
    (∃ compiled, config.compilePolicy host policy = .ok compiled) ↔
      policy.WellFormed ∧ ∀ clause ∈ policy.clauses, config.CompilesOpen host [] clause := by
  constructor
  · rintro ⟨compiled, compiles⟩
    simp only [compilePolicy, bind_eq_ok_iff, Compile.nonBlank_eq_ok_iff] at compiles
    obtain ⟨_, named, requirement, required, rules, rulesCompiled, _⟩ := compiles
    have eachRule := fun rule member => exists_compileAttributeRule_eq_ok_iff.1
      (exists_mapM_eq_ok_iff.1 ⟨rules, rulesCompiled⟩ rule member)
    refine ⟨⟨named, fun rule member => (eachRule rule member).1⟩, fun clause member => ?_⟩
    rcases List.mem_cons.1 member with rfl | inRules
    · exact Clause.compiles_rule_iff.2 ⟨requirement, required⟩
    · obtain ⟨rule, ruleMember, clauseMember⟩ := List.mem_flatMap.1 inRules
      exact (eachRule rule ruleMember).2 clause clauseMember
  · rintro ⟨wellFormed, compiles⟩
    obtain ⟨requirement, required⟩ :=
      Clause.compiles_rule_iff.1 (compiles _ (List.mem_cons_self ..))
    have eachRule : ∀ rule ∈ policy.rules,
        ∃ compiled, config.compileAttributeRule host rule = .ok compiled := by
      intro rule member
      refine exists_compileAttributeRule_eq_ok_iff.2 ⟨wellFormed.rules rule member, ?_⟩
      intro clause clauseMember
      exact compiles clause
        (List.mem_cons_of_mem _ (List.mem_flatMap.2 ⟨rule, member, clauseMember⟩))
    obtain ⟨rules, rulesCompiled⟩ := exists_mapM_eq_ok_iff.2 eachRule
    refine ⟨⟨policy.id, requirement, rules⟩, ?_⟩
    simp only [compilePolicy, bind_eq_ok_iff, Compile.nonBlank_eq_ok_iff]
    exact ⟨(), wellFormed.named, requirement, required, rules, rulesCompiled, rfl⟩

/-- Policies compile exactly if each of them does and no id is taken twice. -/
theorem exists_compilePolicies_eq_ok_iff {before : List String} {policies : List PolicySpec} :
    (∃ compiled, config.compilePolicies host before policies = .ok compiled) ↔
      (∀ policy ∈ policies, policy.id ∉ before) ∧ (policies.map (·.id)).Nodup ∧
        ∀ policy ∈ policies, ∃ compiled, config.compilePolicy host policy = .ok compiled := by
  induction policies generalizing before with
  | nil => simp [compilePolicies]
  | cons policy rest ih =>
    simp only [List.forall_mem_cons, List.map_cons, List.nodup_cons]
    by_cases repeated : policy.id ∈ before
    · simp [compilePolicies, repeated]
    · simp only [compilePolicies, repeated, if_false, exists_bind_eq_ok_iff, mapError_eq_ok_iff,
        not_false_eq_true, true_and]
      constructor
      · rintro ⟨first, firstCompiled, others, othersCompiled, _⟩
        obtain ⟨fresh, distinct, each⟩ := ih.1 ⟨others, othersCompiled⟩
        refine ⟨fun other member isBefore => ?_, ⟨fun member => ?_, distinct⟩, ⟨first, firstCompiled⟩,
          each⟩
        · exact fresh other member (List.mem_cons_of_mem _ isBefore)
        · obtain ⟨other, otherMember, same⟩ := List.mem_map.1 member
          exact fresh other otherMember (same ▸ List.mem_cons_self ..)
      · rintro ⟨fresh, ⟨notLater, distinct⟩, ⟨first, firstCompiled⟩, each⟩
        have othersFresh : ∀ other ∈ rest, other.id ∉ policy.id :: before := by
          intro other member isBefore
          rcases List.mem_cons.1 isBefore with same | isBefore
          · exact notLater (List.mem_map.2 ⟨other, member, same⟩)
          · exact fresh other member isBefore
        obtain ⟨others, othersCompiled⟩ := ih.2 ⟨othersFresh, distinct, each⟩
        exact ⟨first, firstCompiled, others, othersCompiled, _, rfl⟩

/-- A configuration compiles if every named definition does while it is open itself, every clause of
a policy does while nothing is, and the policies are well formed and differ in their ids. -/
theorem exists_compile_eq_ok_iff :
    (∃ engine, config.compile host = .ok engine) ↔
      (∀ reference clause, config.definition? reference = some clause →
        config.CompilesOpen host [reference] clause) ∧
      (∀ policy ∈ config.definitions.policies, policy.WellFormed ∧
        ∀ clause ∈ policy.clauses, config.CompilesOpen host [] clause) ∧
      (config.definitions.policies.map (·.id)).Nodup := by
  have policiesCompile : (∃ policies, config.compilePolicies host [] config.definitions.policies =
      .ok policies) ↔
      (∀ policy ∈ config.definitions.policies, policy.WellFormed ∧
        ∀ clause ∈ policy.clauses, config.CompilesOpen host [] clause) ∧
      (config.definitions.policies.map (·.id)).Nodup := by
    simp only [exists_compilePolicies_eq_ok_iff, exists_compilePolicy_eq_ok_iff]
    simp [and_comm]
  rw [← policiesCompile, ← checks_eq_ok_iff]
  simp only [compile, exists_bind_eq_ok_iff, pure_eq_ok]
  constructor
  · rintro ⟨done, rules, done', matchers, policies, compiled, _⟩
    exact ⟨⟨⟨done, rules⟩, done', matchers⟩, policies, compiled⟩
  · rintro ⟨⟨⟨done, rules⟩, done', matchers⟩, policies, compiled⟩
    exact ⟨done, rules, done', matchers, policies, compiled, _, rfl⟩

/-- Where compiling has got to when it meets a clause: the references that are open differ from each
other, are defined, and lead to whatever the clause mentions; all others can still be opened. -/
structure OpenTo (config : Config) (openOnes : List Reference) (left : Nat) (clause : Clause) :
    Prop where
  distinct : openOnes.Nodup
  known : openOnes ⊆ config.references
  leading : ∀ source ∈ openOnes, ∀ target, clause.Mentions target →
    TransGen config.Refers source target
  enough : config.references.length ≤ left + openOnes.length

/-- Without cycles, what a clause mentions is not open and can be opened. -/
theorem OpenTo.step {openOnes : List Reference} {left : Nat} {clause definition : Clause}
    {target : Reference} (reached : config.OpenTo openOnes left clause)
    (acyclic : ∀ reference, ¬ TransGen config.Refers reference reference)
    (mentions : clause.Mentions target) (found : config.definition? target = some definition) :
    target ∉ openOnes ∧
      ∃ fewer, left = fewer + 1 ∧ config.OpenTo (target :: openOnes) fewer definition := by
  have closed : target ∉ openOnes := fun isOpen =>
    acyclic target (reached.leading target isOpen target mentions)
  have distinct : (target :: openOnes).Nodup := List.nodup_cons.2 ⟨closed, reached.distinct⟩
  have known : target :: openOnes ⊆ config.references :=
    List.cons_subset.2 ⟨mem_references_of_definition found, reached.known⟩
  have notMore : openOnes.length + 1 ≤ config.references.length :=
    distinct.length_le_of_subset known
  have enough := reached.enough
  refine ⟨closed, left - 1, by omega, distinct, known, fun source isOpen next nextMentioned => ?_, ?_⟩
  · have last : config.Refers target next := ⟨definition, found, nextMentioned⟩
    rcases List.mem_cons.1 isOpen with rfl | isOpen
    · exact .single last
    · exact (reached.leading source isOpen target mentions).tail last
  · rw [List.length_cons]
    omega

/-- Every clause that is written in a valid configuration compiles, wherever it is met. -/
theorem Valid.compiles (valid : config.Valid host) {openOnes : List Reference} {left : Nat}
    {clause : Clause} (written : config.Writes clause)
    (reached : config.OpenTo openOnes left clause) :
    clause.Compiles host config.engine.maxScriptLength
      (.within config host left openOnes) := by
  induction left using Nat.strongRecOn generalizing openOnes clause with
  | ind left ih =>
    refine References.compiles_within_iff.2
      ⟨fun inner => valid.sound clause inner written, fun target mentions => ?_⟩
    obtain ⟨definition, found⟩ :=
      Option.isSome_iff_exists.1 (valid.defined clause target written mentions)
    obtain ⟨closed, fewer, rfl, deeper⟩ := reached.step valid.acyclic mentions found
    have compiles := ih fewer (Nat.lt_succ_self fewer) (.definition found) deeper
    exact ⟨definition, fewer, found, closed, rfl, compiles⟩

/-- Exactly the valid configurations compile. -/
theorem compile_succeeds_iff (config : Config) (host : ScriptHost) :
    (∃ engine, config.compile host = .ok engine) ↔ config.Valid host := by
  rw [exists_compile_eq_ok_iff]
  constructor
  · rintro ⟨definitions, policies, distinct⟩
    have written : ∀ clause, config.Writes clause →
        ∃ openOnes, config.CompilesOpen host openOnes clause := by
      rintro clause (found | ⟨listed, member⟩)
      · exact ⟨_, definitions _ clause found⟩
      · exact ⟨_, (policies _ listed).2 clause member⟩
    refine ⟨?defined, ?acyclic, ?sound, fun policy listed => (policies policy listed).1, distinct⟩
    case defined =>
      intro clause target isWritten mentions
      obtain ⟨openOnes, compiles⟩ := written clause isWritten
      obtain ⟨definition, _, found, _⟩ :=
        (References.compiles_within_iff.1 compiles).2 target mentions
      exact Option.isSome_iff_exists.2 ⟨definition, found⟩
    case acyclic =>
      intro reference cycle
      obtain ⟨_, ⟨clause, found, _⟩, _⟩ := TransGen.head'_iff.1 cycle
      have leads := leadsTo_of_transGen found cycle
      exact References.not_mem_of_leadsTo (definitions reference clause found) leads
        (List.mem_singleton_self reference)
    case sound =>
      intro clause inner isWritten within
      obtain ⟨openOnes, compiles⟩ := written clause isWritten
      exact (References.compiles_within_iff.1 compiles).1 inner within
  · intro valid
    refine ⟨fun reference clause found => ?_, fun policy listed => ?_, valid.distinct⟩
    · refine valid.compiles (.definition found) ?_
      refine ⟨by simp, ?_, ?_, ?_⟩
      · exact List.cons_subset.2 ⟨mem_references_of_definition found, List.nil_subset _⟩
      · rintro source isOpen target mentions
        cases List.mem_singleton.1 isOpen
        exact .single ⟨clause, found, mentions⟩
      · rw [length_references]
        omega
    · refine ⟨valid.policies policy listed, fun clause member => ?_⟩
      refine valid.compiles (.policy listed member) ⟨List.nodup_nil, List.nil_subset _, nofun, ?_⟩
      rw [length_references]
      omega

/-- A rule and a matcher of one name that ask for each other. -/
example :
    Config.compile
      { Config.default with
        definitions :=
          { rules := NameMap.ofList [("staff", .attributeMatcher "role" (.reference "staff"))]
            matchers := NameMap.ofList [("staff", .rule (.reference "staff"))]
            policies := [] } } .none =
      .error (.fault "requirement_rules.staff" (.cycle "staff")) := rfl

end Config

end AttributeRelease
