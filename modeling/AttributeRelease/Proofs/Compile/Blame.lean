import AttributeRelease.Proofs.Compile.Failure
import AttributeRelease.Proofs.Compile.Termination
import AttributeRelease.Proofs.NameMap

/-!
# Whose fault it is

Named rules and matchers are checked before policies are compiled. A definition that passes its check
compiled while it was open itself, and a policy, which starts with nothing open, opens it in the same
way. So a policy can have every definition that it refers to (`DefinitionsPass.get_of_defined`), and
whether and how it fails does not depend on what the definitions are (`ReferAlike`). If policies fail,
`CausedByPolicies` tells what is wrong with them.
-/

namespace AttributeRelease

open Outcome

/-- What is wrong with an attribute rule, apart from its matchers. -/
inductive AttributeRuleSpec.HasFault (rule : AttributeRuleSpec) : Fault → Prop where
  | unnamed (blank : Text.isBlank rule.attributeId = true) : HasFault rule .emptyRuleAttribute
  | bothEffects (permits : rule.permit.isSome = true) (denies : rule.deny.isSome = true) :
      HasFault rule (.bothEffects rule.attributeId)
  | noEffect (noPermit : rule.permit = none) (noDeny : rule.deny = none) :
      HasFault rule (.noEffect rule.attributeId)

namespace Config

/-- A clause fails although its parts compile, because it is not sound itself or refers to something
that has no definition. -/
structure FailsAt (config : Config) (host : ScriptHost) (clause : Clause) (fault : Fault) : Prop where
  fails : clause.compile host config.engine.maxScriptLength (.ofConfig config host []) =
    .error fault
  partsCompile : ∀ part ∈ clause.parts, config.CompilesOpen host [] part
  cause : ¬ clause.Sound host config.engine.maxScriptLength ∨
    ∃ target, clause.target? = some target ∧ config.definition? target = none

/-- What is wrong with a policy: something that is written in it. -/
inductive FailsIn (config : Config) (host : ScriptHost) (policy : PolicySpec) : Fault → Prop where
  | unnamed (blank : Text.isBlank policy.id = true) : FailsIn config host policy .emptyPolicyId
  | attributeRule {rule : AttributeRuleSpec} {fault : Fault} (member : rule ∈ policy.rules)
      (hasFault : rule.HasFault fault) : FailsIn config host policy fault
  | clause {clause inner : Clause} {fault : Fault} (member : clause ∈ policy.clauses)
      (within : inner.Within clause) (failsAt : config.FailsAt host inner fault) :
      FailsIn config host policy fault

/-- An error comes from the policies: two of them have the same id, or there is something wrong with
the one that it names. -/
inductive CausedByPolicies (config : Config) (host : ScriptHost) : BuildError → Prop where
  | duplicate {id : String} (twice : 2 ≤ (config.definitions.policies.map (·.id)).count id) :
      CausedByPolicies config host (.duplicatePolicy id)
  | fault {policy : PolicySpec} {fault : Fault} (listed : policy ∈ config.definitions.policies)
      (failsIn : config.FailsIn host policy fault) :
      CausedByPolicies config host (.fault policy.id fault)

/-- The checks of all named rules and of all named matchers succeed. -/
structure DefinitionsPass (config : Config) (host : ScriptHost) : Prop where
  rules : config.definitions.rules.toList.forM
    (fun (id, rule) => config.checkRule host id rule) = .ok ()
  matchers : config.definitions.matchers.toList.forM
    (fun (id, matcher) => config.checkMatcher host id matcher) = .ok ()

/-- The configuration with other definitions of rules and matchers. -/
def withDefinitions (config : Config) (rules : NameMap RuleSpec)
    (matchers : NameMap MatcherSpec) : Config :=
  { config with definitions := { config.definitions with rules, matchers } }

/-- The configuration in which each named rule and each named matcher is just any. -/
def withoutBodies (config : Config) : Config :=
  config.withDefinitions (config.definitions.rules.map fun _ => .any)
    (config.definitions.matchers.map fun _ => .any)

variable {config other : Config} {host : ScriptHost}

section Definitions

/-- The definitions pass exactly if each of them compiles while its own name is open. -/
theorem definitionsPass_iff :
    config.DefinitionsPass host ↔ ∀ reference clause, config.definition? reference = some clause →
      config.CompilesOpen host [reference] clause := by
  rw [← checks_eq_ok_iff]
  constructor
  · rintro ⟨rules, matchers⟩
    exact ⟨⟨(), rules⟩, (), matchers⟩
  · rintro ⟨⟨_, rules⟩, _, matchers⟩
    exact ⟨rules, matchers⟩

/-- Definitions under the same names leave defined what was defined. -/
theorem isSome_definition?_withDefinitions {rules : NameMap RuleSpec}
    {matchers : NameMap MatcherSpec}
    (sameRules : ∀ id, rules.contains id = config.definitions.rules.contains id)
    (sameMatchers : ∀ id, matchers.contains id = config.definitions.matchers.contains id)
    (target : Reference) :
    ((config.withDefinitions rules matchers).definition? target).isSome =
      (config.definition? target).isSome := by
  cases target with
  | rule id => simpa [definition?, withDefinitions, NameMap.contains] using sameRules id
  | matcher id => simpa [definition?, withDefinitions, NameMap.contains] using sameMatchers id

/-- Without their bodies all definitions pass. -/
theorem withoutBodies_definitionsPass (config : Config) (host : ScriptHost) :
    config.withoutBodies.DefinitionsPass host := by
  refine definitionsPass_iff.2 fun reference clause found => ?_
  cases reference with
  | rule id =>
    obtain ⟨spec, listed, rfl⟩ := Option.map_eq_some_iff.1 found
    obtain ⟨_, _, rfl⟩ := Option.map_eq_some_iff.1 ((NameMap.find?_map ..).symm.trans listed)
    exact Clause.compiles_rule_iff.2 ⟨.any, by simp only [AttributeRelease.compileRule]⟩
  | matcher id =>
    obtain ⟨spec, listed, rfl⟩ := Option.map_eq_some_iff.1 found
    obtain ⟨_, _, rfl⟩ := Option.map_eq_some_iff.1 ((NameMap.find?_map ..).symm.trans listed)
    exact Clause.compiles_matcher_iff.2 ⟨.any, by simp only [AttributeRelease.compileMatcher]⟩

/-- Looking up what is not defined fails with an unknown reference. -/
theorem get_of_undefined {openOnes : List Reference} {target : Reference}
    (undefined : config.definition? target = none) :
    (References.ofConfig config host openOnes).get target =
      .error (.unknownReference target.id) := by
  rw [References.get_ofConfig, expand, undefined]

/-- While nothing is open, every definition can be had: it is opened as it was for its check. -/
theorem DefinitionsPass.get_of_defined (passes : config.DefinitionsPass host) {target : Reference}
    (defined : (config.definition? target).isSome = true) :
    ∃ compiled, (References.ofConfig config host []).get target = .ok compiled := by
  obtain ⟨clause, found⟩ := Option.isSome_iff_exists.1 defined
  obtain ⟨compiled, compiles⟩ := definitionsPass_iff.1 passes target clause found
  refine ⟨compiled, ?_⟩
  rw [References.get_ofConfig, expand, found]
  exact compiles

end Definitions

section Bodies

/-! Compiling with other definitions of the same names. -/

/-- The references of two configurations fail alike while nothing is open, and scripts may be equally
long in both. -/
structure ReferAlike (host : ScriptHost) (other config : Config) : Prop where
  limit_eq : other.engine.maxScriptLength = config.engine.maxScriptLength
  get_alike : ∀ target, FailsAlike ((References.ofConfig other host []).get target)
    ((References.ofConfig config host []).get target)

/-- Two sets of definitions that pass under the same names fail alike wherever they are referred
to. -/
theorem DefinitionsPass.referAlike (passes : config.DefinitionsPass host)
    {rules : NameMap RuleSpec} {matchers : NameMap MatcherSpec}
    (sameRules : ∀ id, rules.contains id = config.definitions.rules.contains id)
    (sameMatchers : ∀ id, matchers.contains id = config.definitions.matchers.contains id)
    (otherPasses : (config.withDefinitions rules matchers).DefinitionsPass host) :
    ReferAlike host (config.withDefinitions rules matchers) config where
  limit_eq := rfl
  get_alike target := by
    have sameNames := isSome_definition?_withDefinitions sameRules sameMatchers target
    cases defined : (config.definition? target).isSome with
    | true =>
      obtain ⟨compiled, isCompiled⟩ := passes.get_of_defined defined
      obtain ⟨otherCompiled, isOtherCompiled⟩ :=
        otherPasses.get_of_defined (sameNames.trans defined)
      rw [isCompiled, isOtherCompiled]
      exact .succeeded _ _
    | false =>
      have undefined : config.definition? target = none := by simpa using defined
      have otherUndefined : (config.withDefinitions rules matchers).definition? target = none := by
        simpa using sameNames.trans defined
      rw [get_of_undefined undefined, get_of_undefined otherUndefined]
      exact .failed _

namespace ReferAlike

variable (alike : ReferAlike host other config)
include alike

/-- A clause fails alike under both configurations. -/
theorem clause (clause : Clause) :
    FailsAlike (clause.compile host other.engine.maxScriptLength (.ofConfig other host []))
      (clause.compile host config.engine.maxScriptLength (.ofConfig config host [])) := by
  rw [alike.limit_eq]
  exact Clause.compile_failsAlike fun target _ => alike.get_alike target

/-- A rule fails alike under both configurations. -/
theorem compileRule (spec : RuleSpec) :
    FailsAlike (other.compileRule host [] spec) (config.compileRule host [] spec) :=
  (FailsAlike.map _ Sum.inl).symm.trans ((alike.clause (.rule spec)).trans (.map _ _))

/-- A matcher fails alike under both configurations. -/
theorem compileMatcher (spec : MatcherSpec) :
    FailsAlike (other.compileMatcher host [] spec) (config.compileMatcher host [] spec) :=
  (FailsAlike.map _ Sum.inr).symm.trans ((alike.clause (.matcher spec)).trans (.map _ _))

/-- An attribute rule fails alike under both configurations. -/
theorem compileAttributeRule (rule : AttributeRuleSpec) :
    FailsAlike (other.compileAttributeRule host rule) (config.compileAttributeRule host rule) := by
  rw [Config.compileAttributeRule, Config.compileAttributeRule]
  refine (FailsAlike.refl _).bind fun _ _ => ?_
  cases rule.permit with
  | none =>
    cases rule.deny with
    | none => exact .refl _
    | some deny => exact (alike.compileMatcher deny).bind fun _ _ => .succeeded _ _
  | some permit =>
    cases rule.deny with
    | none => exact (alike.compileMatcher permit).bind fun _ _ => .succeeded _ _
    | some deny => exact .refl _

/-- A policy fails alike under both configurations. -/
theorem compilePolicy (policy : PolicySpec) :
    FailsAlike (other.compilePolicy host policy) (config.compilePolicy host policy) := by
  have rulesAlike : FailsAlike (policy.rules.mapM (other.compileAttributeRule host))
      (policy.rules.mapM (config.compileAttributeRule host)) :=
    .mapM fun rule _ => alike.compileAttributeRule rule
  rw [Config.compilePolicy, Config.compilePolicy]
  refine (FailsAlike.refl _).bind fun _ _ => ?_
  refine (alike.compileRule policy.requirement).bind fun _ _ => ?_
  exact rulesAlike.bind fun _ _ => .succeeded _ _

/-- Policies fail alike under both configurations. -/
theorem compilePolicies (before : List String) (policies : List PolicySpec) :
    FailsAlike (other.compilePolicies host before policies)
      (config.compilePolicies host before policies) := by
  induction policies generalizing before with
  | nil => exact .refl _
  | cons policy rest ih =>
    rw [Config.compilePolicies, Config.compilePolicies]
    split
    · exact .refl _
    · refine ((alike.compilePolicy policy).mapError _).bind fun _ _ => ?_
      exact (ih _).bind fun _ _ => .succeeded _ _

end ReferAlike

/-- After its definitions have passed, a configuration fails as its policies do. -/
theorem DefinitionsPass.compile_failsAlike (passes : config.DefinitionsPass host) :
    FailsAlike (config.compile host)
      (config.compilePolicies host [] config.definitions.policies) := by
  rw [compile, passes.rules, passes.matchers]
  exact .bind_ok _ _

/-- Definitions that pass can be replaced by others of the same names that pass. -/
theorem DefinitionsPass.withDefinitions_failsAlike (passes : config.DefinitionsPass host)
    {rules : NameMap RuleSpec} {matchers : NameMap MatcherSpec}
    (sameRules : ∀ id, rules.contains id = config.definitions.rules.contains id)
    (sameMatchers : ∀ id, matchers.contains id = config.definitions.matchers.contains id)
    (otherPasses : (config.withDefinitions rules matchers).DefinitionsPass host) :
    FailsAlike ((config.withDefinitions rules matchers).compile host) (config.compile host) := by
  have alike := passes.referAlike sameRules sameMatchers otherPasses
  have policiesAlike := alike.compilePolicies [] config.definitions.policies
  exact otherPasses.compile_failsAlike.trans (policiesAlike.trans passes.compile_failsAlike.symm)

/-- Definitions that pass may lose their bodies without a change to how compiling fails. -/
theorem DefinitionsPass.withoutBodies_failsAlike (passes : config.DefinitionsPass host) :
    FailsAlike (config.withoutBodies.compile host) (config.compile host) := by
  refine passes.withDefinitions_failsAlike (fun id => ?_) (fun id => ?_)
    (withoutBodies_definitionsPass config host)
  · rw [NameMap.contains, NameMap.find?_map, Option.isSome_map, NameMap.contains]
  · rw [NameMap.contains, NameMap.find?_map, Option.isSome_map, NameMap.contains]

end Bodies

section Causes

/-! What is wrong when a policy does not compile. -/

variable {clause : Clause} {rule : AttributeRuleSpec} {policy : PolicySpec} {fault : Fault}

/-- A clause of a policy that does not compile has a clause within it that is to blame. -/
theorem DefinitionsPass.exists_failsAt (passes : config.DefinitionsPass host)
    (failed : clause.compile host config.engine.maxScriptLength (.ofConfig config host []) =
      .error fault) :
    ∃ inner : Clause, inner.Within clause ∧ config.FailsAt host inner fault := by
  obtain ⟨inner, within, innerFailed, partsCompile⟩ := Clause.exists_innermost failed
  refine ⟨inner, within, innerFailed, partsCompile, ?_⟩
  by_contra noCause
  obtain ⟨sound, defined⟩ := not_or.1 noCause
  -- Its references could be had, so it would compile.
  have compiles : config.CompilesOpen host [] inner := by
    refine Clause.compiles_iff.2 ⟨not_not.1 sound, fun target refers => ?_, partsCompile⟩
    refine passes.get_of_defined (Option.isSome_iff_ne_none.2 fun undefined => ?_)
    exact defined ⟨target, refers, undefined⟩
  obtain ⟨compiled, isCompiled⟩ := compiles
  cases innerFailed.symm.trans isCompiled

/-- What fails at a clause is not a cycle. -/
theorem FailsAt.ne_cycle (failsAt : config.FailsAt host clause fault) (id : String) :
    fault ≠ .cycle id := by
  rintro rfl
  obtain ⟨fails, partsCompile, cause⟩ := failsAt
  cases refers : clause.target? with
  | none => exact Clause.ne_cycle_of_parts_compile refers partsCompile fails
  | some target =>
    obtain rfl := Clause.target?_eq_some_iff.1 refers
    rcases cause with unsound | ⟨other, otherRefers, undefined⟩
    · exact unsound (Clause.sound_ofReference target)
    · cases refers.symm.trans otherRefers
      rw [Clause.compile_ofReference, get_of_undefined undefined] at fails
      cases fails

/-- What fails in a policy is not a cycle. -/
theorem FailsIn.ne_cycle (failsIn : config.FailsIn host policy fault) (id : String) :
    fault ≠ .cycle id := by
  cases failsIn with
  | unnamed blank => nofun
  | attributeRule member hasFault => cases hasFault <;> nofun
  | clause member within failsAt => exact failsAt.ne_cycle id

/-- An attribute rule fails over a fault of its own or over one of its clauses. -/
theorem compileAttributeRule_eq_error
    (failed : config.compileAttributeRule host rule = .error fault) :
    rule.HasFault fault ∨ ∃ clause ∈ rule.clauses,
      clause.compile host config.engine.maxScriptLength (.ofConfig config host []) =
        .error fault := by
  rw [compileAttributeRule, bind_eq_error_iff] at failed
  rcases failed with unnamed | ⟨_, _, failed⟩
  · obtain ⟨blank, rfl⟩ := Compile.nonBlank_eq_error_iff.1 unnamed
    exact .inl (.unnamed blank)
  · obtain ⟨id, permit, deny⟩ := rule
    have matcherFailed : ∀ spec, config.compileMatcher host [] spec = .error fault →
        (Clause.matcher spec).compile host config.engine.maxScriptLength
          (.ofConfig config host []) = .error fault := fun spec => map_eq_error_iff.2
    cases permit with
    | none =>
      cases deny with
      | none =>
        cases failed
        exact .inl (.noEffect rfl rfl)
      | some spec =>
        have denyFailed := matcherFailed spec (bind_pure_eq_error_iff.1 failed)
        exact .inr ⟨_, by simp [AttributeRuleSpec.clauses], denyFailed⟩
    | some spec =>
      cases deny with
      | none =>
        have permitFailed := matcherFailed spec (bind_pure_eq_error_iff.1 failed)
        exact .inr ⟨_, by simp [AttributeRuleSpec.clauses], permitFailed⟩
      | some other =>
        cases failed
        exact .inl (.bothEffects rfl rfl)

/-- A policy fails because of something that is written in it. -/
theorem DefinitionsPass.failsIn (passes : config.DefinitionsPass host)
    (failed : config.compilePolicy host policy = .error fault) :
    config.FailsIn host policy fault := by
  have ofClause : ∀ clause ∈ policy.clauses,
      clause.compile host config.engine.maxScriptLength (.ofConfig config host []) =
        .error fault → config.FailsIn host policy fault := by
    intro clause member clauseFailed
    obtain ⟨inner, within, failsAt⟩ := passes.exists_failsAt clauseFailed
    exact .clause member within failsAt
  rw [compilePolicy, bind_eq_error_iff] at failed
  rcases failed with unnamed | ⟨_, _, failed⟩
  · obtain ⟨blank, rfl⟩ := Compile.nonBlank_eq_error_iff.1 unnamed
    exact .unnamed blank
  rcases bind_eq_error_iff.1 failed with requirementFailed | ⟨_, _, failed⟩
  · exact ofClause _ List.mem_cons_self (map_eq_error_iff.2 requirementFailed)
  have rulesFailed := bind_pure_eq_error_iff.1 failed
  obtain ⟨rule, member, ruleFailed⟩ := exists_error_of_mapM_eq_error rulesFailed
  rcases compileAttributeRule_eq_error ruleFailed with hasFault | ⟨clause, isPart, clauseFailed⟩
  · exact .attributeRule member hasFault
  · have listed := List.mem_flatMap.2 ⟨rule, member, isPart⟩
    exact ofClause clause (List.mem_cons_of_mem _ listed) clauseFailed

/-- Policies fail because an id is repeated, or because one of them fails. -/
theorem compilePolicies_eq_error {before : List String} {policies : List PolicySpec}
    {error : BuildError} (failed : config.compilePolicies host before policies = .error error) :
    (∃ id, error = .duplicatePolicy id ∧
        2 ≤ before.count id + (policies.map (·.id)).count id) ∨
      ∃ policy ∈ policies, ∃ fault, error = .fault policy.id fault ∧
        config.compilePolicy host policy = .error fault := by
  induction policies generalizing before with
  | nil => cases failed
  | cons policy rest ih =>
    rw [compilePolicies] at failed
    split at failed
    next isRepeated =>
      cases failed
      have here := List.count_pos_iff.2 isRepeated
      refine .inl ⟨policy.id, rfl, ?_⟩
      rw [List.map_cons, List.count_cons_self]
      omega
    next =>
      rcases bind_eq_error_iff.1 failed with labelled | ⟨_, _, failed⟩
      · obtain ⟨fault, policyFailed, rfl⟩ := mapError_eq_error_iff.1 labelled
        exact .inr ⟨policy, List.mem_cons_self, fault, rfl, policyFailed⟩
      · rcases ih (bind_pure_eq_error_iff.1 failed) with ⟨id, rfl, twice⟩ | ⟨later, member, found⟩
        · refine .inl ⟨id, rfl, ?_⟩
          rw [List.count_cons] at twice
          rw [List.map_cons, List.count_cons]
          omega
        · exact .inr ⟨later, List.mem_cons_of_mem _ member, found⟩

/-- If the definitions pass, an error is caused by a policy. -/
theorem DefinitionsPass.causedByPolicies (passes : config.DefinitionsPass host)
    {error : BuildError} (failed : config.compile host = .error error) :
    config.CausedByPolicies host error := by
  have policiesFailed := (passes.compile_failsAlike.eq_error_iff error).1 failed
  rcases compilePolicies_eq_error policiesFailed with
    ⟨id, rfl, twice⟩ | ⟨policy, listed, fault, rfl, policyFailed⟩
  · rw [List.count_nil, Nat.zero_add] at twice
    exact .duplicate twice
  · exact .fault listed (passes.failsIn policyFailed)

end Causes

/-- Definitions that pass their checks cannot break a policy. If all do, then no policy meets a cycle,
and the outcome does not depend on what the definitions are: other ones of the same names that pass,
such as any for each of them, lead to an engine if these did and otherwise to the same error. The
error is always caused by something that is written in a policy, which is the one that it names. -/
theorem compile_blames_policies (passes : config.DefinitionsPass host) :
    (∀ policy id, config.compilePolicy host policy ≠ .error (.cycle id)) ∧
    (∀ label id, config.compile host ≠ .error (.fault label (.cycle id))) ∧
    (((∃ engine, config.withoutBodies.compile host = .ok engine) ↔
        ∃ engine, config.compile host = .ok engine) ∧
      ∀ error, config.withoutBodies.compile host = .error error ↔
        config.compile host = .error error) ∧
    (∀ rules matchers, (∀ id, rules.contains id = config.definitions.rules.contains id) →
      (∀ id, matchers.contains id = config.definitions.matchers.contains id) →
      (config.withDefinitions rules matchers).DefinitionsPass host →
      ∀ error, (config.withDefinitions rules matchers).compile host = .error error ↔
        config.compile host = .error error) ∧
    ∀ error, config.compile host = .error error → config.CausedByPolicies host error := by
  have withoutBodies := passes.withoutBodies_failsAlike
  refine ⟨?_, ?_, ⟨withoutBodies.exists_ok_iff, withoutBodies.eq_error_iff⟩, ?_, ?_⟩
  · intro policy id failed
    exact (passes.failsIn failed).ne_cycle id rfl
  · intro label id failed
    cases passes.causedByPolicies failed with
    | fault listed failsIn => exact failsIn.ne_cycle id rfl
  · intro rules matchers sameRules sameMatchers otherPasses
    exact (passes.withDefinitions_failsAlike sameRules sameMatchers otherPasses).eq_error_iff
  · intro error failed
    exact passes.causedByPolicies failed

/-- A policy that uses shared definitions, and then a matcher that nobody defines. -/
def unknownGuests : Config :=
  { Config.default with
    definitions :=
      { rules := NameMap.ofList [("registered", .entityGroup "research" .requester)]
        matchers := NameMap.ofList
          [("staff", .and [.rule (.reference "registered"), .value (.text "staff" false)])]
        policies :=
          [⟨"release", none, .attributeMatcher "role" (.reference "staff"),
            [⟨"role", some (.or [.reference "staff", .reference "guests"]), none⟩]⟩] } }

/-- A policy that refers to guests whom nothing defines is blamed, with and without bodies. -/
theorem unknownGuests_blamed :
    unknownGuests.DefinitionsPass .none ∧
      unknownGuests.compile .none = .error (.fault "release" (.unknownReference "guests")) ∧
      unknownGuests.withoutBodies.compile .none =
        .error (.fault "release" (.unknownReference "guests")) ∧
      unknownGuests.CausedByPolicies .none (.fault "release" (.unknownReference "guests")) := by
  have passes : unknownGuests.DefinitionsPass .none := ⟨rfl, rfl⟩
  have failed : unknownGuests.compile .none =
      .error (.fault "release" (.unknownReference "guests")) := rfl
  obtain ⟨-, -, ⟨-, sameError⟩, -, caused⟩ := compile_blames_policies passes
  exact ⟨passes, failed, (sameError _).2 failed, caused _ failed⟩

end Config

end AttributeRelease
