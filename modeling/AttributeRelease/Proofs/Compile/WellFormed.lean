import AttributeRelease.Proofs.Compile.Inlining
import AttributeRelease.Proofs.Engine.Scriptless
import Mathlib.Data.List.DropRight

/-!
# Compiled engines are well formed

What evaluation relies on without a check of its own, everywhere in the rules and matchers of an
engine: comparisons are with something, names are trimmed and not empty, conjunctions and
disjunctions of rules have parts, and bounds are in order. `Node.WellFormed` says this of one node,
`Node.Sound` of a node and all that stands in it.

Compiling a clause gives a sound node if its references stand for sound ones (`Clause.compilesSound`),
with one case for each form of a clause. That they do is an induction on how many references can still
be opened.
-/

namespace AttributeRelease

open Outcome

namespace Text

/-- Nothing is left to trim of trimmed characters. -/
theorem trimList_trimList (chars : List Char) : trimList (trimList chars) = trimList chars := by
  have startKept : (trimList chars).dropWhile isSpace = trimList chars := by
    rw [List.dropWhile_eq_self_iff]
    intro nonempty
    have shorter : trimList chars <+: chars.dropWhile isSpace := List.rdropWhile_prefix isSpace _
    have sameStart := shorter.getElem nonempty
    rw [sameStart]
    exact List.dropWhile_eq_self_iff.1 (List.dropWhile_idempotent isSpace chars) _
  rw [trimList, startKept]
  exact List.rdropWhile_idempotent isSpace _

/-- Nothing is left to trim at the ends of a trimmed text. -/
@[simp] theorem trim_trim (text : String) : trim (trim text) = trim text := by
  rw [trim, trim, String.toList_ofList, trimList_trimList]

/-- A text that is not empty is not so in lower case either. -/
theorem lowerList_ne_nil {before chars : List Char} (nonempty : chars ≠ []) :
    lowerList before chars ≠ [] := by
  cases chars with
  | nil => exact absurd rfl nonempty
  | cons c rest =>
    simp only [lowerList]
    split
    · simp
    · split <;> simp

/-- Lower-casing leaves something of each text but the empty one. -/
theorem lower_ne_empty {text : String} (nonempty : text ≠ "") : lower text ≠ "" := by
  rw [lower, Ne, String.ofList_eq_empty_iff]
  exact lowerList_ne_nil (mt String.toList_eq_nil_iff.1 nonempty)

/-- There is something in a text, and no white space at its ends. -/
structure Trimmed (text : String) : Prop where
  trim_eq : trim text = text
  nonempty : text ≠ ""

/-- A text that is not blank is something once it is trimmed. -/
theorem trimmed_trim {text : String} (notBlank : ¬ isBlank text) : Trimmed (trim text) where
  trim_eq := trim_trim text
  nonempty := mt (trim_eq_empty_iff text).1 notBlank

end Text

/-- A comparison with a text is with something. -/
def StringMatch.WellFormed : StringMatch → Prop
  | exact text _ => text ≠ ""
  | pattern _ => True

/-- A value count names an attribute and has a bound, and its bounds are in order. -/
structure ValueCount.WellFormed (count : ValueCount) : Prop where
  named : ¬ Text.isBlank count.attributeId
  bounded : count.least.isSome = true ∨ count.most.isSome = true
  ordered : ∀ least most, count.least = some least → count.most = some most → least ≤ most

/-- What a check of metadata looks for is trimmed and not empty. -/
def MetadataCheck.WellFormed : MetadataCheck → Prop
  | entityAttribute _ name _ test => Text.Trimmed name ∧ test.WellFormed
  | nameIdFormat format => Text.Trimmed format
  | registrationAuthority authorities _ =>
    authorities ≠ [] ∧ ∀ authority ∈ authorities, Text.Trimmed authority
  | entityGroup _ group => Text.Trimmed group

namespace Node

/-- What is asked of one node of a compiled rule or matcher, apart from its parts. -/
def WellFormed : Node → Prop
  | rule (.and rules) => rules ≠ []
  | rule (.or rules) => rules ≠ []
  | rule (.fact _ test) => test.WellFormed
  | rule (.valueCount count) => count.WellFormed
  | rule (.attributeValues id _) => ¬ Text.isBlank id
  | rule (.metadata check) => check.WellFormed
  | matcher (.value test) => test.WellFormed
  | matcher (.scope test) => test.WellFormed
  | matcher (.metadata check) => check.WellFormed
  | matcher (.fromRule part) => ∀ check, part ≠ .metadata check
  | _ => True

/-- A node and all that stands in it, at any depth, is well formed. -/
def Sound (node : Node) : Prop := ∀ inner ∈ node.nodes, inner.WellFormed

/-- A node is sound exactly if it is well formed and its parts are sound. -/
theorem sound_iff {node : Node} :
    node.Sound ↔ node.WellFormed ∧ ∀ part ∈ node.parts, part.Sound :=
  forall_mem_nodes_iff

/-- A well-formed node without parts is sound. -/
theorem sound_of_parts_eq_nil {node : Node} (wellFormed : node.WellFormed)
    (noParts : node.parts = []) : node.Sound :=
  sound_iff.2 ⟨wellFormed, by simp [noParts]⟩

end Node

namespace Compile

/-- A compiled comparison is well formed. -/
theorem test_wellFormed {comparison : TextTest} {compiled : StringMatch}
    (compiles : test comparison = .ok compiled) : compiled.WellFormed := by
  cases comparison with
  | text content ignoreCase =>
    rw [test, mapError_eq_ok_iff, StringMatch.ofText] at compiles
    by_cases empty : Text.trim content = ""
    · simp [empty] at compiles
    · simp only [empty, if_false, Except.ok.injEq] at compiles
      subst compiles
      cases ignoreCase with
      | true => exact Text.lower_ne_empty empty
      | false => exact empty
  | pattern source =>
    rw [test, mapError_eq_ok_iff, StringMatch.ofPattern] at compiles
    by_cases empty : Text.trim source = ""
    · simp [empty] at compiles
    · simp only [empty, if_false] at compiles
      split at compiles
      · cases compiles
        trivial
      · cases compiles

/-- A compiled value count is well formed. -/
theorem valueCount_wellFormed {id : String} {least most : Option UInt64} {compiled : ValueCount}
    (compiles : valueCount id least most = .ok compiled) : compiled.WellFormed := by
  obtain ⟨named, bounded, ordered⟩ := exists_valueCount_eq_ok_iff.1 ⟨compiled, compiles⟩
  have bounds : compiled = ⟨id, least.map UInt64.toNat, most.map UInt64.toNat⟩ := by
    simp only [valueCount, bind_eq_ok_iff] at compiles
    obtain ⟨_, _, compiles⟩ := compiles
    cases least with
    | none =>
      cases most with
      | none => simp at bounded
      | some high => exact (Except.ok.inj compiles).symm
    | some low =>
      cases most with
      | none => exact (Except.ok.inj compiles).symm
      | some high =>
        have inOrder : ¬ high < low := UInt64.not_lt.2 (ordered low high rfl rfl)
        simp only [inOrder, if_false] at compiles
        exact (Except.ok.inj compiles).symm
  subst bounds
  refine ⟨named, by simpa using bounded, ?_⟩
  simp only [Option.map_eq_some_iff]
  rintro _ _ ⟨low, isLow, rfl⟩ ⟨high, isHigh, rfl⟩
  exact UInt64.le_iff_toNat_le.1 (ordered low high isLow isHigh)

/-- A rule about the values of an attribute compiles exactly if it names the attribute. -/
theorem attributeValues_eq_ok_iff {id : String} {matcher : Matcher} {compiled : Rule} :
    attributeValues id matcher = .ok compiled ↔
      ¬ Text.isBlank id ∧ .attributeValues id matcher = compiled := by
  simp [attributeValues, bind_eq_ok_iff, nonBlank_eq_ok_iff]

/-- A compiled check for an entity attribute is sound if its comparison is well formed. -/
theorem entityAttribute_sound {name : String} {format : Option String} {test : StringMatch}
    {party : Party} {compiled : Rule} (wellFormed : test.WellFormed)
    (compiles : entityAttribute name format test party = .ok compiled) :
    (Node.rule compiled).Sound := by
  simp only [entityAttribute, bind_eq_ok_iff, nonBlank_eq_ok_iff, pure_eq_ok,
    Except.ok.injEq] at compiles
  obtain ⟨_, notBlank, rfl⟩ := compiles
  exact Node.sound_of_parts_eq_nil ⟨Text.trimmed_trim notBlank, wellFormed⟩ rfl

/-- A compiled check for registration authorities is sound. -/
theorem registrationAuthority_sound {authorities : List String} {ifSilent : Bool}
    {compiled : Rule} (compiles : registrationAuthority authorities ifSilent = .ok compiled) :
    (Node.rule compiled).Sound := by
  unfold registrationAuthority at compiles
  dsimp only at compiles
  split at compiles
  · cases compiles
  next nonempty =>
    cases compiles
    refine Node.sound_of_parts_eq_nil ⟨fun empty => nonempty ?_, ?_⟩ rfl
    · rw [empty]
      rfl
    · intro authority member
      obtain ⟨written, isTrimmed⟩ := List.mem_filter.1 member
      obtain ⟨source, _, rfl⟩ := List.mem_map.1 written
      exact ⟨Text.trim_trim source, by simpa using isTrimmed⟩

/-- A metadata check has no rule around it any more. -/
theorem matcherOfRule_sound {rule : Rule} (sound : (Node.rule rule).Sound) :
    (Node.matcher (matcherOfRule rule)).Sound := by
  have wrapped : (∀ check, rule ≠ .metadata check) → (Node.matcher (.fromRule rule)).Sound :=
    fun notCheck => Node.sound_iff.2 ⟨notCheck, by simpa [Node.parts] using sound⟩
  cases rule with
  | metadata check => exact Node.sound_of_parts_eq_nil (Node.sound_iff.1 sound).1 rfl
  | _ => exact wrapped (by simp)

end Compile

/-- The node of a compiled clause. -/
def Node.ofCompiled : Rule ⊕ Matcher → Node := Sum.elim .rule .matcher

namespace Clause

variable {host : ScriptHost} {limit : UInt64} {references : References}

/-- Whatever a clause compiles to is sound. -/
def CompilesSound (host : ScriptHost) (limit : UInt64) (references : References)
    (clause : Clause) : Prop :=
  ∀ compiled, clause.compile host limit references = .ok compiled →
    (Node.ofCompiled compiled).Sound

/-- A rule compiles soundly as a clause exactly if whatever it compiles to is sound. -/
theorem compilesSound_rule_iff {spec : RuleSpec} :
    (rule spec).CompilesSound host limit references ↔
      ∀ compiled, compileRule host limit references spec = .ok compiled →
        (Node.rule compiled).Sound := by
  simp only [CompilesSound, compile, map_eq_ok_iff, forall_exists_index, and_imp,
    forall_comm (α := Rule ⊕ Matcher), forall_eq']
  exact Iff.rfl

/-- A matcher compiles soundly as a clause exactly if whatever it compiles to is sound. -/
theorem compilesSound_matcher_iff {spec : MatcherSpec} :
    (matcher spec).CompilesSound host limit references ↔
      ∀ compiled, compileMatcher host limit references spec = .ok compiled →
        (Node.matcher compiled).Sound := by
  simp only [CompilesSound, compile, map_eq_ok_iff, forall_exists_index, and_imp,
    forall_comm (α := Rule ⊕ Matcher), forall_eq']
  exact Iff.rfl

section Parts

variable (stands : ∀ target compiled, references.get target = .ok compiled →
  (Node.ofCompiled compiled).Sound)

include stands

/-- One level of compiling a rule. -/
theorem compileRule_sound {spec : RuleSpec}
    (ruleSound : ∀ part, rule part ∈ (rule spec).parts →
      ∀ compiled, compileRule host limit references part = .ok compiled →
        (Node.rule compiled).Sound)
    (matcherSound : ∀ part, matcher part ∈ (rule spec).parts →
      ∀ compiled, compileMatcher host limit references part = .ok compiled →
        (Node.matcher compiled).Sound)
    {compiled : Rule} (compiles : compileRule host limit references spec = .ok compiled) :
    (Node.rule compiled).Sound := by
  cases spec
  case and rules | or rules =>
    cases rules with
    | nil => simp only [compileRule, reduceCtorEq] at compiles
    | cons first rest =>
      simp only [compileRule, Compile.compileRules_eq_mapM, bind_eq_ok_iff, pure_eq_ok,
        Except.ok.injEq] at compiles
      obtain ⟨head, headCompiles, others, othersCompile, rfl⟩ := compiles
      have headSound := ruleSound first (List.mem_cons_self ..) head headCompiles
      have othersSound := forall_mem_of_mapM_eq_ok (fun part member =>
        ruleSound part (List.mem_map_of_mem (List.mem_cons_of_mem _ member))) othersCompile
      exact Node.sound_iff.2 ⟨List.cons_ne_nil _ _,
        List.forall_mem_map.2 (List.forall_mem_cons.2 ⟨headSound, othersSound⟩)⟩
  case any | none =>
    cases compiles
    exact Node.sound_of_parts_eq_nil trivial rfl
  case not part =>
    simp only [compileRule, bind_eq_ok_iff, pure_eq_ok, Except.ok.injEq] at compiles
    obtain ⟨inner, innerCompiles, rfl⟩ := compiles
    have innerSound := ruleSound part (List.mem_singleton_self _) inner innerCompiles
    exact Node.sound_iff.2 ⟨trivial, List.forall_mem_singleton.2 innerSound⟩
  case fact kind comparison =>
    simp only [compileRule, bind_eq_ok_iff, pure_eq_ok, Except.ok.injEq] at compiles
    obtain ⟨test, tested, rfl⟩ := compiles
    exact Node.sound_of_parts_eq_nil (Compile.test_wellFormed tested) rfl
  case valueCount id least most =>
    simp only [compileRule, bind_eq_ok_iff, pure_eq_ok, Except.ok.injEq] at compiles
    obtain ⟨count, counted, rfl⟩ := compiles
    exact Node.sound_of_parts_eq_nil (Compile.valueCount_wellFormed counted) rfl
  case attributeValue id comparison | attributeScope id comparison =>
    simp only [compileRule, bind_eq_ok_iff, Compile.attributeValues_eq_ok_iff] at compiles
    obtain ⟨test, tested, named, rfl⟩ := compiles
    refine Node.sound_iff.2 ⟨named, List.forall_mem_singleton.2 ?_⟩
    exact Node.sound_of_parts_eq_nil (Compile.test_wellFormed tested) rfl
  case attributeMatcher id part =>
    simp only [compileRule, bind_eq_ok_iff, Compile.attributeValues_eq_ok_iff] at compiles
    obtain ⟨inner, innerCompiles, named, rfl⟩ := compiles
    have innerSound := matcherSound part (List.mem_singleton_self _) inner innerCompiles
    exact Node.sound_iff.2 ⟨named, List.forall_mem_singleton.2 innerSound⟩
  case entityAttributeText | entityAttributePattern =>
    simp only [compileRule, bind_eq_ok_iff] at compiles
    obtain ⟨test, tested, compiles⟩ := compiles
    exact Compile.entityAttribute_sound (Compile.test_wellFormed tested) compiles
  case nameIdFormat text | entityGroup text _ =>
    simp only [compileRule, bind_eq_ok_iff, Compile.nonBlank_eq_ok_iff, pure_eq_ok,
      Except.ok.injEq] at compiles
    obtain ⟨_, notBlank, rfl⟩ := compiles
    exact Node.sound_of_parts_eq_nil (Text.trimmed_trim notBlank) rfl
  case registrationAuthority authorities ifSilent =>
    exact Compile.registrationAuthority_sound compiles
  case script source =>
    simp only [compileRule, bind_eq_ok_iff, pure_eq_ok, Except.ok.injEq] at compiles
    obtain ⟨script, _, rfl⟩ := compiles
    exact Node.sound_of_parts_eq_nil trivial rfl
  case reference id =>
    exact stands (.rule id) (.inl compiled) (map_eq_ok_iff.2 ⟨compiled, compiles, rfl⟩)

/-- One level of compiling a matcher. -/
theorem compileMatcher_sound {spec : MatcherSpec}
    (ruleSound : ∀ part, rule part ∈ (matcher spec).parts →
      ∀ compiled, compileRule host limit references part = .ok compiled →
        (Node.rule compiled).Sound)
    (matcherSound : ∀ part, matcher part ∈ (matcher spec).parts →
      ∀ compiled, compileMatcher host limit references part = .ok compiled →
        (Node.matcher compiled).Sound)
    {compiled : Matcher} (compiles : compileMatcher host limit references spec = .ok compiled) :
    (Node.matcher compiled).Sound := by
  cases spec
  case any | requested =>
    cases compiles
    exact Node.sound_of_parts_eq_nil trivial rfl
  case and matchers | or matchers =>
    simp only [compileMatcher, Compile.compileMatchers_eq_mapM, bind_eq_ok_iff, pure_eq_ok,
      Except.ok.injEq] at compiles
    obtain ⟨parts, partsCompile, rfl⟩ := compiles
    have partsSound := forall_mem_of_mapM_eq_ok (fun part member =>
      matcherSound part (List.mem_map_of_mem member)) partsCompile
    exact Node.sound_iff.2 ⟨trivial, List.forall_mem_map.2 partsSound⟩
  case not part =>
    simp only [compileMatcher, bind_eq_ok_iff, pure_eq_ok, Except.ok.injEq] at compiles
    obtain ⟨inner, innerCompiles, rfl⟩ := compiles
    have innerSound := matcherSound part (List.mem_singleton_self _) inner innerCompiles
    exact Node.sound_iff.2 ⟨trivial, List.forall_mem_singleton.2 innerSound⟩
  case value comparison | scope comparison =>
    simp only [compileMatcher, bind_eq_ok_iff, pure_eq_ok, Except.ok.injEq] at compiles
    obtain ⟨test, tested, rfl⟩ := compiles
    exact Node.sound_of_parts_eq_nil (Compile.test_wellFormed tested) rfl
  case script source =>
    simp only [compileMatcher, bind_eq_ok_iff, pure_eq_ok, Except.ok.injEq] at compiles
    obtain ⟨script, _, rfl⟩ := compiles
    exact Node.sound_of_parts_eq_nil trivial rfl
  case rule part =>
    simp only [compileMatcher, bind_eq_ok_iff, pure_eq_ok, Except.ok.injEq] at compiles
    obtain ⟨inner, innerCompiles, rfl⟩ := compiles
    have innerSound := ruleSound part (List.mem_singleton_self _) inner innerCompiles
    exact Compile.matcherOfRule_sound innerSound
  case reference id =>
    exact stands (.matcher id) (.inr compiled) (map_eq_ok_iff.2 ⟨compiled, compiles, rfl⟩)

/-- A clause compiles to something sound if its references stand for something sound. -/
theorem compilesSound (clause : Clause) : clause.CompilesSound host limit references := by
  induction clause using Clause.induction with
  | step clause partsSound =>
    have ruleSound := fun part member => compilesSound_rule_iff.1 (partsSound (rule part) member)
    have matcherSound := fun part member =>
      compilesSound_matcher_iff.1 (partsSound (matcher part) member)
    cases clause with
    | rule spec =>
      exact compilesSound_rule_iff.2 fun _ => compileRule_sound stands ruleSound matcherSound
    | matcher spec =>
      exact compilesSound_matcher_iff.2 fun _ => compileMatcher_sound stands ruleSound matcherSound

end Parts

end Clause

/-- Whatever a reference stands for is sound, no matter which references are open. -/
theorem References.within_sound {config : Config} {host : ScriptHost} {left : Nat}
    {openOnes : List Reference} {target : Reference} {compiled : Rule ⊕ Matcher}
    (stands : (within config host left openOnes).get target = .ok compiled) :
    (Node.ofCompiled compiled).Sound := by
  induction left using Nat.strongRecOn generalizing openOnes target compiled with
  | ind left ih =>
    obtain ⟨definition, fewer, _, _, rfl, compiles⟩ := get_within_eq_ok_iff.1 stands
    exact definition.compilesSound (fun _ _ => ih fewer (Nat.lt_succ_self fewer)) _ compiles

/-- A rule for an attribute is what its configuration asks for: it is about the same attribute, and
permits or denies as that says. -/
structure AttributeRuleSpec.Realised (spec : AttributeRuleSpec) (rule : AttributeRule) : Prop where
  attributeId : rule.attributeId = spec.attributeId
  permits : rule.effect = .permit ↔ spec.permit.isSome = true
  denies : rule.effect = .deny ↔ spec.deny.isSome = true

/-- A policy has the id that its configuration gives, and one rule for each rule there, in order. -/
structure PolicySpec.Realised (spec : PolicySpec) (policy : Policy) : Prop where
  id : policy.id = spec.id
  rules : List.Forall₂ AttributeRuleSpec.Realised spec.rules policy.rules

namespace Config

variable {config : Config} {host : ScriptHost}

/-- A compiled rule is sound. -/
theorem compileRule_sound {openOnes : List Reference} {spec : RuleSpec} {compiled : Rule}
    (compiles : config.compileRule host openOnes spec = .ok compiled) :
    (Node.rule compiled).Sound :=
  Clause.compilesSound_rule_iff.1
    (Clause.compilesSound (fun _ _ => References.within_sound) (.rule spec)) compiled compiles

/-- A compiled matcher is sound. -/
theorem compileMatcher_sound {openOnes : List Reference} {spec : MatcherSpec} {compiled : Matcher}
    (compiles : config.compileMatcher host openOnes spec = .ok compiled) :
    (Node.matcher compiled).Sound :=
  Clause.compilesSound_matcher_iff.1
    (Clause.compilesSound (fun _ _ => References.within_sound) (.matcher spec)) compiled compiles

/-- A compiled attribute rule is what its configuration asks for, and its matcher is sound. -/
theorem compileAttributeRule_realised {spec : AttributeRuleSpec} {rule : AttributeRule}
    (compiles : config.compileAttributeRule host spec = .ok rule) :
    spec.Realised rule ∧ (Node.matcher rule.matcher).Sound := by
  obtain ⟨id, permit, deny⟩ := spec
  simp only [compileAttributeRule, bind_eq_ok_iff] at compiles
  obtain ⟨_, _, compiles⟩ := compiles
  rcases permit with _ | permit <;> rcases deny with _ | deny
  case none.none | some.some => cases compiles
  case none.some | some.none =>
    simp only [bind_eq_ok_iff, pure_eq_ok, Except.ok.injEq] at compiles
    obtain ⟨matcher, matcherCompiles, rfl⟩ := compiles
    exact ⟨⟨rfl, by simp, by simp⟩, compileMatcher_sound matcherCompiles⟩

/-- A compiled policy is what its configuration asks for, and all of its nodes are well formed. -/
theorem compilePolicy_realised {spec : PolicySpec} {policy : Policy}
    (compiles : config.compilePolicy host spec = .ok policy) :
    spec.Realised policy ∧ ∀ node ∈ policy.nodes, node.WellFormed := by
  simp only [compilePolicy, bind_eq_ok_iff, pure_eq_ok, Except.ok.injEq] at compiles
  obtain ⟨_, _, requirement, required, rules, rulesCompile, rfl⟩ := compiles
  have rulesRealised := (mapM_eq_ok_iff.1 rulesCompile).imp fun _ _ compiles =>
    (compileAttributeRule_realised compiles).1
  have matchersSound := forall_mem_of_mapM_eq_ok (fun spec _ rule compiles =>
    (compileAttributeRule_realised compiles).2) rulesCompile
  refine ⟨⟨rfl, rulesRealised⟩, List.forall_mem_append.2 ⟨compileRule_sound required, ?_⟩⟩
  exact List.forall_mem_flatMap.2 matchersSound

/-- If policies compile, each of them compiles on its own to the policy in its place. -/
theorem compilePolicies_eq_ok {before : List String} {specs : List PolicySpec}
    {policies : List Policy} (compiles : config.compilePolicies host before specs = .ok policies) :
    specs.mapM (config.compilePolicy host) = .ok policies := by
  induction specs generalizing before policies with
  | nil =>
    rw [compilePolicies] at compiles
    cases compiles
    rfl
  | cons spec rest ih =>
    rw [compilePolicies] at compiles
    split at compiles
    · cases compiles
    · simp only [bind_eq_ok_iff, mapError_eq_ok_iff, pure_eq_ok, Except.ok.injEq] at compiles
      obtain ⟨first, firstCompiles, others, othersCompile, rfl⟩ := compiles
      rw [List.mapM_cons, firstCompiles, ih othersCompile]
      rfl

/-- A compiled engine is what its configuration asks for, and it is well formed. It has the id that
the configuration gives, its policies and their rules for attributes in order, and each of these is
about the same attribute and permits or denies as it says there. And everywhere in its requirements
and matchers, at any depth, each node is as evaluation relies on. -/
theorem compile_wellFormed {config : Config} {host : ScriptHost} {engine : Engine}
    (compiled : config.compile host = .ok engine) :
    engine.id = config.engine.id ∧
      List.Forall₂ PolicySpec.Realised config.definitions.policies engine.policies ∧
      ∀ node ∈ engine.nodes, node.WellFormed := by
  simp only [compile, bind_eq_ok_iff, pure_eq_ok, Except.ok.injEq] at compiled
  obtain ⟨_, _, _, _, policies, policiesCompile, rfl⟩ := compiled
  have inOrder := compilePolicies_eq_ok policiesCompile
  refine ⟨rfl, ?realised, ?sound⟩
  case realised =>
    exact (mapM_eq_ok_iff.1 inOrder).imp fun _ _ compiles => (compilePolicy_realised compiles).1
  case sound =>
    exact List.forall_mem_flatMap.2 (forall_mem_of_mapM_eq_ok
      (fun _ _ _ compiles => (compilePolicy_realised compiles).2) inOrder)

/-- The configuration compiles to an engine that is what it asks for, and well formed. -/
theorem sharedStaff_wellFormed :
    ∃ engine, sharedStaff.compile .none = .ok engine ∧
      engine.id = sharedStaff.engine.id ∧
      List.Forall₂ PolicySpec.Realised sharedStaff.definitions.policies engine.policies ∧
      ∀ node ∈ engine.nodes, node.WellFormed := by
  have compiled : ∃ engine, sharedStaff.compile .none = .ok engine := ⟨_, rfl⟩
  obtain ⟨engine, compiled⟩ := compiled
  exact ⟨engine, compiled, compile_wellFormed compiled⟩

end Config

end AttributeRelease
