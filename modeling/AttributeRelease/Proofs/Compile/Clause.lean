import AttributeRelease.Compile.Basic
import AttributeRelease.Proofs.Outcome
import Mathlib.Logic.Relation

/-!
# Clauses of a configuration

Rules and matchers are written in terms of each other. A clause is either of them, so that a statement
about both is one statement, with `Clause.induction` for the induction that goes down both at once.
`Clause.compiles_iff` says when a clause compiles: it is sound itself, what it refers to can be had,
and its parts compile.
-/

namespace AttributeRelease

open Outcome

/-- A rule or a matcher as it is written. -/
inductive Clause where
  | rule (rule : RuleSpec)
  | matcher (matcher : MatcherSpec)

namespace Clause

/-- The clauses that a clause is made of directly. -/
def parts : Clause → List Clause
  | rule (.and rules) => rules.map rule
  | rule (.or rules) => rules.map rule
  | rule (.not part) => [rule part]
  | rule (.attributeMatcher _ part) => [matcher part]
  | matcher (.and matchers) => matchers.map matcher
  | matcher (.or matchers) => matchers.map matcher
  | matcher (.not part) => [matcher part]
  | matcher (.rule part) => [rule part]
  | _ => []

/-- What a clause refers to, if it is a reference. -/
def target? : Clause → Option Reference
  | rule (.reference id) => some (.rule id)
  | matcher (.reference id) => some (.matcher id)
  | _ => none

/-- A clause is another one or stands in it at any depth. -/
inductive Within : Clause → Clause → Prop where
  | self {clause} : Within clause clause
  | part {inner part clause} (member : part ∈ clause.parts) (within : Within inner part) :
      Within inner clause

/-- A clause has a reference in it, at any depth. -/
def Mentions (clause : Clause) (target : Reference) : Prop :=
  ∃ inner : Clause, inner.Within clause ∧ inner.target? = some target

/-- A part is smaller than the clause that it is a part of. -/
theorem sizeOf_lt_of_mem_parts {part clause : Clause} (member : part ∈ clause.parts) :
    sizeOf part < sizeOf clause := by
  unfold parts at member
  split at member
  case h_1 | h_2 | h_5 | h_6 =>
    obtain ⟨inner, innerMember, rfl⟩ := List.mem_map.1 member
    have smaller := List.sizeOf_lt_of_mem innerMember
    simp only [rule.sizeOf_spec, matcher.sizeOf_spec, RuleSpec.and.sizeOf_spec,
      RuleSpec.or.sizeOf_spec, MatcherSpec.and.sizeOf_spec, MatcherSpec.or.sizeOf_spec]
    omega
  case h_9 => cases member
  all_goals
    cases List.mem_singleton.1 member
    simp only [rule.sizeOf_spec, matcher.sizeOf_spec, RuleSpec.not.sizeOf_spec,
      RuleSpec.attributeMatcher.sizeOf_spec, MatcherSpec.not.sizeOf_spec,
      MatcherSpec.rule.sizeOf_spec]
    omega

/-- What holds of a clause if it holds of its parts holds of every clause. -/
@[elab_as_elim]
theorem induction {motive : Clause → Prop}
    (step : ∀ clause, (∀ part ∈ clause.parts, motive part) → motive clause) (clause : Clause) :
    motive clause :=
  step clause fun part _ => induction step part
termination_by sizeOf clause
decreasing_by exact sizeOf_lt_of_mem_parts ‹_›

/-- What stands in a clause is the clause, or stands in one of its parts. -/
theorem within_iff {inner clause : Clause} :
    inner.Within clause ↔ inner = clause ∨ ∃ part ∈ clause.parts, inner.Within part := by
  constructor
  · intro within
    cases within with
    | self => exact .inl rfl
    | part member within => exact .inr ⟨_, member, within⟩
  · rintro (rfl | ⟨part, member, within⟩)
    · exact .self
    · exact .part member within

/-- A clause mentions what its parts mention. -/
theorem Mentions.of_part {part clause : Clause} {target : Reference} (member : part ∈ clause.parts)
    (mentions : part.Mentions target) : clause.Mentions target := by
  obtain ⟨inner, within, refers⟩ := mentions
  exact ⟨inner, .part member within, refers⟩

/-- A property of all clauses within a clause, one level at a time. -/
theorem forall_within_iff {property : Clause → Prop} {clause : Clause} :
    (∀ inner : Clause, inner.Within clause → property inner) ↔
      property clause ∧
        ∀ part ∈ clause.parts, ∀ inner : Clause, inner.Within part → property inner := by
  constructor
  · intro every
    exact ⟨every clause .self, fun part member inner within => every inner (.part member within)⟩
  · rintro ⟨here, inParts⟩ inner within
    rcases within_iff.1 within with rfl | ⟨part, member, deeper⟩
    · exact here
    · exact inParts part member inner deeper

end Clause

/-- A comparison is sound: it has a text that is not blank, or a pattern that is one. -/
def TextTest.Sound : TextTest → Prop
  | .text content _ => ¬ Text.isBlank content
  | .pattern source =>
    ¬ Text.isBlank source ∧
      (Regex.ofText? (StringMatch.anchored (Text.trim source))).isSome = true

/-- The source of a script is sound: it is not blank, within the limit in bytes unless that is zero,
and accepted by the host. -/
def ScriptHost.Accepts (host : ScriptHost) (limit : UInt64) (source : String) : Prop :=
  ¬ Text.isBlank source ∧ (limit = 0 ∨ source.utf8ByteSize ≤ limit.toNat) ∧
    ∃ script, host.compile source = .ok script

namespace Clause

/-- A clause is sound, apart from what it refers to and from its parts. -/
def Sound (host : ScriptHost) (limit : UInt64) : Clause → Prop
  | rule (.and rules) => rules ≠ []
  | rule (.or rules) => rules ≠ []
  | rule (.fact _ test) => test.Sound
  | rule (.valueCount id least most) =>
    ¬ Text.isBlank id ∧ (least.isSome ∨ most.isSome) ∧
      ∀ low high, least = some low → most = some high → low ≤ high
  | rule (.attributeValue id test) => ¬ Text.isBlank id ∧ test.Sound
  | rule (.attributeScope id test) => ¬ Text.isBlank id ∧ test.Sound
  | rule (.attributeMatcher id _) => ¬ Text.isBlank id
  | rule (.entityAttributeText name _ text _) => ¬ Text.isBlank name ∧ ¬ Text.isBlank text
  | rule (.entityAttributePattern name _ pattern _) =>
    ¬ Text.isBlank name ∧ (TextTest.pattern pattern).Sound
  | rule (.nameIdFormat format) => ¬ Text.isBlank format
  | rule (.registrationAuthority authorities _) =>
    ∃ authority ∈ authorities, ¬ Text.isBlank authority
  | rule (.entityGroup group _) => ¬ Text.isBlank group
  | rule (.script source) => host.Accepts limit source
  | matcher (.value test) => test.Sound
  | matcher (.scope test) => test.Sound
  | matcher (.script source) => host.Accepts limit source
  | _ => True

end Clause

/-- A text is the source of a pattern exactly if it is a regular expression. -/
theorem Regex.Pattern.isSome_ofText? {text : String} :
    (Regex.Pattern.ofText? text).isSome = (Regex.ofText? text).isSome := by
  unfold Regex.Pattern.ofText?
  split <;> simp [*]

namespace Compile

/-- The check for a blank text passes what is not blank. -/
theorem nonBlank_eq_ok_iff {text : String} {fault : Fault} {done : Unit} :
    nonBlank text fault = .ok done ↔ ¬ Text.isBlank text := by
  unfold nonBlank
  split <;> simp [*]

/-- A comparison compiles exactly if it is sound. -/
theorem exists_test_eq_ok_iff {comparison : TextTest} :
    (∃ compiled, test comparison = .ok compiled) ↔ comparison.Sound := by
  cases comparison with
  | text content ignoreCase =>
    simp only [test, mapError_eq_ok_iff, TextTest.Sound, StringMatch.ofText, Text.trim_eq_empty_iff]
    split <;> simp [*]
  | pattern source =>
    simp only [test, mapError_eq_ok_iff, TextTest.Sound, StringMatch.ofPattern,
      Text.trim_eq_empty_iff]
    by_cases blank : Text.isBlank source
    · simp [blank]
    · rw [← Regex.Pattern.isSome_ofText?]
      cases Regex.Pattern.ofText? (StringMatch.anchored (Text.trim source)) <;> simp [blank]

/-- A script compiles exactly if the host accepts it within the limit. -/
theorem exists_script_eq_ok_iff {host : ScriptHost} {limit : UInt64} {source : String} :
    (∃ compiled, script host limit source = .ok compiled) ↔ host.Accepts limit source := by
  have within_limit : limit = 0 ∨ source.utf8ByteSize ≤ limit.toNat ↔
      ¬ (0 < limit ∧ limit.toNat < source.utf8ByteSize) := by
    rw [Classical.not_and_iff_not_or_not, UInt64.pos_iff_ne_zero, Classical.not_not, Nat.not_lt]
  unfold script ScriptHost.Accepts
  rw [within_limit]
  by_cases blank : Text.isBlank source
  · simp [blank]
  · by_cases long : 0 < limit ∧ limit.toNat < source.utf8ByteSize
    · simp only [blank, long, and_self, if_true, not_true_eq_false, false_and, and_false,
        reduceCtorEq, exists_false, if_false, Bool.false_eq_true]
    · simp only [blank, long, if_false, not_false_eq_true, true_and, mapError_eq_ok_iff,
        Bool.false_eq_true]

/-- A value count compiles exactly if it names an attribute and has a bound, and its bounds are in
order. -/
theorem exists_valueCount_eq_ok_iff {id : String} {least most : Option UInt64} :
    (∃ compiled, valueCount id least most = .ok compiled) ↔
      ¬ Text.isBlank id ∧ (least.isSome ∨ most.isSome) ∧
        ∀ low high, least = some low → most = some high → low ≤ high := by
  simp only [valueCount, bind_eq_ok_iff, nonBlank_eq_ok_iff]
  cases least with
  | none => cases most <;> simp
  | some low =>
    cases most with
    | none => simp
    | some high =>
      by_cases reversed : high < low
      · simp [reversed]
      · simp [reversed, UInt64.not_lt.1 reversed]

/-- A check for registration authorities compiles exactly if one of these is not blank. -/
theorem exists_registrationAuthority_eq_ok_iff {authorities : List String} {ifSilent : Bool} :
    (∃ compiled, registrationAuthority authorities ifSilent = .ok compiled) ↔
      ∃ authority ∈ authorities, ¬ Text.isBlank authority := by
  have noneLeft : ((authorities.map Text.trim).filter (· ≠ "")).isEmpty = true ↔
      ¬ ∃ authority ∈ authorities, ¬ Text.isBlank authority := by
    simp [List.filter_eq_nil_iff, Text.trim_eq_empty_iff]
  unfold registrationAuthority
  dsimp only
  split
  next isEmpty => exact iff_of_false (by simp) (noneLeft.1 isEmpty)
  next isEmpty => exact iff_of_true ⟨_, rfl⟩ (Classical.not_not.1 (mt noneLeft.2 isEmpty))

/-- A list of rules is compiled rule by rule. -/
theorem compileRules_eq_mapM {host : ScriptHost} {limit : UInt64} {references : References}
    {rules : List RuleSpec} :
    compileRules host limit references rules = rules.mapM (compileRule host limit references) := by
  induction rules with
  | nil => rw [compileRules]; rfl
  | cons rule rest ih => rw [compileRules, List.mapM_cons, ih]

/-- A list of matchers is compiled matcher by matcher. -/
theorem compileMatchers_eq_mapM {host : ScriptHost} {limit : UInt64} {references : References}
    {matchers : List MatcherSpec} :
    compileMatchers host limit references matchers =
      matchers.mapM (compileMatcher host limit references) := by
  induction matchers with
  | nil => rw [compileMatchers]; rfl
  | cons matcher rest ih => rw [compileMatchers, List.mapM_cons, ih]

end Compile

namespace References

/-- What a reference stands for. -/
def get (references : References) : Reference → Except Fault (Rule ⊕ Matcher)
  | .rule id => (references.rule id).map .inl
  | .matcher id => (references.matcher id).map .inr

/-- A reference to a rule stands for something exactly if the rule can be had. -/
theorem exists_get_rule_iff {references : References} {id : String} :
    (∃ compiled, references.get (.rule id) = .ok compiled) ↔
      ∃ compiled, references.rule id = .ok compiled :=
  exists_map_eq_ok_iff

/-- A reference to a matcher stands for something exactly if the matcher can be had. -/
theorem exists_get_matcher_iff {references : References} {id : String} :
    (∃ compiled, references.get (.matcher id) = .ok compiled) ↔
      ∃ compiled, references.matcher id = .ok compiled :=
  exists_map_eq_ok_iff

end References

open Compile

namespace Clause

/-- The compiled form of a clause, with what its references stand for. -/
def compile (host : ScriptHost) (limit : UInt64) (references : References) :
    Clause → Except Fault (Rule ⊕ Matcher)
  | rule spec => (compileRule host limit references spec).map .inl
  | matcher spec => (compileMatcher host limit references spec).map .inr

/-- A clause compiles, with what its references stand for. -/
def Compiles (host : ScriptHost) (limit : UInt64) (references : References) (clause : Clause) :
    Prop :=
  ∃ compiled, clause.compile host limit references = .ok compiled

variable {host : ScriptHost} {limit : UInt64} {references : References}

/-- A rule compiles as a clause exactly if it compiles. -/
theorem compiles_rule_iff {spec : RuleSpec} :
    (rule spec).Compiles host limit references ↔
      ∃ compiled, compileRule host limit references spec = .ok compiled :=
  exists_map_eq_ok_iff

/-- A matcher compiles as a clause exactly if it compiles. -/
theorem compiles_matcher_iff {spec : MatcherSpec} :
    (matcher spec).Compiles host limit references ↔
      ∃ compiled, compileMatcher host limit references spec = .ok compiled :=
  exists_map_eq_ok_iff

/-- One level of compiling: a clause compiles if it is sound, what it refers to can be had, and its
parts compile. -/
theorem compiles_iff {clause : Clause} :
    clause.Compiles host limit references ↔
      clause.Sound host limit ∧
        (∀ target, clause.target? = some target → ∃ compiled, references.get target = .ok compiled) ∧
        ∀ part ∈ clause.parts, part.Compiles host limit references := by
  cases clause with
  | rule spec =>
    rw [compiles_rule_iff]
    cases spec
    case and rules | or rules =>
      cases rules with
      | nil => simp [compileRule, Sound]
      | cons first rest =>
        simp [compileRule, Sound, target?, parts, exists_bind_eq_ok_iff, compiles_rule_iff,
          compileRules_eq_mapM, exists_mapM_eq_ok_iff]
    -- These compile their comparison or matcher first and look at the name after that.
    case attributeValue | attributeScope | attributeMatcher =>
      simp [compileRule, Sound, target?, parts, exists_bind_eq_ok_iff, exists_test_eq_ok_iff,
        compiles_matcher_iff, attributeValues, nonBlank_eq_ok_iff, and_comm]
    case entityAttributeText | entityAttributePattern =>
      simp [compileRule, Sound, target?, parts, exists_bind_eq_ok_iff, exists_test_eq_ok_iff,
        TextTest.Sound, entityAttribute, nonBlank_eq_ok_iff, and_comm]
    case reference id =>
      simp only [compileRule, Sound, target?, parts, Option.some.injEq, forall_eq', true_and,
        List.not_mem_nil, false_imp_iff, implies_true, and_true, References.exists_get_rule_iff]
    all_goals
      simp [compileRule, Sound, target?, parts, exists_bind_eq_ok_iff, exists_test_eq_ok_iff,
        exists_valueCount_eq_ok_iff, exists_script_eq_ok_iff,
        exists_registrationAuthority_eq_ok_iff, nonBlank_eq_ok_iff, compiles_rule_iff]
  | matcher spec =>
    rw [compiles_matcher_iff]
    cases spec
    case reference id =>
      simp only [compileMatcher, Sound, target?, parts, Option.some.injEq, forall_eq', true_and,
        List.not_mem_nil, false_imp_iff, implies_true, and_true, References.exists_get_matcher_iff]
    all_goals
      simp [compileMatcher, Sound, target?, parts, exists_bind_eq_ok_iff, exists_test_eq_ok_iff,
        exists_script_eq_ok_iff, compiles_rule_iff, compiles_matcher_iff,
        compileMatchers_eq_mapM, exists_mapM_eq_ok_iff]

/-- A clause compiles if every clause within it is sound and all that it mentions can be had. -/
theorem compiles_iff_forall_within {clause : Clause} :
    clause.Compiles host limit references ↔
      (∀ inner : Clause, inner.Within clause → inner.Sound host limit) ∧
        ∀ target, clause.Mentions target → ∃ compiled, references.get target = .ok compiled := by
  have everywhere : clause.Compiles host limit references ↔
      ∀ inner : Clause, inner.Within clause → inner.Sound host limit ∧
        ∀ target, inner.target? = some target →
          ∃ compiled, references.get target = .ok compiled := by
    induction clause using Clause.induction with
    | step clause ih =>
      rw [compiles_iff, forall_within_iff, and_assoc]
      refine and_congr_right fun _ => and_congr_right fun _ => ?_
      exact forall_congr' fun part => forall_congr' fun member => ih part member
  rw [everywhere]
  constructor
  · intro every
    refine ⟨fun inner within => (every inner within).1, ?_⟩
    rintro target ⟨inner, within, refers⟩
    exact (every inner within).2 target refers
  · rintro ⟨sound, known⟩ inner within
    exact ⟨sound inner within, fun target refers => known target ⟨inner, within, refers⟩⟩

end Clause

end AttributeRelease
