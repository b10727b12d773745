import AttributeRelease.Engine.Basic
import AttributeRelease.Proofs.Outcome
import Mathlib.Control.Monad.Basic

/-!
# What a filtering pass enters into its work area

Every step of a pass only adds to the work area. `WorkArea.Accrues` says of something that work areas
can have how it comes with what a single rule records; `Engine.evaluate_iff` concludes that after a
whole pass it is there exactly if a rule of an active policy added it. For the values of attributes
this is `Engine.evaluate_has_iff`. Permitting and denying differ only in what a rule enters when its
matcher does not apply.
-/

namespace AttributeRelease

open Outcome

namespace WorkArea

/-- What was permitted, or denied. -/
def entries (area : WorkArea) : Effect → NameMap ValueSet
  | .permit => area.permitted
  | .deny => area.denied

/-- A value of an attribute was permitted, or denied. -/
def Has (area : WorkArea) (effect : Effect) (id : String) (value : Value) : Prop :=
  value ∈ ((area.entries effect).find? id).getD ∅

/-- The empty work area has no values. -/
theorem not_has_empty {effect : Effect} {id : String} {value : Value} :
    ¬ empty.Has effect id value := by
  cases effect <;> exact ValueSet.not_mem_empty value

/-- Extending an entry adds the values to it, and leaves other entries as they are. -/
theorem mem_extend_iff {entries : NameMap ValueSet} {name id : String} {added : ValueSet}
    {value : Value} :
    value ∈ ((extend entries name added).find? id).getD ∅ ↔
      value ∈ (entries.find? id).getD ∅ ∨ name = id ∧ value ∈ added := by
  unfold extend
  rw [NameMap.find?_insert]
  by_cases same : name = id
  · subst same
    simp
  · simp [same]

/-- Permitting values of an attribute adds these to what is permitted. -/
theorem has_permit_iff {area : WorkArea} {name id : String} {values : ValueSet} {effect : Effect}
    {value : Value} :
    (area.permit name values).Has effect id value ↔
      area.Has effect id value ∨ effect = .permit ∧ name = id ∧ value ∈ values := by
  cases effect with
  | permit =>
    simp only [true_and]
    exact mem_extend_iff
  | deny =>
    simp only [reduceCtorEq, false_and, or_false]
    exact Iff.rfl

/-- Denying values of an attribute adds these to what is denied. -/
theorem has_deny_iff {area : WorkArea} {name id : String} {values : ValueSet} {effect : Effect}
    {value : Value} :
    (area.deny name values).Has effect id value ↔
      area.Has effect id value ∨ effect = .deny ∧ name = id ∧ value ∈ values := by
  cases effect with
  | permit =>
    simp only [reduceCtorEq, false_and, or_false]
    exact Iff.rfl
  | deny =>
    simp only [true_and]
    exact mem_extend_iff

/-- An attribute has an entry of permitted, or of denied values, which may be empty. -/
def HasEntry (area : WorkArea) (effect : Effect) (id : String) : Prop :=
  ((area.entries effect).find? id).isSome = true

/-- The empty work area has no entries. -/
theorem not_hasEntry_empty {effect : Effect} {id : String} : ¬ empty.HasEntry effect id := by
  cases effect <;> exact Bool.false_ne_true

/-- Extending an entry makes one if there was none. -/
theorem isSome_find?_extend {entries : NameMap ValueSet} {name id : String} {added : ValueSet} :
    ((extend entries name added).find? id).isSome = true ↔
      (entries.find? id).isSome = true ∨ name = id := by
  unfold extend
  rw [NameMap.find?_insert]
  by_cases same : name = id
  · simp [same]
  · simp [same]

/-- A work area is determined by which entries it has and by the values in them. -/
theorem ext_has {left right : WorkArea}
    (entrySame : ∀ effect id, left.HasEntry effect id ↔ right.HasEntry effect id)
    (valueSame : ∀ effect id value, left.Has effect id value ↔ right.Has effect id value) :
    left = right := by
  have entriesSame : ∀ effect, left.entries effect = right.entries effect := by
    intro effect
    ext id : 1
    have someSame := entrySame effect id
    have membersSame := valueSame effect id
    unfold HasEntry at someSame
    unfold Has at membersSame
    cases foundLeft : (left.entries effect).find? id with
    | none =>
      cases foundRight : (right.entries effect).find? id with
      | none => rfl
      | some values => simp [foundLeft, foundRight] at someSame
    | some values =>
      cases foundRight : (right.entries effect).find? id with
      | none => simp [foundLeft, foundRight] at someSame
      | some others =>
        rw [foundLeft, foundRight] at membersSame
        exact congrArg some (ValueSet.ext_mem membersSame)
  obtain ⟨permitted, denied⟩ := left
  obtain ⟨otherPermitted, otherDenied⟩ := right
  cases entriesSame .permit
  cases entriesSame .deny
  rfl

end WorkArea

namespace AttributeRule

/-- The values that a rule enters for what its matcher made of an attribute. A denial that does not
apply enters them all. -/
def entered (rule : AttributeRule) (resolved : Attribute) : Selection → ValueSet
  | .matched values => values
  | .notApplicable =>
    match rule.effect with
    | .permit => ∅
    | .deny => resolved.valueSet

/-- A value is among those that a rule enters for an attribute. -/
def Records (rule : AttributeRule) (request : Request) (resolved : Attribute) (value : Value) :
    Prop :=
  ∃ selection, rule.matcher.select request resolved = .ok selection ∧
    value ∈ rule.entered resolved selection

/-- A rule enters a value of an attribute of a request as permitted, or as denied. -/
def Enters (rule : AttributeRule) (request : Request) (effect : Effect) (id : String)
    (value : Value) : Prop :=
  rule.effect = effect ∧ rule.attributeId = id ∧
    ∃ resolved, request.attribute? id = some resolved ∧ rule.Records request resolved value

/-- A rule enters values of the attribute that it is about, with its own effect. -/
theorem enters_iff {rule : AttributeRule} {request : Request} {effect : Effect} {id : String}
    {resolved : Attribute} {value : Value} (found : request.attribute? id = some resolved) :
    rule.Enters request effect id value ↔
      rule.effect = effect ∧ rule.attributeId = id ∧ rule.Records request resolved value := by
  simp [Enters, found]

/-- Recording a selection adds the values that the rule enters for it. -/
theorem record_has_iff {rule : AttributeRule} {resolved : Attribute} {area : WorkArea}
    {selection : Selection} {effect : Effect} {id : String} {value : Value} :
    (rule.record resolved area selection).Has effect id value ↔
      area.Has effect id value ∨
        rule.effect = effect ∧ rule.attributeId = id ∧ value ∈ rule.entered resolved selection := by
  obtain ⟨name, ruleEffect, matcher⟩ := rule
  cases ruleEffect <;> cases selection <;>
    simp [record, entered, WorkArea.has_permit_iff, WorkArea.has_deny_iff, eq_comm]

/-- A rule makes an entry for what it permits or denies, unless it would permit and its matcher does
not apply. -/
def MakesEntry (rule : AttributeRule) (effect : Effect) (id : String) (selection : Selection) :
    Prop :=
  rule.effect = effect ∧ rule.attributeId = id ∧
    (rule.effect = .permit → selection ≠ .notApplicable)

/-- Recording a selection adds the entry that the rule makes for it. -/
theorem record_hasEntry_iff {rule : AttributeRule} {resolved : Attribute} {area : WorkArea}
    {selection : Selection} {effect : Effect} {id : String} :
    (rule.record resolved area selection).HasEntry effect id ↔
      area.HasEntry effect id ∨ rule.MakesEntry effect id selection := by
  obtain ⟨name, ruleEffect, matcher⟩ := rule
  cases ruleEffect <;> cases selection <;> cases effect <;>
    simp [record, MakesEntry, WorkArea.HasEntry, WorkArea.entries, WorkArea.permit, WorkArea.deny,
      WorkArea.isSome_find?_extend]

end AttributeRule

/-- What holds of a work area after something was recorded in it held before, or comes with what was
recorded. -/
def WorkArea.Accrues (present : WorkArea → Prop)
    (adds : AttributeRule → Attribute → Selection → Prop) : Prop :=
  ∀ rule resolved area selection,
    present (rule.record resolved area selection) ↔ present area ∨ adds rule resolved selection

/-- A rule adds something for a request, which has its attribute and for which its matcher does not
fail. -/
def AttributeRule.Contributes (rule : AttributeRule) (request : Request)
    (adds : AttributeRule → Attribute → Selection → Prop) : Prop :=
  ∃ resolved selection, request.attribute? rule.attributeId = some resolved ∧
    rule.matcher.select request resolved = .ok selection ∧ adds rule resolved selection

/-- What a rule contributes to a work area are the values that it enters. -/
theorem AttributeRule.contributes_iff_enters {rule : AttributeRule} {request : Request}
    {effect : Effect} {id : String} {value : Value} :
    rule.Contributes request (fun rule resolved selection => rule.effect = effect ∧
        rule.attributeId = id ∧ value ∈ rule.entered resolved selection) ↔
      rule.Enters request effect id value := by
  constructor
  · rintro ⟨resolved, selection, found, selected, same, rfl, member⟩
    exact ⟨same, rfl, resolved, found, selection, selected, member⟩
  · rintro ⟨same, rfl, resolved, found, selection, selected, member⟩
    exact ⟨resolved, selection, found, selected, same, rfl, member⟩

namespace WorkArea.Accrues

variable {present : WorkArea → Prop} {adds : AttributeRule → Attribute → Selection → Prop}
  {request : Request} {area after : WorkArea}

/-- After a rule was applied, the work area has what it had before and what the rule adds. -/
theorem apply (accrues : Accrues present adds) {rule : AttributeRule}
    (applied : rule.apply request area = .ok after) :
    present after ↔ present area ∨ rule.Contributes request adds := by
  unfold AttributeRule.apply at applied
  cases found : request.attribute? rule.attributeId with
  | none =>
    rw [found] at applied
    cases applied
    refine (or_iff_left ?_).symm
    rintro ⟨resolved, _, isPresent, _⟩
    rw [found] at isPresent
    cases isPresent
  | some resolved =>
    rw [found] at applied
    obtain ⟨selection, selected, ⟨⟩⟩ := bind_eq_ok_iff.1 applied
    rw [accrues]
    refine or_congr_right ⟨fun added => ⟨resolved, selection, found, selected, added⟩, ?_⟩
    rintro ⟨other, otherSelection, isPresent, otherSelected, added⟩
    cases found.symm.trans isPresent
    cases selected.symm.trans otherSelected
    exact added

/-- After the rules of a policy were applied, the work area has what it had before and what the
rules add. -/
theorem applyRules (accrues : Accrues present adds) {policy : Policy}
    {rules : List AttributeRule} (applied : policy.applyRules request rules area = (after, none)) :
    present after ↔ present area ∨ ∃ rule ∈ rules, rule.Contributes request adds := by
  induction rules generalizing area with
  | nil =>
    cases applied
    simp
  | cons rule rest ih =>
    rw [Policy.applyRules] at applied
    split at applied
    next middle ruleApplied =>
      rw [ih applied, accrues.apply ruleApplied, or_assoc]
      simp only [List.mem_cons, exists_eq_or_imp]
    next => cases applied

end WorkArea.Accrues

namespace Engine

/-- One policy of a pass, by the outcome of its requirement: only truth has its rules applied. -/
theorem applyPolicies_cons {request : Request} {policy : Policy} {rest : List Policy}
    {area : WorkArea} :
    applyPolicies request (policy :: rest) area =
      match policy.requirement.evaluate request with
      | .error cause => .error (.evaluation policy.id none cause)
      | .ok .true =>
        match policy.apply request area with
        | (middle, none) => applyPolicies request rest middle
        | (_, some e) => .error e
      | .ok _ => applyPolicies request rest area := by
  rw [applyPolicies, Policy.isActive]
  cases policy.requirement.evaluate request with
  | error cause => rfl
  | ok outcome => cases outcome <;> rfl

/-- Some policy whose requirement is true has a rule with a property. -/
def HasActiveRule (policies : List Policy) (request : Request)
    (property : AttributeRule → Prop) : Prop :=
  ∃ policy ∈ policies, policy.requirement.evaluate request = .ok .true ∧
    ∃ rule ∈ policy.rules, property rule

instance (policies : List Policy) (request : Request) (property : AttributeRule → Prop)
    [DecidablePred property] : Decidable (HasActiveRule policies request property) :=
  inferInstanceAs (Decidable (∃ policy ∈ policies,
    policy.requirement.evaluate request = .ok .true ∧ ∃ rule ∈ policy.rules, property rule))

/-- An active rule stays one if its policy stays active and its property carries over. -/
theorem HasActiveRule.mono {policies : List Policy} {before after : Request}
    {left right : AttributeRule → Prop} (active : HasActiveRule policies before left)
    (step : ∀ policy ∈ policies, policy.requirement.evaluate before = .ok .true →
      policy.requirement.evaluate after = .ok .true ∧
        ∀ rule ∈ policy.rules, left rule → right rule) :
    HasActiveRule policies after right := by
  obtain ⟨policy, member, isTrue, rule, ruleMember, holds⟩ := active
  obtain ⟨stillTrue, imp⟩ := step policy member isTrue
  exact ⟨policy, member, stillTrue, rule, ruleMember, imp rule ruleMember holds⟩

/-- After policies were applied, the work area has what it had before and what rules of active
policies add. -/
theorem applyPolicies_iff {present : WorkArea → Prop}
    {adds : AttributeRule → Attribute → Selection → Prop} (accrues : WorkArea.Accrues present adds)
    {request : Request} {policies : List Policy} {area after : WorkArea}
    (applied : applyPolicies request policies area = .ok after) :
    present after ↔
      present area ∨ HasActiveRule policies request (·.Contributes request adds) := by
  induction policies generalizing area with
  | nil =>
    cases applied
    simp [HasActiveRule]
  | cons policy rest ih =>
    have splits : HasActiveRule (policy :: rest) request (·.Contributes request adds) ↔
        (policy.requirement.evaluate request = .ok .true ∧
          ∃ rule ∈ policy.rules, rule.Contributes request adds) ∨
        HasActiveRule rest request (·.Contributes request adds) := by
      simp only [HasActiveRule, List.mem_cons, exists_eq_or_imp]
    rw [applyPolicies_cons] at applied
    split at applied
    next => cases applied
    next active =>
      split at applied
      next middle policyApplied =>
        rw [ih applied, accrues.applyRules policyApplied, splits]
        simp only [active, true_and, or_assoc]
      next => cases applied
    next outcome notTrue evaluated =>
      have inactive : policy.requirement.evaluate request ≠ .ok .true := by
        rw [evaluated]
        rintro ⟨⟩
        exact notTrue rfl
      rw [ih applied, splits]
      simp only [inactive, false_and, false_or]

/-- The work area of a whole pass has what rules of active policies add, and nothing else. -/
theorem evaluate_iff {present : WorkArea → Prop}
    {adds : AttributeRule → Attribute → Selection → Prop} (accrues : WorkArea.Accrues present adds)
    (absent : ¬ present .empty) {engine : Engine} {request : Request} {area : WorkArea}
    (evaluated : engine.evaluate request = .ok area) :
    present area ↔ HasActiveRule engine.policies request (·.Contributes request adds) := by
  rw [applyPolicies_iff accrues evaluated]
  exact or_iff_right absent

/-- The work area of a whole pass has what rules of active policies entered, and nothing else. -/
theorem evaluate_has_iff {engine : Engine} {request : Request} {area : WorkArea}
    (evaluated : engine.evaluate request = .ok area) {effect : Effect} {id : String}
    {value : Value} :
    area.Has effect id value ↔
      HasActiveRule engine.policies request (·.Enters request effect id value) := by
  have accrues : WorkArea.Accrues (fun area => area.Has effect id value) _ :=
    fun _ _ _ _ => AttributeRule.record_has_iff
  rw [evaluate_iff accrues WorkArea.not_has_empty evaluated]
  simp only [AttributeRule.contributes_iff_enters]

/-- The work area of a whole pass has the entries that rules of active policies make, and no
others. -/
theorem evaluate_hasEntry_iff {engine : Engine} {request : Request} {area : WorkArea}
    (evaluated : engine.evaluate request = .ok area) {effect : Effect} {id : String} :
    area.HasEntry effect id ↔
      HasActiveRule engine.policies request
        (·.Contributes request fun rule _ selection => rule.MakesEntry effect id selection) := by
  have accrues : WorkArea.Accrues (fun area => area.HasEntry effect id) _ :=
    fun _ _ _ _ => AttributeRule.record_hasEntry_iff
  exact evaluate_iff accrues WorkArea.not_hasEntry_empty evaluated

end Engine

end AttributeRelease
