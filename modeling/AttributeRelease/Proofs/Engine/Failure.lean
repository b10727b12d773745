import AttributeRelease.Proofs.Engine.Entries

/-!
# How a filtering pass fails

A pass goes through the policies in order, and through the rules of each policy that is active. Only
scripts fail; the pass ends with the first failure that it meets, which tells the policy and the
attribute it belongs to. What was permitted before does not matter: `Engine.applyPolicies_eq_error_iff`
says the same of every work area. A failed pass leaves nothing behind.
-/

namespace AttributeRelease

open Outcome

/-- A result that the first element of a list gives of those that give one. -/
def FirstIn {α β : Type} (gives : α → β → Prop) (list : List α) (result : β) : Prop :=
  ∃ before element after, list = before ++ element :: after ∧
    (∀ earlier ∈ before, ∀ other, ¬ gives earlier other) ∧ gives element result

namespace FirstIn

variable {α β : Type} {gives : α → β → Prop}

/-- Nothing in an empty list gives a result. -/
theorem not_nil {result : β} : ¬ FirstIn gives [] result := by
  rintro ⟨before, element, after, split, _⟩
  cases before <;> cases split

/-- The first result is that of the head, or that of the rest if the head gives none. -/
theorem cons_iff {head : α} {rest : List α} {result : β} :
    FirstIn gives (head :: rest) result ↔
      gives head result ∨ (∀ other, ¬ gives head other) ∧ FirstIn gives rest result := by
  constructor
  · rintro ⟨before, element, after, split, earlier, given⟩
    cases before with
    | nil =>
      cases split
      exact .inl given
    | cons first others =>
      cases split
      obtain ⟨firstGives, othersGive⟩ := List.forall_mem_cons.1 earlier
      exact .inr ⟨firstGives, others, element, after, rfl, othersGive, given⟩
  · rintro (given | ⟨headGives, before, element, after, rfl, earlier, given⟩)
    · exact ⟨[], head, rest, rfl, by simp, given⟩
    · exact ⟨head :: before, element, after, rfl, List.forall_mem_cons.2 ⟨headGives, earlier⟩, given⟩

/-- There is a first result if any element gives one. -/
theorem exists_iff {list : List α} :
    (∃ result, FirstIn gives list result) ↔ ∃ element ∈ list, ∃ result, gives element result := by
  induction list with
  | nil => simp [not_nil]
  | cons head rest ih =>
    simp only [cons_iff, List.mem_cons, exists_eq_or_imp, ← ih]
    by_cases headGives : ∃ result, gives head result
    · obtain ⟨result, given⟩ := headGives
      exact iff_of_true ⟨result, .inl given⟩ (.inl ⟨result, given⟩)
    · have headSilent : ∀ other, ¬ gives head other := not_exists.1 headGives
      simp [headSilent]

end FirstIn

/-- A rule fails for a request: the request has its attribute, and its matcher fails. -/
def AttributeRule.FailsWith (rule : AttributeRule) (request : Request) (cause : ScriptError) :
    Prop :=
  ∃ resolved, request.attribute? rule.attributeId = some resolved ∧
    rule.matcher.select request resolved = .error cause

namespace Policy

/-- The error for a rule of a policy that fails. -/
def RuleFailsWith (policy : Policy) (request : Request) (rule : AttributeRule)
    (error : FilterError) : Prop :=
  ∃ cause, rule.FailsWith request cause ∧
    error = .evaluation policy.id (some rule.attributeId) cause

/-- The error for a policy that fails: in its requirement, or, if that is true, in the first of its
rules that fails. -/
inductive FailsWith (request : Request) (policy : Policy) : FilterError → Prop where
  | requirement {cause} (failed : policy.requirement.evaluate request = .error cause) :
      FailsWith request policy (.evaluation policy.id none cause)
  | rule {error} (active : policy.requirement.evaluate request = .ok .true)
      (first : FirstIn (policy.RuleFailsWith request) policy.rules error) :
      FailsWith request policy error

end Policy

/-- Applying a rule fails exactly if the rule fails for the request. -/
theorem AttributeRule.apply_eq_error_iff {rule : AttributeRule} {request : Request}
    {area : WorkArea} {cause : ScriptError} :
    rule.apply request area = .error cause ↔ rule.FailsWith request cause := by
  unfold AttributeRule.apply AttributeRule.FailsWith
  cases request.attribute? rule.attributeId with
  | none => simp
  | some resolved => simp [bind_eq_error_iff]

namespace Policy

variable {policy : Policy} {request : Request}

/-- Rules applied in order fail with the error for the first that fails, whatever the work area. -/
theorem applyRules_eq_some_iff {rules : List AttributeRule} (area : WorkArea)
    {error : FilterError} :
    (policy.applyRules request rules area).2 = some error ↔
      FirstIn (policy.RuleFailsWith request) rules error := by
  induction rules generalizing area with
  | nil => simp [applyRules, FirstIn.not_nil]
  | cons rule rest ih =>
    rw [FirstIn.cons_iff, applyRules]
    cases applied : rule.apply request area with
    | ok middle =>
      have ruleGives : ∀ other, ¬ policy.RuleFailsWith request rule other := by
        rintro _ ⟨cause, failed, _⟩
        cases applied.symm.trans (AttributeRule.apply_eq_error_iff.2 failed)
      simp only [ih, ruleGives, not_false_eq_true, implies_true, true_and, false_or]
    | error cause =>
      have ruleGives : ∀ other, policy.RuleFailsWith request rule other ↔
          .evaluation policy.id (some rule.attributeId) cause = other := by
        intro other
        constructor
        · rintro ⟨otherCause, failed, rfl⟩
          cases applied.symm.trans (AttributeRule.apply_eq_error_iff.2 failed)
          rfl
        · rintro rfl
          exact ⟨cause, AttributeRule.apply_eq_error_iff.1 applied, rfl⟩
      simp [ruleGives]

/-- A policy fails if its requirement does, or if that is true and some rule fails. -/
theorem exists_failsWith_iff :
    (∃ error, FailsWith request policy error) ↔
      (∃ cause, policy.requirement.evaluate request = .error cause) ∨
        policy.requirement.evaluate request = .ok .true ∧
          ∃ rule ∈ policy.rules, ∃ cause, rule.FailsWith request cause := by
  have ruleFails : ∀ rule, (∃ error, policy.RuleFailsWith request rule error) ↔
      ∃ cause, rule.FailsWith request cause := by
    intro rule
    constructor
    · rintro ⟨_, cause, failed, _⟩
      exact ⟨cause, failed⟩
    · rintro ⟨cause, failed⟩
      exact ⟨_, cause, failed, rfl⟩
  constructor
  · rintro ⟨_, failed | ⟨active, first⟩⟩
    · exact .inl ⟨_, failed⟩
    · obtain ⟨rule, member, failed⟩ := FirstIn.exists_iff.1 ⟨_, first⟩
      exact .inr ⟨active, rule, member, (ruleFails rule).1 failed⟩
  · rintro (⟨cause, failed⟩ | ⟨active, rule, member, failed⟩)
    · exact ⟨_, .requirement failed⟩
    · obtain ⟨error, first⟩ := FirstIn.exists_iff.2 ⟨rule, member, (ruleFails rule).2 failed⟩
      exact ⟨error, .rule active first⟩

/-- A policy whose requirement fails does so with the cause of that failure. -/
theorem failsWith_iff_of_error {cause : ScriptError}
    (failed : policy.requirement.evaluate request = .error cause) {error : FilterError} :
    FailsWith request policy error ↔ error = .evaluation policy.id none cause := by
  constructor
  · rintro (otherFailed | ⟨active, _⟩)
    · cases failed.symm.trans otherFailed
      rfl
    · cases failed.symm.trans active
  · rintro rfl
    exact .requirement failed

/-- An active policy fails with the first of its rules that fails. -/
theorem failsWith_iff_of_active (active : policy.requirement.evaluate request = .ok .true)
    {error : FilterError} :
    FailsWith request policy error ↔
      FirstIn (policy.RuleFailsWith request) policy.rules error := by
  constructor
  · rintro (failed | ⟨_, first⟩)
    · cases active.symm.trans failed
    · exact first
  · exact .rule active

/-- The error for a policy names the policy and gives the text of the script error. -/
theorem FailsWith.message_eq {error : FilterError} (failed : FailsWith request policy error) :
    ∃ attributeId cause, error = .evaluation policy.id attributeId cause ∧
      error.message = "Evaluation error in policy '" ++ policy.id ++ "'" ++
        (attributeId.elim "" fun id => " (attribute '" ++ id ++ "')") ++ ": " ++ cause.message := by
  cases failed with
  | requirement failed => exact ⟨none, _, rfl, rfl⟩
  | rule active first =>
    obtain ⟨_, rule, _, _, _, cause, _, rfl⟩ := first
    exact ⟨some rule.attributeId, cause, rfl, rfl⟩

/-- A policy whose requirement is not true does not fail. -/
theorem not_failsWith_of_inactive {outcome : Tristate}
    (evaluated : policy.requirement.evaluate request = .ok outcome) (notTrue : outcome ≠ .true)
    {error : FilterError} : ¬ FailsWith request policy error := by
  rintro (failed | ⟨active, _⟩)
  · cases evaluated.symm.trans failed
  · cases evaluated.symm.trans active
    exact notTrue rfl

end Policy

namespace Engine

/-- Policies applied in order fail with the error for the first that fails, whatever the work
area. -/
theorem applyPolicies_eq_error_iff {request : Request} {policies : List Policy} (area : WorkArea)
    {error : FilterError} :
    applyPolicies request policies area = .error error ↔
      FirstIn (Policy.FailsWith request) policies error := by
  induction policies generalizing area with
  | nil => simp [applyPolicies, FirstIn.not_nil]
  | cons policy rest ih =>
    rw [FirstIn.cons_iff, applyPolicies_cons]
    split
    next cause failed =>
      simp only [Policy.failsWith_iff_of_error failed]
      simp [eq_comm]
    next active =>
      simp only [Policy.failsWith_iff_of_active active, Policy.apply,
        ← Policy.applyRules_eq_some_iff area]
      split
      next middle applied => simp [applied, ih]
      next e applied => simp [applied]
    next outcome notTrue evaluated =>
      have inactive : ∀ other, ¬ Policy.FailsWith request policy other :=
        fun _ => Policy.not_failsWith_of_inactive evaluated fun same => notTrue (same ▸ rfl)
      simp only [ih, inactive, not_false_eq_true, implies_true, true_and, false_or]

/-- A pass fails with the error of the first policy that fails. -/
theorem filter_eq_some_iff {engine : Engine} {context : FilterContext} {error : FilterError} :
    (engine.filter context).2 = some error ↔
      FirstIn (Policy.FailsWith context.request) engine.policies error := by
  rw [← applyPolicies_eq_error_iff .empty, filter, evaluate]
  split
  next area evaluated => simp [evaluated]
  next e evaluated => simp [evaluated]

/-- A failed pass leaves neither released attributes nor a work area. -/
theorem filter_eq_ofRequest {engine : Engine} {context : FilterContext} {error : FilterError}
    (failed : (engine.filter context).2 = some error) :
    (engine.filter context).1 = .ofRequest context.request := by
  unfold filter at failed ⊢
  split
  next area evaluated =>
    rw [evaluated] at failed
    cases failed
  next => rfl

/-- A pass leaves the request as it is. -/
theorem filter_request {engine : Engine} {context : FilterContext} :
    (engine.filter context).1.request = context.request := by
  unfold filter
  split <;> rfl

/-- A pass fails exactly if the requirement of some policy does, or a requirement is true and the
matcher of some rule of its policy fails for an attribute of the request. It fails with the error for
the first such place, which names the policy and gives the text of the script error. Then it leaves
neither released attributes nor a work area, whatever the context held before, and it never changes
the request. -/
theorem filter_fails_first (engine : Engine) (context : FilterContext) :
    ((engine.filter context).2.isSome = true ↔
      ∃ policy ∈ engine.policies,
        (∃ cause, policy.requirement.evaluate context.request = .error cause) ∨
          policy.requirement.evaluate context.request = .ok .true ∧
            ∃ rule ∈ policy.rules, ∃ cause, rule.FailsWith context.request cause) ∧
    (∀ error, (engine.filter context).2 = some error ↔
      FirstIn (Policy.FailsWith context.request) engine.policies error) ∧
    (∀ error, (engine.filter context).2 = some error →
      (∃ policy ∈ engine.policies, ∃ attributeId cause,
        error = .evaluation policy.id attributeId cause ∧
          error.message = "Evaluation error in policy '" ++ policy.id ++ "'" ++
            (attributeId.elim "" fun id => " (attribute '" ++ id ++ "')") ++ ": " ++
              cause.message) ∧
      (engine.filter context).1.released = ∅ ∧ (engine.filter context).1.workArea = .empty) ∧
    (engine.filter context).1.request = context.request := by
  refine ⟨?_, fun error => filter_eq_some_iff, fun error failed => ?_, filter_request⟩
  · rw [Option.isSome_iff_exists]
    simp only [filter_eq_some_iff, FirstIn.exists_iff, Policy.exists_failsWith_iff]
  · obtain ⟨before, policy, after, split, _, fails⟩ := filter_eq_some_iff.1 failed
    have member : policy ∈ engine.policies := by simp [split]
    refine ⟨⟨policy, member, fails.message_eq⟩, ?_⟩
    rw [filter_eq_ofRequest failed]
    exact ⟨rfl, rfl⟩

/-- Permits a name, and then has a requirement that is a script without an answer. -/
def brokenAfterPermit : Engine :=
  ⟨"example", [⟨"permit", .any, [⟨"uid", .permit, .any⟩]⟩,
    ⟨"broken", .script ⟨"1", fun _ => .ok (.other "int")⟩, []⟩]⟩

/-- A request of which a pass has released the name. -/
def namedRelease : FilterContext :=
  { FilterContext.ofRequest { Request.blank with
      attributes := Request.byId [.ofValues "uid" [.string "jsmith"]] } with
    released := Request.byId [.ofValues "uid" [.string "jsmith"]] }

/-- The pass fails, and what was released before is released no longer. -/
theorem brokenAfterPermit_releases_nothing :
    ∃ error, (brokenAfterPermit.filter namedRelease).2 = some error ∧
      (brokenAfterPermit.filter namedRelease).1.released = ∅ := by
  let error : FilterError := .evaluation "broken" none
    (.unexpectedResult "requirement rule script must return a boolean, got int")
  have failed : (brokenAfterPermit.filter namedRelease).2 = some error := by decide
  obtain ⟨_, _, leaves, _⟩ := filter_fails_first brokenAfterPermit namedRelease
  obtain ⟨_, released, _⟩ := leaves error failed
  exact ⟨error, failed, released⟩

end Engine

end AttributeRelease
