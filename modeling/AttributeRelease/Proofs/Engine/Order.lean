import AttributeRelease.Proofs.Engine.Failure
import AttributeRelease.Proofs.Engine.Release
import Mathlib.Data.List.Perm.Basic

/-!
# The order of policies and rules

A pass collects what the rules of active policies add, and fails if some place that it comes to
fails. Neither depends on where policies and rules stand, nor on how often a rule is repeated: engines
that differ in nothing else leave every context in the same state.
-/

namespace AttributeRelease

/-- Two policies have the same requirement and the same rules, which may stand in another order and
be repeated. -/
structure Policy.Rearranged (policy other : Policy) : Prop where
  id : policy.id = other.id
  requirement : policy.requirement = other.requirement
  rules : ∀ rule, rule ∈ policy.rules ↔ rule ∈ other.rules

/-- To be rearranged is mutual for policies. -/
theorem Policy.Rearranged.symm {policy other : Policy} (rearranged : policy.Rearranged other) :
    other.Rearranged policy :=
  ⟨rearranged.id.symm, rearranged.requirement.symm, fun rule => (rearranged.rules rule).symm⟩

namespace Engine

/-- The policies of two engines are the same in some order, apart from the arrangement of their
rules. -/
def Rearranged (engine other : Engine) : Prop :=
  Relation.Comp List.Perm (List.Forall₂ Policy.Rearranged) engine.policies other.policies

namespace Rearranged

variable {engine other : Engine} {request : Request} {area otherArea : WorkArea}

/-- To be rearranged is mutual for engines. -/
theorem symm (rearranged : engine.Rearranged other) : other.Rearranged engine := by
  obtain ⟨policies, perm, inStep⟩ := rearranged
  have backwards : List.Forall₂ Policy.Rearranged other.policies policies :=
    inStep.flip.imp fun _ _ => Policy.Rearranged.symm
  rw [Rearranged, ← List.forall₂_comp_perm_eq_perm_comp_forall₂]
  exact ⟨policies, backwards, perm.symm⟩

/-- Every policy is still there, with its rules in some arrangement. -/
theorem exists_policy (rearranged : engine.Rearranged other) {policy : Policy}
    (member : policy ∈ other.policies) : ∃ before ∈ engine.policies, before.Rearranged policy := by
  obtain ⟨policies, perm, inStep⟩ := rearranged
  obtain ⟨before, beforeMember, same⟩ := Outcome.exists_mem_of_forall₂ inStep policy member
  exact ⟨before, perm.mem_iff.2 beforeMember, same⟩

/-- A rule that is active in an engine is active in the rearranged one. -/
theorem hasActiveRule (rearranged : engine.Rearranged other) {property : AttributeRule → Prop}
    (active : HasActiveRule other.policies request property) :
    HasActiveRule engine.policies request property := by
  obtain ⟨policy, member, isTrue, rule, ruleMember, holds⟩ := active
  obtain ⟨before, beforeMember, same⟩ := rearranged.exists_policy member
  exact ⟨before, beforeMember, same.requirement ▸ isTrue, rule, (same.rules rule).2 ruleMember, holds⟩

/-- Rearranged engines have the same active rules. -/
theorem hasActiveRule_iff (rearranged : engine.Rearranged other)
    {property : AttributeRule → Prop} :
    HasActiveRule engine.policies request property ↔ HasActiveRule other.policies request property :=
  ⟨rearranged.symm.hasActiveRule, rearranged.hasActiveRule⟩

/-- Passes that both succeed fill the same work area. -/
theorem workArea_eq (rearranged : engine.Rearranged other)
    (evaluated : engine.evaluate request = .ok area)
    (otherEvaluated : other.evaluate request = .ok otherArea) : area = otherArea := by
  refine WorkArea.ext_has (fun effect id => ?_) (fun effect id value => ?_)
  · rw [evaluate_hasEntry_iff evaluated, evaluate_hasEntry_iff otherEvaluated,
      rearranged.hasActiveRule_iff]
  · rw [evaluate_has_iff evaluated, evaluate_has_iff otherEvaluated, rearranged.hasActiveRule_iff]

/-- If some place of one engine fails, it does so in the other engine. -/
theorem fails (rearranged : engine.Rearranged other) {context : FilterContext}
    (failed : (other.filter context).2.isSome = true) :
    (engine.filter context).2.isSome = true := by
  simp only [Option.isSome_iff_exists, filter_eq_some_iff, FirstIn.exists_iff,
    Policy.exists_failsWith_iff] at failed ⊢
  obtain ⟨policy, member, fails⟩ := failed
  obtain ⟨before, beforeMember, same⟩ := rearranged.exists_policy member
  refine ⟨before, beforeMember, ?_⟩
  rw [same.requirement]
  refine fails.imp_right fun ⟨active, rule, ruleMember, ruleFails⟩ => ⟨active, rule, ?_, ruleFails⟩
  exact (same.rules rule).2 ruleMember

end Rearranged

/-- The order of policies and rules is irrelevant. If the policies of one engine are those of another
in some order, with their rules in any order and any number of times, then both engines fail on the
same contexts, and they permit, deny and release the same. -/
theorem filter_rearranged {engine other : Engine} (rearranged : engine.Rearranged other)
    (context : FilterContext) :
    ((engine.filter context).2.isSome = true ↔ (other.filter context).2.isSome = true) ∧
      (engine.filter context).1.workArea = (other.filter context).1.workArea ∧
      (engine.filter context).1.released = (other.filter context).1.released := by
  have failSame : (engine.filter context).2.isSome = true ↔ (other.filter context).2.isSome = true :=
    ⟨rearranged.symm.fails, rearranged.fails⟩
  refine ⟨failSame, ?_⟩
  cases failed : (engine.filter context).2 with
  | some error =>
    obtain ⟨otherError, otherFailed⟩ := Option.isSome_iff_exists.1 (failSame.1 (by simp [failed]))
    rw [filter_eq_ofRequest failed, filter_eq_ofRequest otherFailed]
    exact ⟨rfl, rfl⟩
  | none =>
    have otherFailed : (other.filter context).2 = none := by
      cases otherFailed : (other.filter context).2 with
      | none => rfl
      | some error => simp [failed, otherFailed] at failSame
    obtain ⟨area, evaluated, filtered⟩ := exists_evaluate_of_succeeded failed
    obtain ⟨otherArea, otherEvaluated, otherFiltered⟩ := exists_evaluate_of_succeeded otherFailed
    cases rearranged.workArea_eq evaluated otherEvaluated
    rw [filtered, otherFiltered]
    exact ⟨rfl, rfl⟩

/-- The engine `withoutStaff` with its policies in the other order and with a denial said twice. -/
def staffDeniedFirst : Engine :=
  ⟨"other", [⟨"deny", .any, [⟨"affiliation", .deny, .value (.exact "staff" false)⟩,
      ⟨"affiliation", .deny, .value (.exact "staff" false)⟩]⟩,
    ⟨"permit", .any, [⟨"affiliation", .permit, .any⟩]⟩]⟩

/-- The two engines fail alike, and record and release the same. -/
theorem withoutStaff_rearranged :
    withoutStaff.Rearranged staffDeniedFirst ∧
      ((withoutStaff.filter affiliated).2.isSome = true ↔
        (staffDeniedFirst.filter affiliated).2.isSome = true) ∧
      (withoutStaff.filter affiliated).1.workArea =
        (staffDeniedFirst.filter affiliated).1.workArea ∧
      (withoutStaff.filter affiliated).1.released =
        (staffDeniedFirst.filter affiliated).1.released := by
  have rearranged : withoutStaff.Rearranged staffDeniedFirst :=
    ⟨_, .swap _ _ [], .cons ⟨rfl, rfl, by simp⟩ (.cons ⟨rfl, rfl, by simp⟩ .nil)⟩
  exact ⟨rearranged, filter_rearranged rearranged affiliated⟩

end Engine

end AttributeRelease
