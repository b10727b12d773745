import AttributeRelease.Proofs.Rule.Node
import AttributeRelease.Proofs.Rule.Observation

/-!
# Matchers that do not apply

Only a rule can keep a matcher from applying, when it fails for want of a fact. Negations and
disjunctions pass this on from their parts, conjunctions do not. A matcher therefore does not apply
exactly if a rule fails that stands in it under negations and disjunctions only:
`Matcher.eq_notApplicable_iff`.
-/

namespace AttributeRelease

open Outcome

namespace Selection

variable {resolved : Attribute}

/-- All or nothing always applies. -/
theorem allIf_ne_notApplicable {condition : Bool} : allIf resolved condition ≠ notApplicable := by
  cases condition with
  | true => exact nofun
  | false => exact nofun

/-- The selection for an outcome applies unless that is a failure. -/
theorem ofOutcome_eq_notApplicable_iff {outcome : Tristate} :
    ofOutcome resolved outcome = notApplicable ↔ outcome = .fail := by
  cases outcome with
  | true => exact iff_of_false nofun nofun
  | false => exact iff_of_false nofun nofun
  | fail => exact iff_of_true rfl rfl

end Selection

/-- A script selects values, perhaps none, or fails with an error. -/
theorem Script.select_ne_notApplicable {script : Script} {request : Request} {resolved : Attribute}
    {selection : Selection} (selected : script.select request resolved = .ok selection) :
    selection ≠ .notApplicable := by
  obtain ⟨_, _, _, _, _, rfl⟩ := select_eq_ok_iff.1 selected
  exact nofun

namespace Matcher

/-- A rule stands in a matcher under negations and disjunctions only. -/
inductive Exposes : Matcher → Rule → Prop where
  | fromRule (rule : Rule) : Exposes (.fromRule rule) rule
  | not {part : Matcher} {rule : Rule} (exposed : Exposes part rule) : Exposes (.not part) rule
  | or {parts : List Matcher} {part : Matcher} {rule : Rule} (member : part ∈ parts)
      (exposed : Exposes part rule) : Exposes (.or parts) rule

/-- A rule that a matcher exposes fails for a request. -/
def ExposesFailure (request : Request) (matcher : Matcher) : Prop :=
  ∃ rule, matcher.Exposes rule ∧ rule.evaluate request = .ok .fail

variable {request : Request} {resolved : Attribute}

/-- The matcher of a rule exposes a failure exactly if the rule fails. -/
theorem exposesFailure_fromRule_iff {rule : Rule} :
    (fromRule rule).ExposesFailure request ↔ rule.evaluate request = .ok .fail := by
  constructor
  · rintro ⟨_, ⟨⟩, fails⟩
    exact fails
  · intro fails
    exact ⟨rule, .fromRule rule, fails⟩

/-- A negation exposes the failures that its part does. -/
theorem exposesFailure_not_iff {part : Matcher} :
    (not part).ExposesFailure request ↔ part.ExposesFailure request := by
  constructor
  · rintro ⟨rule, exposed | exposed, fails⟩
    exact ⟨rule, exposed, fails⟩
  · rintro ⟨rule, exposed, fails⟩
    exact ⟨rule, .not exposed, fails⟩

/-- A disjunction exposes the failures that its parts do. -/
theorem exposesFailure_or_iff {parts : List Matcher} :
    (or parts).ExposesFailure request ↔ ∃ part ∈ parts, part.ExposesFailure request := by
  constructor
  · rintro ⟨rule, exposed, fails⟩
    cases exposed with
    | or member exposed => exact ⟨_, member, rule, exposed, fails⟩
  · rintro ⟨part, member, rule, exposed, fails⟩
    exact ⟨rule, .or member exposed, fails⟩

/-- The two sides agree on a matcher that applies and exposes no rule. -/
theorem eq_notApplicable_iff_of_not_exposes {matcher : Matcher} {selection : Selection}
    (applies : selection ≠ .notApplicable) (exposesNone : ∀ rule, ¬ matcher.Exposes rule) :
    selection = .notApplicable ↔ matcher.ExposesFailure request := by
  refine iff_of_false applies ?_
  rintro ⟨rule, exposed, _⟩
  exact exposesNone rule exposed

/-- A matcher that is evaluated without error does not apply exactly if a rule that it exposes
fails. -/
theorem eq_notApplicable_iff (matcher : Matcher) {selection : Selection}
    (selected : matcher.select request resolved = .ok selection) :
    selection = .notApplicable ↔ matcher.ExposesFailure request := by
  induction matcher using Matcher.induction generalizing selection with
  | step matcher ih =>
    cases matcher with
    | any | value _ | scope _ | requested _ =>
      cases selected
      exact eq_notApplicable_iff_of_not_exposes nofun nofun
    | metadata check =>
      cases selected
      exact eq_notApplicable_iff_of_not_exposes Selection.allIf_ne_notApplicable nofun
    | script script =>
      exact eq_notApplicable_iff_of_not_exposes (script.select_ne_notApplicable selected) nofun
    | and parts =>
      rw [select_and, map_eq_ok_iff] at selected
      obtain ⟨selections, _, rfl⟩ := selected
      exact eq_notApplicable_iff_of_not_exposes Selection.common_ne_notApplicable nofun
    | or parts =>
      rw [select_or, map_eq_ok_iff] at selected
      obtain ⟨selections, partsSelected, rfl⟩ := selected
      rw [Selection.joined_eq_notApplicable_iff, mem_selectAll_iff partsSelected,
        exposesFailure_or_iff]
      refine exists_congr fun part => and_congr_right fun member => ?_
      obtain ⟨selection, partSelected⟩ := exists_selectAll_iff.1 ⟨_, partsSelected⟩ part member
      rw [partSelected, Except.ok.injEq]
      exact ih part (List.mem_map_of_mem member) partSelected
    | not part =>
      rw [select_not, map_eq_ok_iff] at selected
      obtain ⟨selection, partSelected, rfl⟩ := selected
      rw [Selection.complement_eq_notApplicable_iff, exposesFailure_not_iff]
      exact ih part List.mem_cons_self partSelected
    | fromRule rule =>
      rw [select_fromRule, map_eq_ok_iff] at selected
      obtain ⟨outcome, evaluated, rfl⟩ := selected
      rw [Selection.ofOutcome_eq_notApplicable_iff, exposesFailure_fromRule_iff, evaluated,
        Except.ok.injEq]

end Matcher

end AttributeRelease
