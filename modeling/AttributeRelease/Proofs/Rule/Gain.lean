import AttributeRelease.Proofs.Rule.Connective
import AttributeRelease.Proofs.Rule.Node
import AttributeRelease.Proofs.Rule.Observation
import Mathlib.Data.List.Forall2

/-!
# What evaluation gains when more is known

A rule that needs a missing fact fails, and a matcher made from it does not apply. When more is
known such a failure may turn into anything, while what was decided stays as it was, or grows at most:
from falsity to truth, and by further selected values. `Gains` says this of outcomes and of
selections, and there is one lemma for each operation on them. Negations take back what has grown, and
conjunctions of matchers, which take a matcher that does not apply for one that selects nothing, let
selections grow even if nothing else does.
-/

namespace AttributeRelease

open Outcome

/-- Whether what was decided before more is known stays as it was, or may still grow. -/
inductive Trend where
  | steady
  | growing

/-- What can become of an outcome when more is known: falsity may grow to truth. -/
inductive Tristate.Gains : Trend → Tristate → Tristate → Prop where
  | settled {trend : Trend} (after : Tristate) : Gains trend .fail after
  | same {trend : Trend} (outcome : Tristate) : Gains trend outcome outcome
  | grown : Gains .growing .false .true

namespace Tristate.Gains

variable {trend : Trend} {first first' second second' : Tristate}

/-- The conjunction of two outcomes that gain does so. -/
theorem and (left : first.Gains trend first') (right : second.Gains trend second') :
    (first.and second).Gains trend (first'.and second') := by
  cases left with
  | settled => exact .settled _
  | same =>
    cases right with
    | settled => cases first <;> exact .settled _
    | same => exact .same _
    | grown => cases first <;> constructor
  | grown =>
    cases right with
    | settled => exact .settled _
    | same => cases second <;> constructor
    | grown => exact .grown

/-- The disjunction of two outcomes that gain does so. -/
theorem or (left : first.Gains trend first') (right : second.Gains trend second') :
    (first.or second).Gains trend (first'.or second') := by
  cases left with
  | settled =>
    cases right with
    | settled | grown => exact .settled _
    | same => cases second <;> cases first' <;> constructor
  | same =>
    cases right with
    | settled => cases first <;> constructor
    | same => exact .same _
    | grown => cases first <;> constructor
  | grown =>
    cases right with
    | settled => exact .settled _
    | same => cases second <;> constructor
    | grown => exact .grown

section Fold

variable {outcomes others : List Tristate}

/-- What is combined of outcomes that gain does so, if combining two of them does. -/
theorem foldl {combine : Tristate → Tristate → Tristate}
    (gains : ∀ {first first' second second' : Tristate}, first.Gains trend first' →
      second.Gains trend second' → (combine first second).Gains trend (combine first' second'))
    (foundGains : first.Gains trend first') (each : List.Forall₂ (Gains trend) outcomes others) :
    (outcomes.foldl combine first).Gains trend (others.foldl combine first') := by
  induction each generalizing first first' with
  | nil => exact foundGains
  | cons headGains _ ih => exact ih (gains foundGains headGains)

/-- The conjunction of outcomes that gain does so. -/
theorem conjunction (each : List.Forall₂ (Gains trend) outcomes others) :
    (Tristate.conjunction outcomes).Gains trend (Tristate.conjunction others) := by
  cases each with
  | nil => exact .same _
  | cons headGains restGains => exact foldl and headGains restGains

/-- The disjunction of outcomes that gain does so. -/
theorem disjunction (each : List.Forall₂ (Gains trend) outcomes others) :
    (Tristate.disjunction outcomes).Gains trend (Tristate.disjunction others) :=
  foldl or (.same _) each

end Fold

/-- A negation would take back what has grown. -/
theorem not (part : first.Gains .steady first') : first.not.Gains trend first'.not := by
  cases part with
  | settled => exact .settled _
  | same => exact .same _

end Tristate.Gains

/-- What can become of a selection when more is known: it may grow by further values. -/
inductive Selection.Gains : Trend → Selection → Selection → Prop where
  | settled {trend : Trend} (after : Selection) : Gains trend .notApplicable after
  | same {trend : Trend} (selection : Selection) : Gains trend selection selection
  | grown {found more : ValueSet} (within : ∀ value ∈ found, value ∈ more) :
      Gains .growing (.matched found) (.matched more)

namespace Selection.Gains

variable {trend : Trend} {before after : Selection} {resolved : Attribute}

/-- A selection that gains keeps its values. -/
theorem has (gains : before.Gains trend after) {value : Value} (has : before.Has value) :
    after.Has value := by
  obtain ⟨values, rfl, member⟩ := has
  cases gains with
  | same => exact ⟨values, rfl, member⟩
  | grown within => exact ⟨_, rfl, within value member⟩

/-- The outcome of a selection that gains does so. -/
theorem toOutcome (gains : before.Gains trend after) :
    before.toOutcome.Gains trend after.toOutcome := by
  cases gains with
  | settled => exact .settled _
  | same => exact .same _
  | @grown found more within =>
    simp only [Selection.toOutcome]
    cases noneMore : more.isEmpty with
    | false => cases found.isEmpty <;> constructor
    | true =>
      have noneFound : found = ∅ := by
        ext value
        refine ⟨fun member => ?_, fun member => absurd member (ValueSet.not_mem_empty value)⟩
        rw [ValueSet.isEmpty_iff.1 noneMore] at within
        exact within value member
      rw [ValueSet.isEmpty_iff.2 noneFound]
      exact .same _

/-- The selection for an outcome that gains does so. -/
theorem ofOutcome {before after : Tristate} (gains : before.Gains trend after) :
    (Selection.ofOutcome resolved before).Gains trend (Selection.ofOutcome resolved after) := by
  cases gains with
  | settled => exact .settled _
  | same => exact .same _
  | grown => exact .grown fun value member => absurd member (ValueSet.not_mem_empty value)

/-- The complement of a selection that is steady gains whatever the trend. -/
theorem complement (gains : before.Gains .steady after) :
    (before.complement resolved).Gains trend (after.complement resolved) := by
  cases gains with
  | settled => exact .settled _
  | same => exact .same _

/-- A conjunction only gains values, also from selections that did not apply. -/
theorem common {selections others : List Selection}
    (gains : List.Forall₂ (Gains trend) selections others) :
    (Selection.common selections).Gains .growing (Selection.common others) := by
  obtain ⟨found, commonFound, mem_found⟩ := exists_common_eq selections
  obtain ⟨more, commonMore, mem_more⟩ := exists_common_eq others
  rw [commonFound, commonMore]
  refine .grown fun value member => ?_
  obtain ⟨notNil, all⟩ := (mem_found value).1 member
  refine (mem_more value).2 ⟨?_, ?_⟩
  · rintro rfl
    exact notNil (List.forall₂_nil_right_iff.1 gains)
  · intro other otherMember
    obtain ⟨selection, member, selectionGains⟩ := exists_mem_of_forall₂ gains other otherMember
    exact selectionGains.has (all selection member)

/-- Two sets of values that gain do so together. -/
theorem union {found more values others : ValueSet}
    (foundGains : (matched found).Gains trend (matched more))
    (gains : (matched values).Gains trend (matched others)) :
    (matched (found.union values)).Gains trend (matched (more.union others)) := by
  cases trend with
  | steady =>
    cases foundGains
    cases gains
    exact .same _
  | growing =>
    refine .grown fun value member => ?_
    rw [ValueSet.mem_union] at member ⊢
    exact member.imp (fun isFound => has_matched_iff.1 (foundGains.has ⟨_, rfl, isFound⟩))
      fun isValue => has_matched_iff.1 (gains.has ⟨_, rfl, isValue⟩)

/-- Selections that gain do so when they are joined to values that do. -/
theorem joinedWith {selections others : List Selection}
    (gains : List.Forall₂ (Gains trend) selections others) {found more : ValueSet}
    (foundGains : (matched found).Gains trend (matched more)) :
    (Selection.joinedWith found selections).Gains trend (Selection.joinedWith more others) := by
  induction gains generalizing found more with
  | nil => exact foundGains
  | @cons head other _ _ headGains _ ih =>
    match head, other, headGains with
    | notApplicable, _, _ => exact .settled _
    | matched _, matched _, headGains => exact ih (foundGains.union headGains)

/-- Selections that gain do so when they are joined. -/
theorem joined {selections others : List Selection}
    (gains : List.Forall₂ (Gains trend) selections others) :
    (Selection.joined selections).Gains trend (Selection.joined others) :=
  joinedWith gains (.same _)

end Selection.Gains

variable {before after : Request} {trend : Trend}

/-- A node gives more on the second of two requests, a matcher for every attribute. -/
def Node.Gains (trend : Trend) (before after : Request) : Node → Prop
  | rule r => ∃ first second, r.evaluate before = .ok first ∧ r.evaluate after = .ok second ∧
      first.Gains trend second
  | matcher m => ∀ resolved, ∃ first second, m.select before resolved = .ok first ∧
      m.select after resolved = .ok second ∧ first.Gains trend second

/-- A conjunction of rules that gain does so. -/
theorem evaluateAnd_gains {rules : List Rule}
    (gains : ∀ rule ∈ rules, (Node.rule rule).Gains trend before after) :
    (Node.rule (.and rules)).Gains trend before after := by
  obtain ⟨first, second, evaluated, evaluatedAfter, eachGains⟩ := exists_mapM_related gains
  exact ⟨_, _, Rule.evaluate_and_of_outcomes evaluated,
    Rule.evaluate_and_of_outcomes evaluatedAfter, .conjunction eachGains⟩

/-- A disjunction of rules that gain does so. -/
theorem evaluateOr_gains {rules : List Rule}
    (gains : ∀ rule ∈ rules, (Node.rule rule).Gains trend before after) :
    (Node.rule (.or rules)).Gains trend before after := by
  obtain ⟨first, second, evaluated, evaluatedAfter, eachGains⟩ := exists_mapM_related gains
  exact ⟨_, _, Rule.evaluate_or_of_outcomes evaluated, Rule.evaluate_or_of_outcomes evaluatedAfter,
    .disjunction eachGains⟩

/-- Matchers that gain all select, and their selections gain one by one. -/
theorem selectAll_gains {matchers : List Matcher} (resolved : Attribute)
    (gains : ∀ matcher ∈ matchers, (Node.matcher matcher).Gains trend before after) :
    ∃ first second, selectAll before resolved matchers = .ok first ∧
      selectAll after resolved matchers = .ok second ∧
      List.Forall₂ (Selection.Gains trend) first second := by
  rw [selectAll_eq_mapM, selectAll_eq_mapM]
  exact exists_mapM_related fun matcher member => gains matcher member resolved

end AttributeRelease
