import AttributeRelease.Proofs.Rule.Requested
import AttributeRelease.Proofs.Rule.ScriptSelection

/-!
# What matchers can select

A matcher selects values of the attribute it is asked about and no others. The statement goes through
every operation on selections and then, in `Matcher.select_isFrom`, through all matchers. Rules inside
matchers play no part in it: whatever their outcome, they select all values or none.
-/

namespace AttributeRelease

open Outcome

namespace Selection

/-- All selected values are values of an attribute. -/
def IsFrom (resolved : Attribute) (selection : Selection) : Prop :=
  ∀ values, selection = matched values → ∀ value ∈ values, value ∈ resolved.values

variable {resolved : Attribute}

/-- Values are from an attribute exactly if it has all of them. -/
theorem isFrom_matched {values : ValueSet} :
    (matched values).IsFrom resolved ↔ ∀ value ∈ values, value ∈ resolved.values := by
  constructor
  · intro within
    exact within values rfl
  · rintro within _ ⟨⟩
    exact within

/-- What does not apply is from every attribute. -/
theorem isFrom_notApplicable : notApplicable.IsFrom resolved := by
  rintro _ ⟨⟩

/-- The selection of nothing is from every attribute. -/
theorem isFrom_nothing : nothing.IsFrom resolved :=
  isFrom_matched.2 fun value member => absurd member (ValueSet.not_mem_empty value)

/-- The selection of everything is from the attribute. -/
theorem isFrom_all : (all resolved).IsFrom resolved :=
  isFrom_matched.2 fun _ => Attribute.mem_valueSet.1

/-- The values that pass a test are from the attribute. -/
theorem isFrom_valuesWhere {passes : Value → Bool} :
    (matched (resolved.valuesWhere passes)).IsFrom resolved :=
  isFrom_matched.2 fun _ member => (Attribute.mem_valuesWhere.1 member).1

/-- All or nothing is from the attribute. -/
theorem isFrom_allIf {condition : Bool} : (allIf resolved condition).IsFrom resolved := by
  cases condition with
  | true => exact isFrom_all
  | false => exact isFrom_nothing

/-- The selection for an outcome is from the attribute. -/
theorem isFrom_ofOutcome {outcome : Tristate} : (ofOutcome resolved outcome).IsFrom resolved := by
  cases outcome with
  | true => exact isFrom_all
  | false => exact isFrom_nothing
  | fail => exact isFrom_notApplicable

/-- A complement is from the attribute. -/
theorem isFrom_complement {selection : Selection} :
    (selection.complement resolved).IsFrom resolved := by
  cases selection with
  | matched values => exact isFrom_valuesWhere
  | notApplicable => exact isFrom_notApplicable

/-- Intersections only lose values, so it is enough that the first set is from the attribute. -/
theorem isFrom_commonWith {selections : List Selection} {found : ValueSet}
    (foundFrom : (matched found).IsFrom resolved) :
    (commonWith found selections).IsFrom resolved := by
  induction selections generalizing found with
  | nil => exact foundFrom
  | cons selection rest ih =>
    cases selection with
    | matched values =>
      apply ih
      refine isFrom_matched.2 fun value member => ?_
      exact isFrom_matched.1 foundFrom value (ValueSet.mem_inter.1 member).1
    | notApplicable => exact isFrom_nothing

/-- What is common to selections from an attribute is from it. -/
theorem isFrom_common {selections : List Selection}
    (allFrom : ∀ selection ∈ selections, selection.IsFrom resolved) :
    (common selections).IsFrom resolved := by
  cases selections with
  | nil => exact isFrom_nothing
  | cons selection rest =>
    cases selection with
    | matched values => exact isFrom_commonWith (allFrom _ List.mem_cons_self)
    | notApplicable => exact isFrom_nothing

/-- Selections from an attribute are so when joined to values that are. -/
theorem isFrom_joinedWith {selections : List Selection} {found : ValueSet}
    (foundFrom : (matched found).IsFrom resolved)
    (allFrom : ∀ selection ∈ selections, selection.IsFrom resolved) :
    (joinedWith found selections).IsFrom resolved := by
  induction selections generalizing found with
  | nil => exact foundFrom
  | cons selection rest ih =>
    obtain ⟨headFrom, restFrom⟩ := List.forall_mem_cons.1 allFrom
    cases selection with
    | matched values =>
      refine ih (isFrom_matched.2 fun value member => ?_) restFrom
      rcases ValueSet.mem_union.1 member with known | added
      · exact isFrom_matched.1 foundFrom value known
      · exact isFrom_matched.1 headFrom value added
    | notApplicable => exact isFrom_notApplicable

/-- Selections from an attribute are so when joined. -/
theorem isFrom_joined {selections : List Selection}
    (allFrom : ∀ selection ∈ selections, selection.IsFrom resolved) :
    (joined selections).IsFrom resolved :=
  isFrom_joinedWith isFrom_nothing allFrom

end Selection

/-- What is requested selects values of the attribute. -/
theorem RequestedMatch.select_isFrom {sought : RequestedMatch} {request : Request}
    {resolved : Attribute} : (Selection.matched (sought.select request resolved)).IsFrom resolved := by
  rw [select]
  by_cases silent : ∀ known, request.metadata? .requester = some known → known.requested = []
  · rw [selectFor_of_silent silent, silently]
    split
    · exact Selection.isFrom_all
    · exact Selection.isFrom_nothing
  · push Not at silent
    obtain ⟨entity, found, asks⟩ := silent
    rw [found]
    exact Selection.isFrom_matched.2 fun _ member => ((mem_selectFor_iff asks).1 member).1

/-- A script selects values of the attribute. -/
theorem Script.select_isFrom {script : Script} {request : Request} {resolved : Attribute}
    {selection : Selection} (selected : script.select request resolved = .ok selection) :
    selection.IsFrom resolved := by
  obtain ⟨texts, values, _, _, mem_values, rfl⟩ := select_eq_ok_iff.1 selected
  exact Selection.isFrom_matched.2 fun value member => ((mem_values value).1 member).1

mutual

/-- A matcher selects only values of the attribute. -/
theorem Matcher.select_isFrom {request : Request} {resolved : Attribute} {selection : Selection} :
    (matcher : Matcher) → matcher.select request resolved = .ok selection →
      selection.IsFrom resolved
  | .any, selected => by cases selected; exact Selection.isFrom_all
  | .value _, selected => by cases selected; exact Selection.isFrom_valuesWhere
  | .scope _, selected => by cases selected; exact Selection.isFrom_valuesWhere
  | .script script, selected => script.select_isFrom selected
  | .and matchers, selected => by
    obtain ⟨selections, parts, ⟨⟩⟩ := bind_eq_ok_iff.1 selected
    exact Selection.isFrom_common (selectAll_isFrom matchers parts)
  | .or matchers, selected => by
    obtain ⟨selections, parts, ⟨⟩⟩ := bind_eq_ok_iff.1 selected
    exact Selection.isFrom_joined (selectAll_isFrom matchers parts)
  | .not matcher, selected => by
    obtain ⟨part, _, ⟨⟩⟩ := bind_eq_ok_iff.1 selected
    exact Selection.isFrom_complement
  | .metadata _, selected => by cases selected; exact Selection.isFrom_allIf
  | .requested _, selected => by cases selected; exact RequestedMatch.select_isFrom
  | .fromRule rule, selected => by
    obtain ⟨outcome, _, ⟨⟩⟩ := bind_eq_ok_iff.1 selected
    exact Selection.isFrom_ofOutcome

/-- All that a list of matchers selects are values of the attribute. -/
theorem selectAll_isFrom {request : Request} {resolved : Attribute}
    {selections : List Selection} :
    (matchers : List Matcher) → selectAll request resolved matchers = .ok selections →
      ∀ selection ∈ selections, selection.IsFrom resolved
  | [], selected => by cases selected; simp
  | matcher :: rest, selected => by
    obtain ⟨selection, first, others⟩ := bind_eq_ok_iff.1 selected
    obtain ⟨selections, later, ⟨⟩⟩ := bind_eq_ok_iff.1 others
    exact List.forall_mem_cons.2
      ⟨matcher.select_isFrom first, selectAll_isFrom rest later⟩

end

end AttributeRelease
