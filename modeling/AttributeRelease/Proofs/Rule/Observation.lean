import AttributeRelease.Proofs.Rule.Selection

/-!
# What can be observed of a selection

A selection applies or it does not, and one that applies has certain values. `Selection.ext_has` says
that nothing else can be observed of it. Each operation on selections has therefore two lemmas: when
its result does not apply, and which values the result has. What a matcher that is made of others
selects is an operation on what these select.
-/

namespace AttributeRelease

namespace Selection

variable {resolved : Attribute} {value : Value}

/-- A selection applies and has a value. -/
def Has (selection : Selection) (value : Value) : Prop :=
  ∃ values, selection = matched values ∧ value ∈ values

/-- A selection that applies has its values. -/
theorem has_matched_iff {values : ValueSet} : (matched values).Has value ↔ value ∈ values :=
  ⟨fun ⟨_, same, member⟩ => by cases same; exact member, fun member => ⟨_, rfl, member⟩⟩

/-- What does not apply has no value. -/
theorem not_has_notApplicable : ¬ notApplicable.Has value := by
  rintro ⟨_, ⟨⟩, _⟩

/-- A selection from an attribute has values of this attribute only. -/
theorem IsFrom.mem {selection : Selection} (isFrom : selection.IsFrom resolved)
    (has : selection.Has value) : value ∈ resolved.values := by
  obtain ⟨values, same, member⟩ := has
  exact isFrom values same value member

/-- Selections are equal if the same values can be observed of them, and they both apply or both do
not. -/
@[ext]
theorem ext_has {left right : Selection} (applies : left = notApplicable ↔ right = notApplicable)
    (has : ∀ value, left.Has value ↔ right.Has value) : left = right := by
  cases left with
  | notApplicable => exact (applies.1 rfl).symm
  | matched values =>
    cases right with
    | notApplicable => exact applies.2 rfl
    | matched others =>
      congr 1
      ext value
      simpa only [has_matched_iff] using has value

/-- The complement applies exactly if the selection does. -/
theorem complement_eq_notApplicable_iff {selection : Selection} :
    selection.complement resolved = notApplicable ↔ selection = notApplicable := by
  cases selection <;> simp [complement]

/-- The complement has those values of the attribute that the selection does not have. -/
theorem complement_has_iff {selection : Selection} :
    (selection.complement resolved).Has value ↔
      selection ≠ notApplicable ∧ value ∈ resolved.values ∧ ¬ selection.Has value := by
  cases selection with
  | notApplicable => simp [complement, not_has_notApplicable]
  | matched values => simp [complement, has_matched_iff, Attribute.mem_valuesWhere]

section Common

variable {selections : List Selection}

/-- What is common of values and selections applies, and has what is in all of them. -/
theorem exists_commonWith_eq (found : ValueSet) (selections : List Selection) :
    ∃ values, commonWith found selections = matched values ∧ ∀ value, value ∈ values ↔
      value ∈ found ∧ ∀ selection ∈ selections, selection.Has value := by
  induction selections generalizing found with
  | nil => exact ⟨found, rfl, by simp⟩
  | cons head rest ih =>
    cases head with
    | notApplicable => exact ⟨∅, rfl, by simp [Has]⟩
    | matched values =>
      obtain ⟨left, common, mem_left⟩ := ih (found.inter values)
      refine ⟨left, common, fun value => ?_⟩
      simp [mem_left, Has, and_assoc]

/-- A conjunction always applies. It has the values that all its selections have. -/
theorem exists_common_eq (selections : List Selection) :
    ∃ values, common selections = matched values ∧ ∀ value, value ∈ values ↔
      selections ≠ [] ∧ ∀ selection ∈ selections, selection.Has value := by
  match selections with
  | [] => exact ⟨∅, rfl, by simp⟩
  | notApplicable :: rest => exact ⟨∅, rfl, by simp [Has]⟩
  | matched values :: rest =>
    obtain ⟨left, common, mem_left⟩ := exists_commonWith_eq values rest
    refine ⟨left, common, fun value => ?_⟩
    simp [mem_left, Has]

/-- What is common always applies. -/
theorem common_ne_notApplicable : common selections ≠ notApplicable := by
  obtain ⟨values, same, _⟩ := exists_common_eq selections
  rw [same]
  exact nofun

/-- A value is common exactly if there are selections and all of them have it. -/
theorem common_has_iff :
    (common selections).Has value ↔
      selections ≠ [] ∧ ∀ selection ∈ selections, selection.Has value := by
  obtain ⟨values, same, mem_values⟩ := exists_common_eq selections
  rw [same, has_matched_iff, mem_values]

end Common

section Joined

variable {selections : List Selection}

/-- Joining to values applies exactly if all selections do. -/
theorem joinedWith_eq_notApplicable_iff {found : ValueSet} :
    joinedWith found selections = notApplicable ↔ notApplicable ∈ selections := by
  induction selections generalizing found with
  | nil => simp [joinedWith]
  | cons head rest ih =>
    cases head with
    | notApplicable => simp [joinedWith]
    | matched values => simp [joinedWith, ih]

/-- If all selections apply, the values when joined are those there were and those that one of them
has. -/
theorem joinedWith_has_iff {found : ValueSet} :
    (joinedWith found selections).Has value ↔
      notApplicable ∉ selections ∧
        (value ∈ found ∨ ∃ selection ∈ selections, selection.Has value) := by
  induction selections generalizing found with
  | nil => simp [joinedWith, has_matched_iff]
  | cons head rest ih =>
    cases head with
    | notApplicable => simp [joinedWith, not_has_notApplicable]
    | matched values => simp [joinedWith, ih, has_matched_iff, or_assoc]

/-- A disjunction does not apply if one of its selections does not. -/
theorem joined_eq_notApplicable_iff :
    joined selections = notApplicable ↔ notApplicable ∈ selections :=
  joinedWith_eq_notApplicable_iff

/-- If all selections apply, the values when joined are those that one of them has. -/
theorem joined_has_iff :
    (joined selections).Has value ↔
      notApplicable ∉ selections ∧ ∃ selection ∈ selections, selection.Has value := by
  rw [joined, joinedWith_has_iff, or_iff_right (ValueSet.not_mem_empty value)]

end Joined

end Selection

variable {request : Request} {resolved : Attribute} {matchers : List Matcher}

/-- Matchers select one after the other. -/
theorem selectAll_eq_mapM (matchers : List Matcher) :
    selectAll request resolved matchers =
      matchers.mapM fun matcher => matcher.select request resolved := by
  induction matchers with
  | nil => rfl
  | cons matcher rest ih =>
    rw [selectAll, List.mapM_cons, ih]

/-- Several matchers can be evaluated if each of them can. -/
theorem exists_selectAll_iff :
    (∃ selections, selectAll request resolved matchers = .ok selections) ↔
      ∀ matcher ∈ matchers, ∃ selection, matcher.select request resolved = .ok selection := by
  rw [selectAll_eq_mapM]
  exact Outcome.exists_mapM_eq_ok_iff

/-- What several matchers select is what any of them selects. -/
theorem mem_selectAll_iff {selections : List Selection}
    (selected : selectAll request resolved matchers = .ok selections) (selection : Selection) :
    selection ∈ selections ↔
      ∃ matcher ∈ matchers, matcher.select request resolved = .ok selection := by
  rw [selectAll_eq_mapM] at selected
  exact Outcome.mem_results_iff selected selection

/-- There are no selections exactly if there are no matchers. -/
theorem selectAll_eq_nil_iff {selections : List Selection}
    (selected : selectAll request resolved matchers = .ok selections) :
    selections = [] ↔ matchers = [] := by
  rw [selectAll_eq_mapM] at selected
  exact Outcome.results_eq_nil_iff selected

namespace Matcher

/-- A negation selects the complement of what its part does. -/
theorem select_not {part : Matcher} :
    (not part).select request resolved =
      (part.select request resolved).map (Selection.complement resolved) := by
  rw [select]
  cases part.select request resolved <;> rfl

/-- A conjunction selects what is common to its matchers. -/
theorem select_and :
    (and matchers).select request resolved =
      (selectAll request resolved matchers).map Selection.common := by
  rw [select]
  cases selectAll request resolved matchers <;> rfl

/-- A disjunction selects what its matchers do when joined. -/
theorem select_or :
    (or matchers).select request resolved =
      (selectAll request resolved matchers).map Selection.joined := by
  rw [select]
  cases selectAll request resolved matchers <;> rfl

/-- The matcher of a rule selects for its outcome. -/
theorem select_fromRule {rule : Rule} :
    (fromRule rule).select request resolved =
      (rule.evaluate request).map (Selection.ofOutcome resolved) := by
  rw [select]
  cases rule.evaluate request <;> rfl

end Matcher

end AttributeRelease
