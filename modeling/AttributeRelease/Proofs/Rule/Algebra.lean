import AttributeRelease.Proofs.Rule.Observation

/-!
# The algebra of matchers

Negation, conjunction and disjunction of matchers follow the laws of sets of values as far as a
matcher that does not apply admits them. It stays what it is under a negation, spoils a disjunction
and empties a conjunction, so the laws of De Morgan need matchers that apply, while double negation
and the splicing of nested lists hold always. `Matcher.select_algebra` collects the laws.

All matchers of a list are evaluated before anything is made of what they select. A law of selections
is therefore a law of matchers, with the same failure on both sides; it only matters for failures in
which order the matchers stand.
-/

namespace AttributeRelease

namespace Selection

variable {resolved : Attribute} {selections others : List Selection}

/-- The complement of the complement is the selection, if that is from the attribute. -/
theorem complement_complement {selection : Selection} (isFrom : selection.IsFrom resolved) :
    (selection.complement resolved).complement resolved = selection := by
  ext value
  · rw [complement_eq_notApplicable_iff, complement_eq_notApplicable_iff]
  · rw [complement_has_iff, complement_has_iff, Ne, complement_eq_notApplicable_iff]
    constructor
    · rintro ⟨applies, inInput, notExcluded⟩
      by_contra lacks
      exact notExcluded ⟨applies, inInput, lacks⟩
    · intro has
      have applies : selection ≠ notApplicable := by
        rintro rfl
        exact not_has_notApplicable has
      exact ⟨applies, isFrom.mem has, fun excluded => excluded.2.2 has⟩

/-- What none of several selections has, all their complements have. -/
theorem complement_joined (notNil : selections ≠ []) (allApply : notApplicable ∉ selections) :
    (joined selections).complement resolved = common (selections.map (complement resolved)) := by
  have applies : ∀ selection ∈ selections, selection ≠ notApplicable := by
    rintro selection member rfl
    exact allApply member
  ext value
  · rw [complement_eq_notApplicable_iff, joined_eq_notApplicable_iff]
    exact iff_of_false allApply common_ne_notApplicable
  · rw [complement_has_iff, common_has_iff, Ne, joined_eq_notApplicable_iff, joined_has_iff]
    simp only [ne_eq, List.map_eq_nil_iff, List.forall_mem_map, complement_has_iff]
    constructor
    · rintro ⟨_, inInput, noneHas⟩
      refine ⟨notNil, fun selection member => ⟨applies selection member, inInput, fun has => ?_⟩⟩
      exact noneHas ⟨allApply, selection, member, has⟩
    · rintro ⟨_, allLack⟩
      obtain ⟨first, firstMember⟩ := List.exists_mem_of_ne_nil selections notNil
      refine ⟨allApply, (allLack first firstMember).2.1, ?_⟩
      rintro ⟨_, selection, member, has⟩
      exact (allLack selection member).2.2 has

/-- What not all of several selections have, some complement has. -/
theorem complement_common (notNil : selections ≠ []) (allApply : notApplicable ∉ selections) :
    (common selections).complement resolved = joined (selections.map (complement resolved)) := by
  have complementsApply : notApplicable ∉ selections.map (complement resolved) := by
    intro member
    obtain ⟨selection, selectionMember, same⟩ := List.mem_map.1 member
    rw [complement_eq_notApplicable_iff] at same
    exact allApply (same ▸ selectionMember)
  ext value
  · rw [complement_eq_notApplicable_iff, joined_eq_notApplicable_iff]
    exact iff_of_false common_ne_notApplicable complementsApply
  · rw [complement_has_iff, joined_has_iff, common_has_iff]
    constructor
    · rintro ⟨_, inInput, notAll⟩
      have someLacks : ∃ selection ∈ selections, ¬ selection.Has value := by
        by_contra noneLacks
        push Not at noneLacks
        exact notAll ⟨notNil, noneLacks⟩
      obtain ⟨selection, member, lacks⟩ := someLacks
      refine ⟨complementsApply, _, List.mem_map_of_mem member, complement_has_iff.2 ?_⟩
      exact ⟨fun same => allApply (same ▸ member), inInput, lacks⟩
    · rintro ⟨_, _, complementMember, has⟩
      obtain ⟨selection, member, rfl⟩ := List.mem_map.1 complementMember
      obtain ⟨_, inInput, lacks⟩ := complement_has_iff.1 has
      exact ⟨common_ne_notApplicable, inInput, fun all => lacks (all.2 selection member)⟩

/-- A disjunction can be spliced into a disjunction that it stands in. -/
theorem joined_splice (before inner after : List Selection) :
    joined (before ++ [joined inner] ++ after) = joined (before ++ inner ++ after) := by
  ext value
  · simp only [joined_eq_notApplicable_iff, List.mem_append, List.mem_singleton,
      eq_comm (a := notApplicable)]
  · simp only [joined_has_iff, List.mem_append, List.mem_singleton,
      eq_comm (a := notApplicable), joined_eq_notApplicable_iff]
    refine and_congr_right fun allApply => ?_
    have innerHas : (joined inner).Has value ↔ ∃ selection ∈ inner, selection.Has value := by
      rw [joined_has_iff]
      exact and_iff_right fun member => allApply (.inl (.inr member))
    simp only [or_and_right, exists_or, exists_eq_left, innerHas]

/-- A conjunction can be spliced into a conjunction that it stands in, unless it is empty: then it
has nothing, where the empty list of its parts asks for nothing. -/
theorem common_splice (before after : List Selection) {inner : List Selection}
    (notNil : inner ≠ []) :
    common (before ++ [common inner] ++ after) = common (before ++ inner ++ after) := by
  ext value
  · exact iff_of_false common_ne_notApplicable common_ne_notApplicable
  · simp only [common_has_iff, List.forall_mem_append, List.forall_mem_singleton]
    simp [notNil]

/-- What selections come to when joined depends only on which of them there are. -/
theorem joined_congr (same : ∀ selection, selection ∈ selections ↔ selection ∈ others) :
    joined selections = joined others := by
  ext value
  · simp only [joined_eq_notApplicable_iff, same]
  · simp only [joined_has_iff, same]

/-- What selections have in common depends only on which of them there are. -/
theorem common_congr (same : ∀ selection, selection ∈ selections ↔ selection ∈ others) :
    common selections = common others := by
  have nilSame : selections = [] ↔ others = [] := by
    simp only [List.eq_nil_iff_forall_not_mem, same]
  ext value
  · exact iff_of_false common_ne_notApplicable common_ne_notApplicable
  · simp only [common_has_iff, same, ne_eq, nilSame]

end Selection

section SelectAll

variable {request : Request} {resolved : Attribute} {matchers others : List Matcher}
  {combine dual : List Selection → Selection}

/-- Negated matchers select the complements, and fail where the matchers do. -/
theorem selectAll_map_not (matchers : List Matcher) :
    selectAll request resolved (matchers.map .not) =
      (selectAll request resolved matchers).map
        (List.map (Selection.complement resolved)) := by
  rw [selectAll_eq_mapM, selectAll_eq_mapM]
  exact Outcome.mapM_map_eq (fun _ => Matcher.select_not) matchers

/-- A law of De Morgan for selections holds for matchers that all apply or fail. -/
theorem complement_selectAll
    (law : ∀ selections, selections ≠ [] → .notApplicable ∉ selections →
      (combine selections).complement resolved = dual (selections.map (.complement resolved)))
    (notNil : matchers ≠ [])
    (allApply : ∀ matcher ∈ matchers, matcher.select request resolved ≠ .ok .notApplicable) :
    ((selectAll request resolved matchers).map combine).map (.complement resolved) =
      (selectAll request resolved (matchers.map .not)).map dual := by
  rw [selectAll_map_not]
  cases selected : selectAll request resolved matchers with
  | error e => rfl
  | ok selections =>
    have selectionsNotNil : selections ≠ [] := mt (selectAll_eq_nil_iff selected).1 notNil
    have selectionsApply : .notApplicable ∉ selections := by
      intro member
      obtain ⟨matcher, matcherMember, isSelection⟩ := (mem_selectAll_iff selected _).1 member
      exact allApply matcher matcherMember isSelection
    exact congrArg Except.ok (law selections selectionsNotNil selectionsApply)

end SelectAll

namespace Matcher

variable {request : Request} {resolved : Attribute} {matchers others : List Matcher}

/-- A matcher selects only values of the attribute, so that nothing is lost under two negations. -/
theorem select_not_not (matcher : Matcher) :
    (not (not matcher)).select request resolved = matcher.select request resolved := by
  rw [select_not, select_not]
  cases selected : matcher.select request resolved with
  | error e => rfl
  | ok selection =>
    have isFrom : selection.IsFrom resolved := matcher.select_isFrom selected
    exact congrArg Except.ok (Selection.complement_complement isFrom)

/-- The negation of a disjunction selects as the conjunction of the negations, if there are matchers
and all of them apply. -/
theorem select_not_or (notNil : matchers ≠ [])
    (allApply : ∀ matcher ∈ matchers, matcher.select request resolved ≠ .ok .notApplicable) :
    (not (or matchers)).select request resolved =
      (and (matchers.map not)).select request resolved := by
  rw [select_not, select_or, select_and]
  exact complement_selectAll (fun _ => Selection.complement_joined) notNil allApply

/-- The negation of a conjunction selects as the disjunction of the negations, if there are matchers
and all of them apply. -/
theorem select_not_and (notNil : matchers ≠ [])
    (allApply : ∀ matcher ∈ matchers, matcher.select request resolved ≠ .ok .notApplicable) :
    (not (and matchers)).select request resolved =
      (or (matchers.map not)).select request resolved := by
  rw [select_not, select_and, select_or]
  exact complement_selectAll (fun _ => Selection.complement_common) notNil allApply

/-- A disjunction in a disjunction may be replaced by its matchers. -/
theorem select_or_splice (before inner after : List Matcher) :
    (or (before ++ [or inner] ++ after)).select request resolved =
      (or (before ++ inner ++ after)).select request resolved := by
  rw [select_or, select_or, selectAll_eq_mapM, selectAll_eq_mapM]
  refine Outcome.mapM_splice ?_ (fun first middle last _ =>
    Selection.joined_splice first middle last) before after
  rw [select_or, selectAll_eq_mapM]

/-- A conjunction in a conjunction may be replaced by its matchers, if it has any. -/
theorem select_and_splice (before after : List Matcher) {inner : List Matcher}
    (notNil : inner ≠ []) :
    (and (before ++ [and inner] ++ after)).select request resolved =
      (and (before ++ inner ++ after)).select request resolved := by
  rw [select_and, select_and, selectAll_eq_mapM, selectAll_eq_mapM]
  refine Outcome.mapM_splice ?_ (fun first middle last selected => ?_) before after
  · rw [select_and, selectAll_eq_mapM]
  · exact Selection.common_splice first last (mt (Outcome.results_eq_nil_iff selected).1 notNil)

/-- Order and repetition of its matchers make no difference to what a disjunction selects. -/
theorem toOption_select_or_congr (same : ∀ matcher, matcher ∈ matchers ↔ matcher ∈ others) :
    ((or matchers).select request resolved).toOption =
      ((or others).select request resolved).toOption := by
  rw [select_or, select_or, selectAll_eq_mapM, selectAll_eq_mapM]
  exact Outcome.toOption_mapM_congr (fun _ _ => Selection.joined_congr) same

/-- Order and repetition of its matchers make no difference to what a conjunction selects. -/
theorem toOption_select_and_congr (same : ∀ matcher, matcher ∈ matchers ↔ matcher ∈ others) :
    ((and matchers).select request resolved).toOption =
      ((and others).select request resolved).toOption := by
  rw [select_and, select_and, selectAll_eq_mapM, selectAll_eq_mapM]
  exact Outcome.toOption_mapM_congr (fun _ _ => Selection.common_congr) same

/-- The laws of matchers, for every request and every attribute. Only values of the attribute are
selected. A double negation can be dropped. Negations go into lists of matchers none of which does
not apply. A disjunction can be spliced into a disjunction, and a conjunction, unless it is empty,
into a conjunction. Lists with the same members in any order and any number of times come to the same,
and fail together, though perhaps not with the same error. -/
theorem select_algebra (request : Request) (resolved : Attribute) :
    (∀ (matcher : Matcher) (values : ValueSet),
      matcher.select request resolved = .ok (.matched values) →
        ∀ value ∈ values, value ∈ resolved.values) ∧
    (∀ matcher : Matcher,
      (not (not matcher)).select request resolved = matcher.select request resolved) ∧
    (∀ matchers : List Matcher, matchers ≠ [] →
      (∀ matcher ∈ matchers, matcher.select request resolved ≠ .ok .notApplicable) →
        (not (or matchers)).select request resolved =
            (and (matchers.map not)).select request resolved ∧
          (not (and matchers)).select request resolved =
            (or (matchers.map not)).select request resolved) ∧
    (∀ before inner after : List Matcher,
      (or (before ++ [or inner] ++ after)).select request resolved =
          (or (before ++ inner ++ after)).select request resolved ∧
        (inner ≠ [] →
          (and (before ++ [and inner] ++ after)).select request resolved =
            (and (before ++ inner ++ after)).select request resolved)) ∧
    ∀ matchers others : List Matcher, (∀ matcher, matcher ∈ matchers ↔ matcher ∈ others) →
      ((or matchers).select request resolved).toOption =
          ((or others).select request resolved).toOption ∧
        ((and matchers).select request resolved).toOption =
          ((and others).select request resolved).toOption := by
  refine ⟨?_, select_not_not, ?_, ?_, ?_⟩
  · intro matcher values selected
    exact matcher.select_isFrom selected values rfl
  · intro matchers notNil allApply
    exact ⟨select_not_or notNil allApply, select_not_and notNil allApply⟩
  · intro before inner after
    exact ⟨select_or_splice before inner after, select_and_splice before after⟩
  · intro matchers others same
    exact ⟨toOption_select_or_congr same, toOption_select_and_congr same⟩

/-- Two affiliations that people have. -/
def staffOrMember : List Matcher :=
  [.value (.exact "staff" false), .not (.value (.exact "student" false))]

/-- An attribute with an affiliation that is in question twice. -/
def affiliations : Attribute :=
  .ofValues "affiliation" [.string "staff", .string "student", .string "staff"]

/-- The laws hold for two matchers that apply. -/
theorem staffOrMember_laws :
    staffOrMember ≠ [] ∧
      (∀ matcher ∈ staffOrMember, matcher.select .blank affiliations ≠ .ok .notApplicable) ∧
      (not (or staffOrMember)).select .blank affiliations =
        (and (staffOrMember.map not)).select .blank affiliations ∧
      (not (and staffOrMember)).select .blank affiliations =
        (or (staffOrMember.map not)).select .blank affiliations ∧
      (and ([any] ++ [and staffOrMember] ++ [])).select .blank affiliations =
        (and ([any] ++ staffOrMember ++ [])).select .blank affiliations ∧
      (∀ matcher, matcher ∈ staffOrMember ++ staffOrMember ↔ matcher ∈ staffOrMember) ∧
      ((and (staffOrMember ++ staffOrMember)).select .blank affiliations).toOption =
        ((and staffOrMember).select .blank affiliations).toOption := by
  have notNil : staffOrMember ≠ [] := List.cons_ne_nil _ _
  have allApply : ∀ matcher ∈ staffOrMember,
      matcher.select .blank affiliations ≠ .ok .notApplicable := by decide
  have same : ∀ matcher, matcher ∈ staffOrMember ++ staffOrMember ↔ matcher ∈ staffOrMember := by
    simp
  obtain ⟨_, _, deMorgan, splice, congr⟩ := select_algebra .blank affiliations
  obtain ⟨notOr, notAnd⟩ := deMorgan staffOrMember notNil allApply
  exact ⟨notNil, allApply, notOr, notAnd, (splice [any] staffOrMember []).2 notNil, same,
    (congr (staffOrMember ++ staffOrMember) staffOrMember same).2⟩

end Matcher

end AttributeRelease
