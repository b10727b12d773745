import AttributeRelease.Proofs.Engine.Entries
import AttributeRelease.Proofs.Rule.Selection

/-!
# Exactly what a filtering pass releases

A value of an attribute is released if a rule of some active policy permits it and no rule of an
active policy denies it. A pass which succeeds releases these values, in the order and as often as
the request has them, and nothing else.
-/

namespace AttributeRelease

open Outcome

namespace AttributeRule

/-- The matcher of a rule selects a value of an attribute. -/
def Selects (rule : AttributeRule) (request : Request) (resolved : Attribute) (value : Value) :
    Prop :=
  ∃ values, rule.matcher.select request resolved = .ok (.matched values) ∧ value ∈ values

/-- A rule permits a value of an attribute: its matcher selects the value. -/
def Permits (rule : AttributeRule) (request : Request) (resolved : Attribute) (value : Value) :
    Prop :=
  rule.effect = .permit ∧ rule.Selects request resolved value

/-- A rule denies a value of an attribute: its matcher selects the value or does not apply. -/
def Denies (rule : AttributeRule) (request : Request) (resolved : Attribute) (value : Value) :
    Prop :=
  rule.effect = .deny ∧
    (rule.matcher.select request resolved = .ok .notApplicable ∨
      rule.Selects request resolved value)

instance (rule : AttributeRule) (request : Request) (resolved : Attribute) (value : Value) :
    Decidable (rule.Selects request resolved value) :=
  match selected : rule.matcher.select request resolved with
  | .ok (.matched values) =>
    decidable_of_iff (value ∈ values) ⟨fun member => ⟨values, selected, member⟩, by
      rintro ⟨others, otherSelected, member⟩
      cases selected.symm.trans otherSelected
      exact member⟩
  | .ok .notApplicable => isFalse (by simp [Selects, selected])
  | .error _ => isFalse (by simp [Selects, selected])

instance (rule : AttributeRule) (request : Request) (resolved : Attribute) (value : Value) :
    Decidable (rule.Permits request resolved value) :=
  inferInstanceAs (Decidable (_ ∧ _))

instance (rule : AttributeRule) (request : Request) (resolved : Attribute) (value : Value) :
    Decidable (rule.Denies request resolved value) :=
  inferInstanceAs (Decidable (_ ∧ (_ ∨ _)))

/-- What a rule enters of the values of an attribute: what its matcher selects, and for a denial that
does not apply everything. -/
theorem records_iff {rule : AttributeRule} {request : Request} {resolved : Attribute}
    {value : Value} :
    rule.Records request resolved value ↔
      rule.Selects request resolved value ∨
        rule.effect = .deny ∧ rule.matcher.select request resolved = .ok .notApplicable ∧
          value ∈ resolved.values := by
  constructor
  · rintro ⟨selection, selected, entered⟩
    cases selection with
    | matched values => exact .inl ⟨values, selected, entered⟩
    | notApplicable =>
      right
      cases effect : rule.effect with
      | permit => simp [AttributeRule.entered, effect] at entered
      | deny =>
        refine ⟨rfl, selected, Attribute.mem_valueSet.1 ?_⟩
        simpa [AttributeRule.entered, effect] using entered
  · rintro (⟨values, selected, found⟩ | ⟨effect, selected, member⟩)
    · exact ⟨.matched values, selected, found⟩
    · refine ⟨.notApplicable, selected, ?_⟩
      simpa [AttributeRule.entered, effect] using Attribute.mem_valueSet.2 member

/-- A rule enters only values of the attribute. -/
theorem Records.mem {rule : AttributeRule} {request : Request} {resolved : Attribute}
    {value : Value} (records : rule.Records request resolved value) : value ∈ resolved.values := by
  rcases records_iff.1 records with ⟨values, selected, member⟩ | ⟨_, _, member⟩
  · exact rule.matcher.select_isFrom selected values rfl value member
  · exact member

/-- A rule permits a value exactly if it is a permitting rule and records the value. -/
theorem permits_iff {rule : AttributeRule} {request : Request} {resolved : Attribute}
    {value : Value} :
    rule.Permits request resolved value ↔
      rule.effect = .permit ∧ rule.Records request resolved value := by
  rw [records_iff, Permits]
  refine and_congr_right fun permit => (or_iff_left ?_).symm
  rintro ⟨deny, _⟩
  cases permit.symm.trans deny

/-- A rule denies a value that the attribute has exactly if it is a denying rule and records the
value. -/
theorem denies_iff {rule : AttributeRule} {request : Request} {resolved : Attribute}
    {value : Value} (member : value ∈ resolved.values) :
    rule.Denies request resolved value ↔
      rule.effect = .deny ∧ rule.Records request resolved value := by
  rw [records_iff, Denies]
  refine and_congr_right fun deny => ?_
  simp only [deny, member, true_and, and_true, or_comm]

end AttributeRule

namespace WorkArea

/-- What is left of an attribute are the values that were permitted and not denied, if there are
any. -/
theorem released?_eq_some_iff {area : WorkArea} {id : String} {left : ValueSet} :
    area.released? id = some left ↔
      (∃ value, value ∈ left) ∧
        ∀ value, value ∈ left ↔ area.Has .permit id value ∧ ¬ area.Has .deny id value := by
  let rest := ((area.permitted.find? id).getD ∅).diff ((area.denied.find? id).getD ∅)
  have mem_rest : ∀ value, value ∈ rest ↔ area.Has .permit id value ∧ ¬ area.Has .deny id value :=
    fun value => ValueSet.mem_diff
  have released_eq : area.released? id = if rest.isEmpty then none else some rest := by
    unfold released?
    cases found : area.permitted.find? id with
    | none =>
      have nothing : rest = ∅ := by
        ext value
        simp [rest, found]
      rw [nothing]
      rfl
    | some permitted => simp only [rest, found, Option.getD_some]
  constructor
  · intro released
    rw [released_eq] at released
    split at released
    next => cases released
    next notEmpty =>
      rw [← Option.some.inj released]
      refine ⟨?_, mem_rest⟩
      refine Classical.not_forall_not.1 fun noMember => notEmpty (ValueSet.isEmpty_iff.2 ?_)
      ext value
      simp [noMember value]
  · rintro ⟨⟨value, member⟩, mem_left⟩
    have same : rest = left := by
      ext other
      rw [mem_rest, mem_left]
    have notEmpty : ¬ rest.isEmpty = true := by
      rw [ValueSet.isEmpty_iff, same]
      rintro rfl
      exact ValueSet.not_mem_empty value member
    rw [released_eq, if_neg notEmpty, same]

/-- Of an attribute that is released some values are permitted. -/
theorem exists_permitted_of_released {area : WorkArea} {id : String} {left : ValueSet}
    (released : area.released? id = some left) :
    ∃ permitted, area.permitted.find? id = some permitted := by
  unfold released? at released
  cases found : area.permitted.find? id with
  | none =>
    rw [found] at released
    cases released
  | some permitted => exact ⟨permitted, rfl⟩

end WorkArea

namespace Engine

/-- A rule of an active policy permits a value of an attribute. -/
def Permits (engine : Engine) (request : Request) (id : String) (resolved : Attribute)
    (value : Value) : Prop :=
  HasActiveRule engine.policies request fun rule =>
    rule.attributeId = id ∧ rule.Permits request resolved value

/-- A rule of an active policy denies a value of an attribute. -/
def Denies (engine : Engine) (request : Request) (id : String) (resolved : Attribute)
    (value : Value) : Prop :=
  HasActiveRule engine.policies request fun rule =>
    rule.attributeId = id ∧ rule.Denies request resolved value

variable {engine : Engine} {request : Request} {area : WorkArea} {id : String}
  {resolved : Attribute} {value : Value}

/-- After the policies were applied, the permitted values are those that a rule of an active policy
permits. -/
theorem has_permit_iff (evaluated : engine.evaluate request = .ok area)
    (found : request.attribute? id = some resolved) :
    area.Has .permit id value ↔ engine.Permits request id resolved value := by
  rw [evaluate_has_iff evaluated, Permits]
  simp only [HasActiveRule, AttributeRule.enters_iff found, AttributeRule.permits_iff,
    and_left_comm]

/-- After the policies were applied, the denied values of an attribute are those that a rule of an
active policy denies. -/
theorem has_deny_iff (evaluated : engine.evaluate request = .ok area)
    (found : request.attribute? id = some resolved) (member : value ∈ resolved.values) :
    area.Has .deny id value ↔ engine.Denies request id resolved value := by
  rw [evaluate_has_iff evaluated, Denies]
  simp only [HasActiveRule, AttributeRule.enters_iff found, AttributeRule.denies_iff member,
    and_left_comm]

/-- Only values of the attribute are permitted for it. -/
theorem mem_of_permits (permits : engine.Permits request id resolved value) :
    value ∈ resolved.values := by
  obtain ⟨_, _, _, rule, _, _, permitted⟩ := permits
  exact (AttributeRule.permits_iff.1 permitted).2.mem

/-- A value of an attribute is released: a rule of an active policy permits it, and none denies
it. -/
def Releases (engine : Engine) (request : Request) (id : String) (resolved : Attribute)
    (value : Value) : Prop :=
  engine.Permits request id resolved value ∧ ¬ engine.Denies request id resolved value

instance (engine : Engine) (request : Request) (id : String) (resolved : Attribute)
    (value : Value) : Decidable (engine.Releases request id resolved value) :=
  inferInstanceAs (Decidable (HasActiveRule _ _ _ ∧ ¬ HasActiveRule _ _ _))

/-- Of an attribute are left the values that are released, if there are any. -/
theorem released?_eq_some_iff {left : ValueSet} (evaluated : engine.evaluate request = .ok area)
    (found : request.attribute? id = some resolved) :
    area.released? id = some left ↔
      (∃ value, value ∈ left) ∧
        ∀ value, value ∈ left ↔
          value ∈ resolved.values ∧ engine.Releases request id resolved value := by
  rw [WorkArea.released?_eq_some_iff]
  refine and_congr_right fun _ => forall_congr' fun value => ?_
  rw [has_permit_iff evaluated found]
  by_cases member : value ∈ resolved.values
  · rw [has_deny_iff evaluated found member]
    simp only [member, true_and, Releases]
  · have notPermitted : ¬ engine.Permits request id resolved value :=
      fun permits => member (mem_of_permits permits)
    simp only [member, notPermitted, false_and]

/-- The attributes released from a work area: those of the request of which a value is released, with
just the values that are. -/
theorem find?_release_iff {released : Attribute} (evaluated : engine.evaluate request = .ok area) :
    (request.release area).find? id = some released ↔
      ∃ resolved, request.attribute? id = some resolved ∧
        (∃ value ∈ resolved.values, engine.Releases request id resolved value) ∧
        released = resolved.keep fun value => engine.Releases request id resolved value := by
  have keep_same {left : ValueSet} {resolved : Attribute} (mem_left : ∀ value, value ∈ left ↔
      value ∈ resolved.values ∧ engine.Releases request id resolved value) :
      resolved.keep (fun value => value ∈ left) =
        resolved.keep fun value => engine.Releases request id resolved value := by
    unfold Attribute.keep
    congr 1
    refine List.filter_congr fun value member => ?_
    simp only [mem_left, member, true_and]
  unfold Request.release
  rw [NameMap.find?_filterMap]
  constructor
  · intro isReleased
    obtain ⟨_, _, isKept⟩ := Option.bind_eq_some_iff.1 isReleased
    obtain ⟨resolved, found, rest⟩ := Option.bind_eq_some_iff.1 isKept
    obtain ⟨left, isLeft, ⟨⟩⟩ := Option.bind_eq_some_iff.1 rest
    obtain ⟨⟨value, member⟩, mem_left⟩ := (released?_eq_some_iff evaluated found).1 isLeft
    obtain ⟨inInput, releases⟩ := (mem_left value).1 member
    exact ⟨resolved, found, ⟨value, inInput, releases⟩, keep_same mem_left⟩
  · rintro ⟨resolved, found, ⟨value, inInput, releases⟩, rfl⟩
    have mem_left (other : Value) :
        other ∈ resolved.valuesWhere (fun value => engine.Releases request id resolved value) ↔
          other ∈ resolved.values ∧ engine.Releases request id resolved other := by
      rw [Attribute.mem_valuesWhere, decide_eq_true_iff]
    have isLeft := (released?_eq_some_iff evaluated found).2
      ⟨⟨value, (mem_left value).2 ⟨inInput, releases⟩⟩, mem_left⟩
    obtain ⟨permitted, isPermitted⟩ := WorkArea.exists_permitted_of_released isLeft
    refine Option.bind_eq_some_iff.2 ⟨permitted, isPermitted, ?_⟩
    refine Option.bind_eq_some_iff.2 ⟨resolved, found, ?_⟩
    exact Option.bind_eq_some_iff.2 ⟨_, isLeft, congrArg some (keep_same mem_left)⟩

/-- A pass that succeeds leaves what its work area releases. -/
theorem eq_of_filter_succeeded {context after : FilterContext}
    (succeeded : engine.filter context = (after, none)) :
    ∃ area, engine.evaluate context.request = .ok area ∧
      after = { context with workArea := area, released := context.request.release area } := by
  unfold filter at succeeded
  split at succeeded
  next area evaluated =>
    cases succeeded
    exact ⟨area, evaluated, rfl⟩
  next => cases succeeded

/-- A pass that succeeds applies all policies, and releases what is left then. -/
theorem exists_evaluate_of_succeeded {context : FilterContext}
    (succeeded : (engine.filter context).2 = none) :
    ∃ area, engine.evaluate context.request = .ok area ∧
      engine.filter context =
        ({ context with workArea := area, released := context.request.release area }, none) := by
  have filtered : engine.filter context = ((engine.filter context).1, none) :=
    Prod.ext rfl succeeded
  obtain ⟨area, evaluated, after⟩ := eq_of_filter_succeeded filtered
  exact ⟨area, evaluated, filtered.trans (by rw [after])⟩

/-- A pass that succeeds releases an attribute exactly if the request has it and one of its values is
released. What is released of it is the attribute of the request with these values, in their order
and with their repetitions. -/
theorem filter_releases_exactly (engine : Engine) {context after : FilterContext}
    (succeeded : engine.filter context = (after, none)) (id : String) :
    ((after.released.find? id).isSome = true ↔
      ∃ resolved, context.request.attribute? id = some resolved ∧
        ∃ value ∈ resolved.values, engine.Releases context.request id resolved value) ∧
    ∀ released, after.released.find? id = some released →
      ∃ resolved, context.request.attribute? id = some resolved ∧
        released.id = resolved.id ∧
        released.displayNames = resolved.displayNames ∧
        released.displayDescriptions = resolved.displayDescriptions ∧
        released.values = resolved.values.filter
          (fun value => engine.Releases context.request id resolved value) ∧
        released.values ≠ [] := by
  obtain ⟨area, evaluated, rfl⟩ := eq_of_filter_succeeded succeeded
  constructor
  · rw [Option.isSome_iff_exists]
    constructor
    · rintro ⟨released, isReleased⟩
      obtain ⟨resolved, found, some, _⟩ := (find?_release_iff evaluated).1 isReleased
      exact ⟨resolved, found, some⟩
    · rintro ⟨resolved, found, some⟩
      exact ⟨_, (find?_release_iff evaluated).2 ⟨resolved, found, some, rfl⟩⟩
  · intro released isReleased
    obtain ⟨resolved, found, ⟨value, member, releases⟩, rfl⟩ :=
      (find?_release_iff evaluated).1 isReleased
    refine ⟨resolved, found, rfl, rfl, rfl, rfl, ?_⟩
    exact List.ne_nil_of_mem (List.mem_filter.2 ⟨member, decide_eq_true releases⟩)

/-- Permits all affiliations and denies the one of staff. -/
def withoutStaff : Engine :=
  ⟨"example", [⟨"permit", .any, [⟨"affiliation", .permit, .any⟩]⟩,
    ⟨"deny", .any, [⟨"affiliation", .deny, .value (.exact "staff" false)⟩]⟩]⟩

/-- A request with two affiliations, one of them twice. -/
def affiliated : FilterContext :=
  .ofRequest { Request.blank with
    attributes := Request.byId
      [.ofValues "affiliation" [.string "member", .string "staff", .string "member"]] }

/-- Of the affiliations, the one that is not denied is released as often as it is there. -/
theorem withoutStaff_releases_members :
    (withoutStaff.filter affiliated).2 = none ∧
      ∃ released, (withoutStaff.filter affiliated).1.released.find? "affiliation" = some released ∧
        released.values = [.string "member", .string "member"] := by
  have succeeded : withoutStaff.filter affiliated = ((withoutStaff.filter affiliated).1, none) :=
    Prod.ext rfl (by decide)
  obtain ⟨isKey, isExact⟩ := filter_releases_exactly withoutStaff succeeded "affiliation"
  have present : affiliated.request.attribute? "affiliation" =
      some (.ofValues "affiliation" [.string "member", .string "staff", .string "member"]) := by
    decide
  obtain ⟨released, isReleased⟩ := Option.isSome_iff_exists.1
    (isKey.2 ⟨_, present, .string "member", by decide, by decide⟩)
  obtain ⟨resolved, found, _, _, _, values, _⟩ := isExact released isReleased
  cases present.symm.trans found
  refine ⟨by decide, released, isReleased, values.trans ?_⟩
  decide

end Engine

end AttributeRelease
