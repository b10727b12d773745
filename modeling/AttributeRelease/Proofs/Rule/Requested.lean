import AttributeRelease.Rule.Evaluation

/-!
# Attributes that the requester asks for

A requester may list in its metadata which attributes it asks for, with the values that it accepts.
Going through the list, each entry that is about the attribute adds the values that it accepts, so in
the end a value is selected if one entry admits it: `Matcher.select_requested`. Only a list without
entries counts as silence. A list in which no entry admits anything selects nothing.
-/

namespace AttributeRelease

namespace RequestedMatch

/-- A requested attribute admits a value of the attribute with an id. -/
structure Admits (sought : RequestedMatch) (id : String) (requested : RequestedAttribute)
    (value : Value) : Prop where
  name : requested.name = sought.attributeName.getD id ∨
    requested.friendlyName = some (sought.attributeName.getD id)
  format : ∀ format, sought.attributeNameFormat = some format →
    requested.nameFormat = some format
  required : sought.onlyIfRequired = true → requested.required = true
  value : requested.values = [] ∨ value.textForm ∈ requested.values

variable {sought : RequestedMatch} {resolved : Attribute} {requested : RequestedAttribute}
  {value : Value}

/-- A requested attribute is named by its name or friendly name, and by its format if one is
sought. -/
theorem isNamed_iff :
    sought.isNamed resolved requested = true ↔
      (requested.name = sought.attributeName.getD resolved.id ∨
        requested.friendlyName = some (sought.attributeName.getD resolved.id)) ∧
      ∀ format, sought.attributeNameFormat = some format →
        requested.nameFormat = some format := by
  have formatIff : (sought.attributeNameFormat.isNone ||
      requested.nameFormat == sought.attributeNameFormat) = true ↔
        ∀ format, sought.attributeNameFormat = some format →
          requested.nameFormat = some format := by
    cases sought.attributeNameFormat with
    | none => simp
    | some format => simp
  rw [isNamed, Bool.and_eq_true, formatIff]
  simp only [Bool.or_eq_true, beq_iff_eq]

/-- One entry of the list adds the values that it accepts, unless it is passed over. -/
theorem mem_contribute_iff {found : ValueSet} :
    value ∈ sought.contribute resolved found requested ↔
      value ∈ found ∨ value ∈ resolved.values ∧
        (sought.onlyIfRequired = true → requested.required = true) ∧
        (requested.values = [] ∨ value.textForm ∈ requested.values) := by
  unfold contribute
  split
  next passedOver =>
    have notRequired : ¬ (sought.onlyIfRequired = true → requested.required = true) := by
      simpa using passedOver
    exact ⟨.inl, fun member => member.resolve_right fun added => notRequired added.2.1⟩
  next counts =>
    have isRequired : sought.onlyIfRequired = true → requested.required = true := by
      simpa using counts
    split
    next acceptsAll =>
      have noValues : requested.values = [] := List.isEmpty_iff.1 acceptsAll
      rw [ValueSet.mem_union, Attribute.mem_valueSet, and_iff_left ⟨isRequired, .inl noValues⟩]
    next lists =>
      have someValues : requested.values ≠ [] := fun same => lists (List.isEmpty_iff.2 same)
      rw [ValueSet.mem_union, Attribute.mem_valuesWhere, List.contains_iff_mem,
        and_iff_right isRequired, or_iff_right someValues]

/-- After several entries, the values are those found before and those that one of the entries has
added. -/
theorem mem_foldl_contribute_iff {entries : List RequestedAttribute} {found : ValueSet} :
    value ∈ entries.foldl (sought.contribute resolved) found ↔
      value ∈ found ∨ value ∈ resolved.values ∧ ∃ requested ∈ entries,
        (sought.onlyIfRequired = true → requested.required = true) ∧
        (requested.values = [] ∨ value.textForm ∈ requested.values) := by
  induction entries generalizing found with
  | nil => simp
  | cons head rest ih =>
    rw [List.foldl_cons, ih, mem_contribute_iff, or_assoc, ← and_or_left]
    simp only [List.mem_cons, exists_eq_or_imp]

/-- A list that is not empty selects what one of its entries admits. -/
theorem mem_selectFor_iff {entity : Entity} (asks : entity.requested ≠ []) :
    value ∈ sought.selectFor (some entity) resolved ↔
      value ∈ resolved.values ∧
        ∃ requested ∈ entity.requested, sought.Admits resolved.id requested value := by
  have notEmpty : ¬ entity.requested.isEmpty = true := fun same => asks (List.isEmpty_iff.1 same)
  rw [selectFor, if_neg notEmpty, mem_foldl_contribute_iff, or_iff_right (ValueSet.not_mem_empty value)]
  refine and_congr_right fun _ => exists_congr fun requested => ?_
  rw [List.mem_filter, isNamed_iff, and_assoc]
  refine and_congr_right fun _ => ⟨?_, ?_⟩
  · rintro ⟨⟨name, format⟩, required, accepted⟩
    exact ⟨name, format, required, accepted⟩
  · rintro ⟨name, format, required, accepted⟩
    exact ⟨⟨name, format⟩, required, accepted⟩

/-- Silence selects all values or none. -/
theorem selectFor_of_silent {entity : Option Entity}
    (silent : ∀ known, entity = some known → known.requested = []) :
    sought.selectFor entity resolved = sought.silently resolved := by
  cases entity with
  | none => rfl
  | some known => rw [selectFor, silent known rfl, if_pos List.isEmpty_nil]

end RequestedMatch

namespace Matcher

/-- What is selected for a requester. Without metadata, and with metadata that lists no requested
attribute, all values are selected or none, as the matcher says for silence. Otherwise a value is
selected if one requested attribute admits it, so if none does, nothing is selected, whatever is said
for silence. -/
theorem select_requested (sought : RequestedMatch) (request : Request) (resolved : Attribute) :
    ((request.metadata? .requester = none ∨
        ∃ entity, request.metadata? .requester = some entity ∧ entity.requested = []) →
      (requested sought).select request resolved =
        .ok (if sought.matchIfSilent then .all resolved else .nothing)) ∧
    ∀ entity, request.metadata? .requester = some entity → entity.requested ≠ [] →
      ∃ values, (requested sought).select request resolved = .ok (.matched values) ∧
        (∀ value, value ∈ values ↔ value ∈ resolved.values ∧
          ∃ requested ∈ entity.requested, sought.Admits resolved.id requested value) ∧
        ((∀ requested ∈ entity.requested, ∀ value ∈ resolved.values,
          ¬ sought.Admits resolved.id requested value) → values = ∅) := by
  constructor
  · intro silent
    have asksNothing : ∀ known, request.metadata? .requester = some known →
        known.requested = [] := by
      intro known isKnown
      rcases silent with unknown | ⟨entity, found, noneRequested⟩
      · cases unknown.symm.trans isKnown
      · cases found.symm.trans isKnown
        exact noneRequested
    rw [select, RequestedMatch.select, RequestedMatch.selectFor_of_silent asksNothing,
      RequestedMatch.silently]
    cases sought.matchIfSilent <;> rfl
  · intro entity found asks
    have memIff : ∀ value, value ∈ sought.select request resolved ↔
        value ∈ resolved.values ∧
          ∃ requested ∈ entity.requested, sought.Admits resolved.id requested value := by
      intro value
      rw [RequestedMatch.select, found, RequestedMatch.mem_selectFor_iff asks]
    refine ⟨sought.select request resolved, rfl, memIff, fun noneAdmits => ?_⟩
    ext value
    refine iff_of_false (fun member => ?_) (ValueSet.not_mem_empty value)
    obtain ⟨inInput, entry, entryMember, admits⟩ := (memIff value).1 member
    exact noneAdmits entry entryMember value inInput admits

/-- A party that insists on one value of an attribute, and would like all of them. -/
def staffSeeker : Entity :=
  { Entity.ofId "https://sp.example.org" with
    requested := [⟨"urn:oid:1.3.6.1.4.1.5923.1.1.1.1", none, some "affiliation", true, ["staff"]⟩,
      ⟨"affiliation", none, none, false, []⟩] }

/-- A request from that party. -/
def soughtByStaffSeeker : Request :=
  { Request.blank with
    facts := { Facts.none with requester := some staffSeeker.id }
    resolve := fun _ => some staffSeeker }

/-- What is required by the requester, and everything if it asks for nothing. -/
def requiredOrAll : RequestedMatch := { RequestedMatch.default with matchIfSilent := true }

/-- Without metadata everything is selected, and of what the party asks for the value that it
insists on. -/
theorem requiredOrAll_selects :
    Request.blank.metadata? .requester = none ∧
      (requested requiredOrAll).select .blank (.ofValues "affiliation" [.string "student"]) =
        .ok (.all (.ofValues "affiliation" [.string "student"])) ∧
      soughtByStaffSeeker.metadata? .requester = some staffSeeker ∧ staffSeeker.requested ≠ [] ∧
      ∃ values, (requested requiredOrAll).select soughtByStaffSeeker
          (.ofValues "affiliation" [.string "student", .string "staff"]) = .ok (.matched values) ∧
        .string "staff" ∈ values ∧ .string "student" ∉ values := by
  have unknown : Request.blank.metadata? .requester = none := rfl
  have found : soughtByStaffSeeker.metadata? .requester = some staffSeeker := rfl
  have asks : staffSeeker.requested ≠ [] := List.cons_ne_nil _ _
  obtain ⟨values, selected, memIff, _⟩ := (select_requested requiredOrAll soughtByStaffSeeker
    (.ofValues "affiliation" [.string "student", .string "staff"])).2 staffSeeker found asks
  refine ⟨unknown, (select_requested requiredOrAll .blank _).1 (.inl unknown), found, asks,
    values, selected, (memIff _).2 ⟨by decide, _, List.mem_cons_self, ?_⟩, fun member => ?_⟩
  · exact ⟨.inr rfl, nofun, fun _ => rfl, .inr (by decide)⟩
  · obtain ⟨_, entry, entryMember, admits⟩ := (memIff _).1 member
    rcases List.mem_cons.1 entryMember with rfl | later
    · exact absurd admits.value (by decide)
    · cases List.mem_singleton.1 later
      exact absurd (admits.required rfl) (by decide)

end Matcher

end AttributeRelease
