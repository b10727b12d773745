import AttributeRelease.Proofs.Engine.Scriptless

/-!
# Filtering what was released

An engine whose rules ask neither scripts nor attributes judges each value on its own. A second pass
over what a first one released releases all of it again, and nothing else.
-/

namespace AttributeRelease

namespace Request

/-- If no two attributes have one id, each is found under its own, and nothing else changes. -/
theorem find?_foldl_insert_iff {attributes : List Attribute}
    (distinct : attributes.Pairwise fun left right => left.id ≠ right.id) {map : NameMap Attribute}
    {id : String} {resolved : Attribute} :
    (attributes.foldl (fun map resolved => map.insert resolved.id resolved) map).find? id =
        some resolved ↔
      (resolved ∈ attributes ∧ resolved.id = id) ∨
        (∀ other ∈ attributes, other.id ≠ id) ∧ map.find? id = some resolved := by
  induction attributes generalizing map with
  | nil => simp
  | cons head rest ih =>
    obtain ⟨first, restDistinct⟩ := List.pairwise_cons.1 distinct
    rw [List.foldl_cons, ih restDistinct, NameMap.find?_insert, List.forall_mem_cons, List.mem_cons]
    by_cases same : head.id = id
    · subst same
      have others : ∀ other ∈ rest, other.id ≠ head.id :=
        fun other member => (first other member).symm
      simp only [if_true, Option.some.injEq, ne_eq, not_true_eq_false, false_and, or_false]
      constructor
      · rintro (⟨member, named⟩ | ⟨_, rfl⟩)
        · exact ⟨.inr member, named⟩
        · exact ⟨.inl rfl, rfl⟩
      · rintro ⟨rfl | member, named⟩
        · exact .inr ⟨others, rfl⟩
        · exact .inl ⟨member, named⟩
    · simp only [ne_eq, same, not_false_eq_true, true_and, if_false]
      refine or_congr_left (and_congr_left fun named => (or_iff_right ?_).symm)
      rintro rfl
      exact same named

/-- Attributes are found under their own ids. -/
theorem id_of_find?_foldl_insert {attributes : List Attribute} {map : NameMap Attribute}
    {id : String} {resolved : Attribute}
    (found : (attributes.foldl (fun map resolved => map.insert resolved.id resolved) map).find? id =
      some resolved) :
    resolved.id = id ∨ map.find? id = some resolved := by
  induction attributes generalizing map with
  | nil => exact .inr found
  | cons head rest ih =>
    rcases ih found with named | earlier
    · exact .inl named
    · rw [NameMap.find?_insert] at earlier
      split at earlier
      next same =>
        cases earlier
        exact .inl same
      next => exact .inr earlier

/-- What is found under an id has that id. -/
theorem id_of_find?_byId {attributes : List Attribute} {id : String} {resolved : Attribute}
    (found : (byId attributes).find? id = some resolved) : resolved.id = id :=
  (id_of_find?_foldl_insert found).resolve_right nofun

/-- Attributes that are known by their ids are the same by their ids again. -/
theorem byId_values {map : NameMap Attribute}
    (keyed : ∀ id resolved, map.find? id = some resolved → resolved.id = id) :
    byId map.values = map := by
  have entryKeyed : ∀ entry ∈ map.entries, entry.2.id = entry.1 := fun entry member =>
    keyed entry.1 entry.2 (NameMap.find?_eq_some_iff.2 member)
  have distinct : map.values.Pairwise fun left right => left.id ≠ right.id := by
    refine List.pairwise_map.2 (map.ascending.imp_of_mem ?_)
    intro left right leftMember rightMember less
    rw [entryKeyed left leftMember, entryKeyed right rightMember]
    exact String.ne_of_lt less
  ext id resolved
  rw [byId, find?_foldl_insert_iff distinct, or_iff_left (fun ⟨_, found⟩ => nomatch found),
    NameMap.find?_eq_some_iff, NameMap.values, List.mem_map]
  constructor
  · rintro ⟨⟨⟨name, _⟩, member, rfl⟩, named⟩
    rw [← named, entryKeyed _ member]
    exact member
  · intro member
    exact ⟨⟨_, member, rfl⟩, entryKeyed _ member⟩

end Request

variable {request again : Request} {id : String} {resolved kept : Attribute} {value : Value}

namespace AttributeRule

variable {rule : AttributeRule} {verdict : Option (Value → Bool)}

/-- A matcher with a verdict selects the values that pass it. -/
theorem selects_iff_of_hasVerdict (judged : rule.matcher.HasVerdict request id verdict)
    (named : resolved.id = id) (member : value ∈ resolved.values) :
    rule.Selects request resolved value ↔ ∃ passes, verdict = some passes ∧ passes value = true := by
  unfold Selects
  rw [judged resolved named]
  cases verdict with
  | none => simp [Selection.ofVerdict]
  | some passes => simp [Selection.ofVerdict, Attribute.mem_valuesWhere, member]

/-- A matcher with a verdict does not apply exactly if the verdict is none. -/
theorem notApplicable_iff_of_hasVerdict (judged : rule.matcher.HasVerdict request id verdict)
    (named : resolved.id = id) :
    rule.matcher.select request resolved = .ok .notApplicable ↔ verdict = none := by
  rw [judged resolved named]
  cases verdict <;> simp [Selection.ofVerdict]

end AttributeRule

namespace Engine

variable {engine : Engine}

/-- On requests that are the same to an engine the same rules are active. -/
theorem hasActiveRule_congr (same : engine.SameOn request again)
    {left right : AttributeRule → Prop}
    (ruleSame : ∀ policy ∈ engine.policies, ∀ rule ∈ policy.rules, (left rule ↔ right rule)) :
    HasActiveRule engine.policies request left ↔ HasActiveRule engine.policies again right := by
  have requirementSame : ∀ policy ∈ engine.policies,
      policy.requirement.evaluate request = policy.requirement.evaluate again :=
    fun policy member => (same policy member).1
  constructor
  · exact fun active => active.mono fun policy member isTrue =>
      ⟨requirementSame policy member ▸ isTrue, fun rule ruleMember =>
        (ruleSame policy member rule ruleMember).1⟩
  · exact fun active => active.mono fun policy member isTrue =>
      ⟨(requirementSame policy member).symm ▸ isTrue, fun rule ruleMember =>
        (ruleSame policy member rule ruleMember).2⟩

/-- Values that are left of an attribute are judged as they were with the others. -/
theorem releases_keep_iff (noScript : ∀ node ∈ engine.nodes, node.isScript = false)
    (same : engine.SameOn request again) {passes : Value → Bool}
    (member : value ∈ (resolved.keep passes).values) :
    engine.Releases again id (resolved.keep passes) value ↔
      engine.Releases request id resolved value := by
  have inResolved : value ∈ resolved.values := (List.mem_filter.1 member).1
  have keptNamed : (resolved.keep passes).id = resolved.id := rfl
  have ruleSame : ∀ policy ∈ engine.policies, ∀ rule ∈ policy.rules,
      (rule.Selects request resolved value ↔ rule.Selects again (resolved.keep passes) value) ∧
      (rule.matcher.select request resolved = .ok .notApplicable ↔
        rule.matcher.select again (resolved.keep passes) = .ok .notApplicable) := by
    intro policy policyMember rule ruleMember
    obtain ⟨verdict, judged⟩ := Node.decides_of_noScript request _
      (forall_mem_matcher noScript policyMember ruleMember) resolved.id
    have matcherSame := (same policy policyMember).2 rule ruleMember
    have judgedAgain : rule.matcher.HasVerdict again resolved.id verdict :=
      fun other named => (matcherSame other).symm.trans (judged other named)
    rw [AttributeRule.selects_iff_of_hasVerdict judged rfl inResolved,
      AttributeRule.selects_iff_of_hasVerdict judgedAgain keptNamed member,
      AttributeRule.notApplicable_iff_of_hasVerdict judged rfl,
      AttributeRule.notApplicable_iff_of_hasVerdict judgedAgain keptNamed]
    exact ⟨Iff.rfl, Iff.rfl⟩
  refine (and_congr (hasActiveRule_congr same ?_) (not_congr (hasActiveRule_congr same ?_))).symm
  · intro policy policyMember rule ruleMember
    simp only [AttributeRule.Permits, (ruleSame policy policyMember rule ruleMember).1]
  · intro policy policyMember rule ruleMember
    simp only [AttributeRule.Denies, (ruleSame policy policyMember rule ruleMember).1,
      (ruleSame policy policyMember rule ruleMember).2]

/-- All values of a released attribute would be released again. -/
theorem releases_of_find?_release {area : WorkArea}
    (noScript : ∀ node ∈ engine.nodes, node.isScript = false) (same : engine.SameOn request again)
    (evaluated : engine.evaluate request = .ok area)
    (isReleased : (request.release area).find? id = some kept) :
    kept.values ≠ [] ∧ ∀ value ∈ kept.values, engine.Releases again id kept value := by
  obtain ⟨resolved, _, ⟨value, member, releases⟩, rfl⟩ := (find?_release_iff evaluated).1 isReleased
  constructor
  · exact List.ne_nil_of_mem (List.mem_filter.2 ⟨member, decide_eq_true releases⟩)
  · intro other otherMember
    refine (releases_keep_iff noScript same otherMember).2 ?_
    exact of_decide_eq_true (List.mem_filter.1 otherMember).2

/-- What a pass released is released again from a request that has nothing else. -/
theorem release_release {area areaAgain : WorkArea}
    (noScript : ∀ node ∈ engine.nodes, node.isScript = false) (same : engine.SameOn request again)
    (evaluated : engine.evaluate request = .ok area)
    (evaluatedAgain : engine.evaluate again = .ok areaAgain)
    (attributes : again.attributes = request.release area) :
    again.release areaAgain = request.release area := by
  have keep_eq {id : String} {kept : Attribute}
      (isReleased : (request.release area).find? id = some kept) :
      (kept.keep fun value => engine.Releases again id kept value) = kept := by
    have all := (releases_of_find?_release noScript same evaluated isReleased).2
    rw [Attribute.keep, List.filter_eq_self.2 fun value member => decide_eq_true (all value member)]
  ext id released
  rw [find?_release_iff evaluatedAgain, Request.attribute?, attributes]
  constructor
  · rintro ⟨kept, isReleased, -, rfl⟩
    rw [keep_eq isReleased, isReleased]
  · intro isReleased
    obtain ⟨someValue, all⟩ := releases_of_find?_release noScript same evaluated isReleased
    obtain ⟨value, member⟩ := List.exists_mem_of_ne_nil _ someValue
    exact ⟨released, isReleased, ⟨value, member, all value member⟩, (keep_eq isReleased).symm⟩

/-- Filtering what an engine released releases the same again, if the engine has no scripts and asks
about no attributes. -/
theorem filter_released_again (engine : Engine) {context : FilterContext}
    {attributes : List Attribute} (input : context.request.attributes = Request.byId attributes)
    (noScript : ∀ node ∈ engine.nodes, node.isScript = false)
    (noAttribute : ∀ node ∈ engine.nodes, node.attributeId? = none) :
    (engine.filter context).2 = none ∧
      ∃ again, engine.filter (.ofRequest { context.request with
          attributes := Request.byId (engine.filter context).1.released.values }) = (again, none) ∧
        again.released = (engine.filter context).1.released := by
  obtain ⟨area, evaluated, filtered⟩ := exists_evaluate noScript context
  have keyed : ∀ id released, (context.request.release area).find? id = some released →
      released.id = id := by
    intro id released isReleased
    obtain ⟨resolved, found, _, rfl⟩ := (find?_release_iff evaluated).1 isReleased
    rw [Request.attribute?, input] at found
    exact (Request.id_of_find?_byId found :)
  rw [filtered]
  dsimp only
  rw [Request.byId_values keyed]
  have same : engine.SameOn context.request
      { context.request with attributes := context.request.release area } :=
    sameOn_of_attributes rfl rfl noScript fun node member id named =>
      nomatch (noAttribute node member).symm.trans named
  obtain ⟨areaAgain, evaluatedAgain, filteredAgain⟩ := exists_evaluate noScript
    (.ofRequest { context.request with attributes := context.request.release area })
  exact ⟨rfl, _, filteredAgain, release_release noScript same evaluated evaluatedAgain rfl⟩

/-- Of what the engine that withholds staff releases, it releases all again. -/
theorem withoutStaff_released_again :
    (withoutStaff.filter affiliated).2 = none ∧
      ∃ again, withoutStaff.filter (.ofRequest { affiliated.request with
          attributes := Request.byId (withoutStaff.filter affiliated).1.released.values }) =
            (again, none) ∧
        again.released = (withoutStaff.filter affiliated).1.released :=
  filter_released_again withoutStaff rfl (by decide) (by decide)

end Engine

end AttributeRelease
