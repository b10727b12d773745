import AttributeRelease.Proofs.Rule.Connective
import AttributeRelease.Proofs.Rule.Node
import AttributeRelease.Proofs.Rule.Observation

/-!
# Matchers judge values one by one

Without scripts, rules and matchers never fail, and what a matcher makes of one value depends on the
request and on the id of the attribute, but not on the other values. For each id there is a test, and
the values that pass it are selected, unless the matcher does not apply to the attribute at all:
`Matcher.select_judges_each_value`.
-/

namespace AttributeRelease

open Outcome

namespace Selection

/-- The values of an attribute that pass a test; without a test the selection does not apply. -/
def ofVerdict (resolved : Attribute) : Option (Value → Bool) → Selection
  | some passes => matched (resolved.valuesWhere passes)
  | none => notApplicable

variable {resolved : Attribute}

/-- A verdict has the values of the attribute that pass it. -/
theorem ofVerdict_has_iff {verdict : Option (Value → Bool)} {value : Value} :
    (ofVerdict resolved verdict).Has value ↔
      value ∈ resolved.values ∧ verdict.any (fun passes => passes value) = true := by
  cases verdict with
  | none => simp [ofVerdict, not_has_notApplicable]
  | some passes => simp [ofVerdict, has_matched_iff, Attribute.mem_valuesWhere]

/-- Everything is selected by a verdict that all values pass. -/
theorem all_eq_ofVerdict : all resolved = ofVerdict resolved (some fun _ => true) := by
  rw [all, ofVerdict, matched.injEq]
  ext value
  simp [Attribute.mem_valueSet, Attribute.mem_valuesWhere]

/-- Nothing is selected by a verdict that no value passes. -/
theorem nothing_eq_ofVerdict : nothing = ofVerdict resolved (some fun _ => false) := by
  rw [nothing, ofVerdict, matched.injEq]
  ext value
  simp [Attribute.mem_valuesWhere]

/-- All or nothing is selected by a verdict that is the same for all values. -/
theorem allIf_eq_ofVerdict {condition : Bool} :
    allIf resolved condition = ofVerdict resolved (some fun _ => condition) := by
  cases condition with
  | true => exact all_eq_ofVerdict
  | false => exact nothing_eq_ofVerdict

/-- The selection for an outcome is by a verdict for all attributes. -/
theorem exists_ofOutcome_eq_ofVerdict (outcome : Tristate) :
    ∃ verdict, ∀ resolved, ofOutcome resolved outcome = ofVerdict resolved verdict := by
  cases outcome with
  | true => exact ⟨_, fun _ => all_eq_ofVerdict⟩
  | false => exact ⟨_, fun _ => nothing_eq_ofVerdict⟩
  | fail => exact ⟨none, fun _ => rfl⟩

/-- The complement is by the opposite verdict. -/
theorem complement_ofVerdict {verdict : Option (Value → Bool)} :
    (ofVerdict resolved verdict).complement resolved =
      ofVerdict resolved (verdict.map fun passes value => !passes value) := by
  cases verdict with
  | none => rfl
  | some passes =>
    rw [ofVerdict, complement, Option.map_some, ofVerdict, matched.injEq]
    ext value
    simp only [Attribute.mem_valuesWhere, decide_eq_true_iff, Bool.not_eq_true', not_and,
      Bool.not_eq_true]
    exact and_congr_right fun member => ⟨fun excluded => excluded member, fun fails _ => fails⟩

/-- What several tests have in common with one before them. -/
theorem exists_commonWith_ofVerdict (found : Value → Bool)
    (verdicts : List (Option (Value → Bool))) :
    ∃ verdict, ∀ resolved,
      commonWith (resolved.valuesWhere found) (verdicts.map (ofVerdict resolved)) =
        ofVerdict resolved verdict := by
  induction verdicts generalizing found with
  | nil => exact ⟨some found, fun _ => rfl⟩
  | cons head rest ih =>
    cases head with
    | none => exact ⟨_, fun _ => nothing_eq_ofVerdict⟩
    | some passes =>
      obtain ⟨verdict, same⟩ := ih fun value => found value && passes value
      refine ⟨verdict, fun resolved => ?_⟩
      rw [← same, List.map_cons, ofVerdict, commonWith]
      congr 1
      ext value
      simp only [ValueSet.mem_inter, Attribute.mem_valuesWhere, Bool.and_eq_true]
      exact and_and_left.symm

/-- What is common to verdicts is by a verdict for all attributes. -/
theorem exists_common_ofVerdict (verdicts : List (Option (Value → Bool))) :
    ∃ verdict, ∀ resolved,
      common (verdicts.map (ofVerdict resolved)) = ofVerdict resolved verdict := by
  match verdicts with
  | [] | none :: _ => exact ⟨_, fun _ => nothing_eq_ofVerdict⟩
  | some passes :: rest => exact exists_commonWith_ofVerdict passes rest

/-- What passes one of several tests or one before them. -/
theorem exists_joinedWith_ofVerdict (found : Value → Bool)
    (verdicts : List (Option (Value → Bool))) :
    ∃ verdict, ∀ resolved,
      joinedWith (resolved.valuesWhere found) (verdicts.map (ofVerdict resolved)) =
        ofVerdict resolved verdict := by
  induction verdicts generalizing found with
  | nil => exact ⟨some found, fun _ => rfl⟩
  | cons head rest ih =>
    cases head with
    | none => exact ⟨none, fun _ => rfl⟩
    | some passes =>
      obtain ⟨verdict, same⟩ := ih fun value => found value || passes value
      refine ⟨verdict, fun resolved => ?_⟩
      rw [← same, List.map_cons, ofVerdict, joinedWith]
      congr 1
      ext value
      simp only [ValueSet.mem_union, Attribute.mem_valuesWhere, Bool.or_eq_true, and_or_left]

/-- What verdicts come to when joined is by a verdict for all attributes. -/
theorem exists_joined_ofVerdict (verdicts : List (Option (Value → Bool))) :
    ∃ verdict, ∀ resolved,
      joined (verdicts.map (ofVerdict resolved)) = ofVerdict resolved verdict := by
  obtain ⟨verdict, same⟩ := exists_joinedWith_ofVerdict (fun _ => false) verdicts
  refine ⟨verdict, fun resolved => ?_⟩
  have none : resolved.valuesWhere (fun _ => false) = ∅ := by
    ext value
    simp [Attribute.mem_valuesWhere]
  rw [joined, ← none, same]

end Selection

variable {request : Request}

/-- A matcher passes its verdict on every value of attributes with an id. -/
def Matcher.HasVerdict (request : Request) (id : String) (matcher : Matcher)
    (verdict : Option (Value → Bool)) : Prop :=
  ∀ resolved, resolved.id = id → matcher.select request resolved = .ok (.ofVerdict resolved verdict)

/-- Matchers with verdicts select by these. -/
theorem exists_selectAll_ofVerdict {matchers : List Matcher} {id : String}
    (judged : ∀ matcher ∈ matchers, ∃ verdict, matcher.HasVerdict request id verdict) :
    ∃ verdicts : List (Option (Value → Bool)), ∀ resolved, resolved.id = id →
      selectAll request resolved matchers = .ok (verdicts.map (Selection.ofVerdict resolved)) := by
  induction matchers with
  | nil => exact ⟨[], fun _ _ => rfl⟩
  | cons matcher rest ih =>
    obtain ⟨⟨verdict, selected⟩, restJudged⟩ := List.forall_mem_cons.1 judged
    obtain ⟨verdicts, othersSelected⟩ := ih restJudged
    refine ⟨verdict :: verdicts, fun resolved named => ?_⟩
    rw [selectAll, selected resolved named, othersSelected resolved named]
    rfl

/-- What the requester asks for is settled by the id of an attribute, value by value. -/
theorem RequestedMatch.exists_verdict (sought : RequestedMatch) (id : String) :
    ∃ verdict, (Matcher.requested sought).HasVerdict request id verdict := by
  by_cases silent : ∀ known, request.metadata? .requester = some known → known.requested = []
  · refine ⟨some fun _ => sought.matchIfSilent, fun resolved _ => ?_⟩
    rw [← Selection.allIf_eq_ofVerdict, Matcher.select, select, selectFor_of_silent silent, silently,
      Selection.allIf]
    cases sought.matchIfSilent <;> rfl
  · push Not at silent
    obtain ⟨entity, found, asks⟩ := silent
    classical
    refine ⟨some fun value =>
      decide (∃ requested ∈ entity.requested, sought.Admits id requested value),
      fun resolved named => ?_⟩
    rw [Matcher.select, select, found, Selection.ofVerdict, Except.ok.injEq,
      Selection.matched.injEq]
    ext value
    rw [mem_selectFor_iff asks, Attribute.mem_valuesWhere, decide_eq_true_iff, named]

namespace Node

/-- A rule has an outcome, and a matcher a verdict for every id. -/
def Decides (request : Request) : Node → Prop
  | rule r => ∃ outcome, r.evaluate request = .ok outcome
  | matcher m => ∀ id, ∃ verdict, m.HasVerdict request id verdict

/-- Only a script can fail, and only a script can look at all values at once. -/
theorem decides_of_noScript (request : Request) (node : Node)
    (noScript : ∀ inner ∈ node.nodes, inner.isScript = false) :
    node.Decides request := by
  induction node using induction with
  | step node ih =>
    obtain ⟨here, inParts⟩ := forall_mem_nodes_iff.1 noScript
    have partsDecide : ∀ part ∈ node.parts, part.Decides request :=
      fun part member => ih part member (inParts part member)
    match node with
    | rule .any | rule .none | rule (.fact _ _) | rule (.valueCount _) | rule (.metadata _) =>
      exact ⟨_, rfl⟩
    | rule (.and rules) =>
      obtain ⟨outcomes, evaluated⟩ := exists_mapM_eq_ok_iff.2 fun part member =>
        partsDecide (rule part) (List.mem_map_of_mem member)
      exact ⟨_, Rule.evaluate_and_of_outcomes evaluated⟩
    | rule (.or rules) =>
      obtain ⟨outcomes, evaluated⟩ := exists_mapM_eq_ok_iff.2 fun part member =>
        partsDecide (rule part) (List.mem_map_of_mem member)
      exact ⟨_, Rule.evaluate_or_of_outcomes evaluated⟩
    | rule (.not part) =>
      obtain ⟨outcome, evaluated⟩ := partsDecide (rule part) List.mem_cons_self
      refine ⟨outcome.not, ?_⟩
      rw [Rule.evaluate, evaluated]
      rfl
    | rule (.attributeValues id part) =>
      cases found : request.attribute? id with
      | none => exact ⟨.false, by simp only [Rule.evaluate, found]⟩
      | some resolved =>
        obtain ⟨verdict, selected⟩ := partsDecide (matcher part) List.mem_cons_self resolved.id
        refine ⟨(Selection.ofVerdict resolved verdict).toOutcome, ?_⟩
        simp only [Rule.evaluate, found, selected resolved rfl]
        rfl
    | rule (.script _) | matcher (.script _) => cases here
    | matcher .any => exact fun _ => ⟨_, fun _ _ => congrArg _ Selection.all_eq_ofVerdict⟩
    | matcher (.value test) => exact fun _ => ⟨some test.acceptsValue, fun _ _ => rfl⟩
    | matcher (.scope test) => exact fun _ => ⟨some test.acceptsScope, fun _ _ => rfl⟩
    | matcher (.and matchers) =>
      intro id
      obtain ⟨verdicts, selected⟩ := exists_selectAll_ofVerdict fun part member =>
        partsDecide (matcher part) (List.mem_map_of_mem member) id
      obtain ⟨verdict, same⟩ := Selection.exists_common_ofVerdict verdicts
      refine ⟨verdict, fun resolved named => ?_⟩
      rw [Matcher.select, selected resolved named, ← same]
      rfl
    | matcher (.or matchers) =>
      intro id
      obtain ⟨verdicts, selected⟩ := exists_selectAll_ofVerdict fun part member =>
        partsDecide (matcher part) (List.mem_map_of_mem member) id
      obtain ⟨verdict, same⟩ := Selection.exists_joined_ofVerdict verdicts
      refine ⟨verdict, fun resolved named => ?_⟩
      rw [Matcher.select, selected resolved named, ← same]
      rfl
    | matcher (.not part) =>
      intro id
      obtain ⟨verdict, selected⟩ := partsDecide (matcher part) List.mem_cons_self id
      refine ⟨verdict.map fun passes value => !passes value, fun resolved named => ?_⟩
      rw [Matcher.select, selected resolved named]
      exact congrArg _ Selection.complement_ofVerdict
    | matcher (.metadata check) =>
      exact fun _ => ⟨_, fun resolved _ => congrArg _ Selection.allIf_eq_ofVerdict⟩
    | matcher (.requested sought) =>
      exact fun id => sought.exists_verdict id
    | matcher (.fromRule part) =>
      obtain ⟨outcome, evaluated⟩ := partsDecide (rule part) List.mem_cons_self
      obtain ⟨verdict, same⟩ := Selection.exists_ofOutcome_eq_ofVerdict outcome
      refine fun _ => ⟨verdict, fun resolved _ => ?_⟩
      rw [Matcher.select, evaluated, ← same]
      rfl

end Node

/-- A matcher without scripts judges values one by one. Either it does not apply to any attribute with
an id, or there is a test such that it selects of every attribute with that id just the values that
pass. What becomes of a value is therefore the same in all lists of values that it stands in. -/
theorem Matcher.select_judges_each_value (matcher : Matcher) (request : Request) (id : String)
    (noScript : ∀ node ∈ matcher.nodes, node.isScript = false) :
    ((∀ resolved : Attribute, resolved.id = id →
        matcher.select request resolved = .ok .notApplicable) ∨
      ∃ passes : Value → Bool, ∀ resolved : Attribute, resolved.id = id →
        ∃ values, matcher.select request resolved = .ok (.matched values) ∧
          ∀ value, value ∈ values ↔ value ∈ resolved.values ∧ passes value = true) ∧
    ∀ (first second : Attribute) (selected others : Selection),
      first.id = id → second.id = id →
      matcher.select request first = .ok selected → matcher.select request second = .ok others →
        ∀ value ∈ first.values, value ∈ second.values → (selected.Has value ↔ others.Has value) := by
  obtain ⟨verdict, judged⟩ := (Node.matcher matcher).decides_of_noScript request noScript id
  constructor
  · cases verdict with
    | none => exact .inl judged
    | some passes =>
      refine .inr ⟨passes, fun resolved named => ⟨_, judged resolved named, fun value => ?_⟩⟩
      exact Attribute.mem_valuesWhere
  · intro first second selected others firstNamed secondNamed firstSelected secondSelected
    cases (judged first firstNamed).symm.trans firstSelected
    cases (judged second secondNamed).symm.trans secondSelected
    intro value inFirst inSecond
    rw [Selection.ofVerdict_has_iff, Selection.ofVerdict_has_iff]
    simp only [inFirst, inSecond, true_and]

/-- Selects all values but one, and that one too for a certain requester if there is a name. -/
def withoutStaffUnlessKnown : Matcher :=
  .or [.not (.value (.exact "staff" false)),
    .fromRule (.and [.valueCount ⟨"uid", some 1, none⟩,
      .fact .requester (.exact "https://sp.example.org" false)])]

/-- A request with a name from another requester. -/
def namedElsewhere : Request :=
  { Request.blank with
    attributes := Request.byId [.ofValues "uid" [.string "jsmith"]]
    facts := { Facts.none with requester := some "https://idp.example.org" } }

/-- The matcher passes one verdict on every attribute with that id. -/
theorem withoutStaffUnlessKnown_judges :
    (∀ node ∈ withoutStaffUnlessKnown.nodes, node.isScript = false) ∧
      ∃ passes : Value → Bool, ∀ resolved : Attribute, resolved.id = "affiliation" →
        ∃ values,
          withoutStaffUnlessKnown.select namedElsewhere resolved = .ok (.matched values) ∧
            ∀ value, value ∈ values ↔ value ∈ resolved.values ∧ passes value = true := by
  have noScript : ∀ node ∈ withoutStaffUnlessKnown.nodes, node.isScript = false := by decide
  refine ⟨noScript, (Matcher.select_judges_each_value withoutStaffUnlessKnown namedElsewhere
    "affiliation" noScript).1.resolve_left fun neverApplies => ?_⟩
  exact absurd (neverApplies (.ofValues "affiliation" []) rfl) (by decide)

end AttributeRelease
