import AttributeRelease.Config.RuleForm
import AttributeRelease.Proofs.Compile.Clause
import AttributeRelease.Proofs.Tree.Order

/-!
# Written rules and matchers

A rule or matcher is what the tree written for it denotes. The tag of the tree leads to the reader
of its kind, which finds the fields of that kind and no others; the clauses within are read by
induction.
-/

namespace AttributeRelease

namespace Reading

open AttributeRelease.Tree

variable {place inside : Place} {tree : Tree} {α : Type}

@[simp] theorem ofTree_tree (place : Place) (tree : Tree) : (ofTree place tree).tree = tree := by
  cases tree <;> rfl

/-- A list is read in place item by item. -/
theorem ofTrees_eq (place : Place) (items : List Tree) :
    ofTrees place items = items.map (ofTree place) := by
  induction items with
  | nil => rfl
  | cons item rest ih => rw [ofTrees, ih, List.map_cons]

/-- A table is read in place field by field. -/
theorem ofFields_eq (place : Place) (fields : List (String × Tree)) :
    ofFields place fields = fields.map fun field => (field.1, ofTree place field.2) := by
  induction fields with
  | nil => rfl
  | cons field rest ih => rw [ofFields, ih, List.map_cons]

/-- What a table holds is read part by part. -/
theorem written_ofFields (place : Place) {fields written : List (String × Tree)}
    (reorder : FieldsReorder id fields written) (distinct : (written.map (·.1)).Nodup) :
    Written (ofTree place) (ofFields place fields) written := by
  obtain ⟨ordered, order, inStep⟩ := reorder
  rw [ofFields_eq]
  refine ⟨⟨_, order.map _, List.forall₂_map_left_iff.2 (inStep.imp ?_)⟩, distinct⟩
  rintro field other ⟨sameName, shown⟩
  exact ⟨sameName, field.2, shows_id_iff.1 shown, rfl⟩

/-- The reading of a part is read like the part itself. -/
theorem reads_tree {read : Tree → Option α} {value : α} (reads : Reads read tree value) :
    Reads (fun tree => read (ofTree place tree).tree) tree value := by
  simpa only [ofTree_tree] using reads

/-- A count is read back, and so is its absence. -/
theorem reads_countOrNull (count : Option UInt64) :
    Reads (fun tree => countOrNull? (ofTree place tree)) (.ofCount? count) count := by
  refine reads_tree ?_
  cases count with
  | none => exact reads_null _
  | some count =>
    exact ((reads_natural count.toNat_lt).map UInt64.ofNat_toNat).nullable nofun

/-- A party is read back from its name. -/
theorem reads_party (party : Party) :
    Reads (fun tree => party? place (ofTree inside tree)) (.text party.name) party :=
  reads_tree ((reads_constant place party.name).bind (by cases party <;> rfl))

section Choices

variable {kind : String} {written : List (String × Tree)}

/-- The tree of a choice is taken apart into its tag and the fields of its kind. -/
theorem exists_tagged (place : Place) (distinct : ("type" :: written.map (·.1)).Nodup)
    (reorders : tree.Reorders (.tagged kind written)) :
    ∃ fields body, tree = .table fields ∧ Written (ofTree place) body written ∧
      (Holder.table (ofFields place fields)).tagged? "type" =
        some (scalar (.text kind), .table body) := by
  obtain ⟨fields, rfl, reorder⟩ := reorders_table_iff.1 reorders
  obtain ⟨tag, body, isTag, isBody, isTagged⟩ := (written_ofFields place reorder distinct).tagged?
  cases isTag
  exact ⟨fields, body, rfl, isBody, isTagged⟩

/-- A text that names a kind is the tag of that kind. -/
theorem tag?_text {names : List String} (place : Place) (isKind : kind ∈ names) :
    (Tree.text kind).tag? place names = some kind := by
  rw [tag?, if_pos (List.contains_iff_mem.2 isKind)]

/-- A rule is read by the reader of its kind. -/
theorem reads_rule {rule : RuleSpec} (isKind : kind ∈ ruleKinds)
    (distinct : ("type" :: written.map (·.1)).Nodup)
    (ofKind : ∀ body, Written (ofTree { place with inChoice := true }) body written →
      ruleOfKind? { place with inChoice := true } (.table body) kind = some rule) :
    Reads (fun tree => (ofTree place tree).rule) (.tagged kind written) rule := by
  intro other reorders
  obtain ⟨fields, body, rfl, isBody, isTagged⟩ := exists_tagged _ distinct reorders
  change ruleOf? place (.table (ofFields _ fields)) = some rule
  exact step isTagged (step (tag?_text place isKind) (ofKind body isBody))

/-- A matcher is read by the reader of its kind. -/
theorem reads_matcher {matcher : MatcherSpec} (isKind : kind ∈ matcherKinds)
    (distinct : ("type" :: written.map (·.1)).Nodup)
    (ofKind : ∀ body, Written (ofTree { place with inChoice := true }) body written →
      matcherOfKind? { place with inChoice := true } (.table body) kind = some matcher) :
    Reads (fun tree => (ofTree place tree).matcher) (.tagged kind written) matcher := by
  intro other reorders
  obtain ⟨fields, body, rfl, isBody, isTagged⟩ := exists_tagged _ distinct reorders
  change matcherOf? place (.table (ofFields _ fields)) = some matcher
  exact step isTagged (step (tag?_text place isKind) (ofKind body isBody))

end Choices

section Tests

variable {body : Content} {written : List (String × Tree)} {name text pattern : String}

/-- A comparison with a text is read from the text and from whether case is ignored. -/
theorem textTest?_eq {ignoreCase : Bool} (isBody : Written (ofTree place) body written)
    (hasText : (name, .text text) ∈ written)
    (hasCase : ("case_insensitive", .bool ignoreCase) ∈ written) :
    textTest? body name = some (.text text ignoreCase) :=
  step (isBody.required hasText (reads_tree (reads_text text)))
    (step (isBody.defaulted hasCase (reads_tree (reads_bool ignoreCase))) rfl)

/-- A comparison with a pattern is read from the pattern. -/
theorem patternTest?_eq (isBody : Written (ofTree place) body written)
    (hasPattern : ("regex", .text pattern) ∈ written) :
    patternTest? body = some (.pattern pattern) :=
  step (isBody.required hasPattern (reads_tree (reads_text pattern))) rfl

end Tests

/-- Rules are written one after the other. -/
theorem ruleTrees_eq (rules : List RuleSpec) : ruleTrees rules = rules.map RuleSpec.toTree := by
  induction rules with
  | nil => rfl
  | cons rule rest ih => rw [ruleTrees, ih, List.map_cons]

/-- Matchers are written one after the other. -/
theorem matcherTrees_eq (matchers : List MatcherSpec) :
    matcherTrees matchers = matchers.map MatcherSpec.toTree := by
  induction matchers with
  | nil => rfl
  | cons matcher rest ih => rw [matcherTrees, ih, List.map_cons]

/-- A list of rules is read back if each rule is. -/
theorem reads_rules {rules : List RuleSpec}
    (each : ∀ rule ∈ rules, ∀ place, Reads (fun tree => (ofTree place tree).rule) rule.toTree rule) :
    Reads (fun tree => (ofTree place tree).rules) (.list (ruleTrees rules)) rules := by
  rw [ruleTrees_eq]
  intro other reorders
  obtain ⟨items, rfl, _⟩ := reorders_list_iff.1 reorders
  change (ofTrees _ items).mapM (·.rule) = some rules
  rw [ofTrees_eq, List.mapM_map]
  exact reads_list (fun rule member => each rule member _) _ reorders

/-- A list of matchers is read back if each matcher is. -/
theorem reads_matchers {matchers : List MatcherSpec}
    (each : ∀ matcher ∈ matchers, ∀ place,
      Reads (fun tree => (ofTree place tree).matcher) matcher.toTree matcher) :
    Reads (fun tree => (ofTree place tree).matchers) (.list (matcherTrees matchers)) matchers := by
  rw [matcherTrees_eq]
  intro other reorders
  obtain ⟨items, rfl, _⟩ := reorders_list_iff.1 reorders
  change (ofTrees _ items).mapM (·.matcher) = some matchers
  rw [ofTrees_eq, List.mapM_map]
  exact reads_list (fun matcher member => each matcher member _) _ reorders

end Reading

open AttributeRelease.Tree Reading

/-- The tree written for a clause is read as that clause, in every place. -/
def Clause.IsRead : Clause → Prop
  | rule spec => ∀ place, Reads (fun tree => (ofTree place tree).rule) spec.toTree spec
  | matcher spec => ∀ place, Reads (fun tree => (ofTree place tree).matcher) spec.toTree spec

/-- A rule is read if its parts are: one case for each kind, which reads the fields of the kind in
turn. -/
theorem RuleSpec.isRead {rule : RuleSpec}
    (parts : ∀ part ∈ (Clause.rule rule).parts, part.IsRead) : (Clause.rule rule).IsRead := by
  intro place
  cases rule with
  | any | none => exact reads_rule (by decide) (by simp) fun _ _ => rfl
  | and rules | or rules =>
    have each := List.forall_mem_map.1 parts
    refine reads_rule (by decide) (by simp) fun body isBody => ?_
    simp only [ruleOfKind?]
    refine step (isBody.fields? _ _ (by simp)) ?_
    exact step (isBody.required (by simp) (reads_rules each)) rfl
  | not part =>
    have isPart := List.forall_mem_singleton.1 parts
    refine reads_rule (by decide) (by simp) fun body isBody => ?_
    simp only [ruleOfKind?]
    refine step (isBody.fields? _ _ (by simp)) ?_
    exact step (isBody.required (by simp) (isPart _)) rfl
  | fact kind test =>
    cases test with
    | text text ignoreCase =>
      refine reads_rule (by cases kind <;> decide) (by simp) fun body isBody => ?_
      have isTest : textTest? body "value" = some (.text text ignoreCase) :=
        textTest?_eq isBody (by simp) (by simp)
      -- Each fact has a kind of its own, so only now the facts part.
      cases kind <;>
      · simp only [FactKind.name, String.reduceAppend, ruleOfKind?]
        exact step (isBody.fields? _ _ (by simp)) (step isTest rfl)
    | pattern pattern =>
      refine reads_rule (by cases kind <;> decide) (by simp) fun body isBody => ?_
      have isTest : patternTest? body = some (.pattern pattern) := patternTest?_eq isBody (by simp)
      cases kind <;>
      · simp only [FactKind.name, String.reduceAppend, ruleOfKind?]
        exact step (isBody.fields? _ _ (by simp)) (step isTest rfl)
  | attributeValue id test | attributeScope id test =>
    cases test with
    | text text ignoreCase =>
      refine reads_rule (by decide) (by simp) fun body isBody => ?_
      simp only [String.reduceAppend, ruleOfKind?]
      refine step (isBody.fields? _ _ (by simp)) ?_
      refine step (isBody.required (by simp) (reads_tree (reads_text id))) ?_
      exact step (textTest?_eq isBody (by simp) (by simp)) rfl
    | pattern pattern =>
      refine reads_rule (by decide) (by simp) fun body isBody => ?_
      simp only [String.reduceAppend, ruleOfKind?]
      refine step (isBody.fields? _ _ (by simp)) ?_
      refine step (isBody.required (by simp) (reads_tree (reads_text id))) ?_
      exact step (patternTest?_eq isBody (by simp)) rfl
  | valueCount id least most =>
    refine reads_rule (by decide) (by simp) fun body isBody => ?_
    simp only [ruleOfKind?]
    refine step (isBody.fields? _ _ (by simp)) ?_
    refine step (isBody.required (by simp) (reads_tree (reads_text id))) ?_
    refine step (isBody.defaulted (by simp) (reads_countOrNull least)) ?_
    exact step (isBody.defaulted (by simp) (reads_countOrNull most)) rfl
  | attributeMatcher id part =>
    have isPart := List.forall_mem_singleton.1 parts
    refine reads_rule (by decide) (by simp) fun body isBody => ?_
    simp only [ruleOfKind?]
    refine step (isBody.fields? _ _ (by simp)) ?_
    refine step (isBody.required (by simp) (reads_tree (reads_text id))) ?_
    exact step (isBody.required (by simp) (isPart _)) rfl
  | entityAttributeText name format wanted party | entityAttributePattern name format wanted party =>
    refine reads_rule (by decide) (by simp) fun body isBody => ?_
    simp only [ruleOfKind?]
    refine step (isBody.fields? _ _ (by simp)) ?_
    refine step (isBody.required (by simp) (reads_tree (reads_text name))) ?_
    refine step (isBody.defaulted (by simp) (reads_tree (reads_textOrNull format))) ?_
    refine step (isBody.required (by simp) (reads_tree (reads_text wanted))) ?_
    exact step (isBody.defaulted (by simp) (reads_party party)) rfl
  | registrationAuthority authorities ifSilent =>
    refine reads_rule (by decide) (by simp) fun body isBody => ?_
    simp only [ruleOfKind?]
    refine step (isBody.fields? _ _ (by simp)) ?_
    refine step (isBody.required (by simp) (reads_tree (reads_texts authorities))) ?_
    exact step (isBody.defaulted (by simp) (reads_tree (reads_bool ifSilent))) rfl
  | entityGroup group party =>
    refine reads_rule (by decide) (by simp) fun body isBody => ?_
    simp only [ruleOfKind?]
    refine step (isBody.fields? _ _ (by simp)) ?_
    refine step (isBody.required (by simp) (reads_tree (reads_text group))) ?_
    exact step (isBody.defaulted (by simp) (reads_party party)) rfl
  | nameIdFormat wanted | script wanted | reference wanted =>
    refine reads_rule (by decide) (by simp) fun body isBody => ?_
    simp only [ruleOfKind?]
    refine step (isBody.fields? _ _ (by simp)) ?_
    exact step (isBody.required (by simp) (reads_tree (reads_text wanted))) rfl

/-- A matcher is read if its parts are. -/
theorem MatcherSpec.isRead {matcher : MatcherSpec}
    (parts : ∀ part ∈ (Clause.matcher matcher).parts, part.IsRead) :
    (Clause.matcher matcher).IsRead := by
  intro place
  cases matcher with
  | any => exact reads_matcher (by decide) (by simp) fun _ _ => rfl
  | and matchers | or matchers =>
    have each := List.forall_mem_map.1 parts
    refine reads_matcher (by decide) (by simp) fun body isBody => ?_
    simp only [matcherOfKind?]
    refine step (isBody.fields? _ _ (by simp)) ?_
    exact step (isBody.required (by simp) (reads_matchers each)) rfl
  | not part | rule part =>
    have isPart := List.forall_mem_singleton.1 parts
    refine reads_matcher (by decide) (by simp) fun body isBody => ?_
    simp only [matcherOfKind?]
    refine step (isBody.fields? _ _ (by simp)) ?_
    exact step (isBody.required (by simp) (isPart _)) rfl
  | value test | scope test =>
    cases test with
    | text text ignoreCase =>
      refine reads_matcher (by decide) (by simp) fun body isBody => ?_
      simp only [String.reduceAppend, matcherOfKind?]
      refine step (isBody.fields? _ _ (by simp)) ?_
      exact step (textTest?_eq isBody (by simp) (by simp)) rfl
    | pattern pattern =>
      refine reads_matcher (by decide) (by simp) fun body isBody => ?_
      simp only [String.reduceAppend, matcherOfKind?]
      refine step (isBody.fields? _ _ (by simp)) ?_
      exact step (patternTest?_eq isBody (by simp)) rfl
  | requested sought =>
    refine reads_matcher (by decide) (by simp) fun body isBody => ?_
    simp only [matcherOfKind?]
    refine step (isBody.fields? _ _ (by simp)) ?_
    refine step (isBody.defaulted (by simp) (reads_tree (reads_bool sought.onlyIfRequired))) ?_
    refine step (isBody.defaulted (by simp) (reads_tree (reads_bool sought.matchIfSilent))) ?_
    refine step (isBody.defaulted (by simp) (reads_tree (reads_textOrNull sought.attributeName))) ?_
    exact step (isBody.defaulted (by simp)
      (reads_tree (reads_textOrNull sought.attributeNameFormat))) rfl
  | script wanted | reference wanted =>
    refine reads_matcher (by decide) (by simp) fun body isBody => ?_
    simp only [matcherOfKind?]
    refine step (isBody.fields? _ _ (by simp)) ?_
    exact step (isBody.required (by simp) (reads_tree (reads_text wanted))) rfl

/-- Every clause is read, by induction over rules and matchers at once. -/
theorem Clause.isRead (clause : Clause) : clause.IsRead := by
  induction clause using Clause.induction with
  | step clause parts =>
    cases clause with
    | rule rule => exact rule.isRead parts
    | matcher matcher => exact matcher.isRead parts

/-- The tree written for a clause. -/
def Clause.toTree : Clause → Tree
  | rule spec => spec.toTree
  | matcher spec => spec.toTree

section Legible

@[simp] theorem Tree.ofText?_isLegible (text : Option String) :
    (Tree.ofText? text).isLegible = true := by
  cases text <;> rfl

@[simp] theorem Tree.ofCount?_isLegible (count : Option UInt64) :
    (Tree.ofCount? count).isLegible = true := by
  cases count <;> rfl

@[simp] theorem Tree.ofTexts_isLegible (texts : List String) :
    (Tree.ofTexts texts).isLegible = true := by
  simp [ofTexts, isLegible, areLegible_iff]

/-- A tagged tree can be read if its fields can be. -/
theorem Tree.tagged_isLegible {kind : String} {fields : List (String × Tree)}
    (each : ∀ field ∈ fields, field.2.isLegible = true) : (tagged kind fields).isLegible = true := by
  rw [isLegible_iff]
  refine ⟨nofun, List.forall_mem_cons.2 ⟨rfl, List.forall_mem_map.2 each⟩⟩

/-- What is written for a comparison can be read if the fields before it can be. -/
theorem TextTest.toTree_isLegible (stem textName : String) {first : List (String × Tree)}
    (each : ∀ field ∈ first, field.2.isLegible = true) (test : TextTest) :
    (test.toTree stem textName first).isLegible = true := by
  cases test with
  | text value ignoreCase =>
    exact tagged_isLegible (List.forall_mem_append.2 ⟨each, by simp [isLegible]⟩)
  | pattern source =>
    exact tagged_isLegible (List.forall_mem_append.2 ⟨each, by simp [isLegible]⟩)

/-- What is written for a clause can be read as some tree. -/
theorem Clause.toTree_isLegible (clause : Clause) : clause.toTree.isLegible = true := by
  induction clause using Clause.induction with
  | step clause parts =>
    cases clause with
    | rule rule =>
      cases rule with
      | fact kind test => exact test.toTree_isLegible _ _ (by simp)
      | attributeValue id test | attributeScope id test =>
        exact test.toTree_isLegible _ _ (by simp [isLegible])
      | _ =>
        refine tagged_isLegible ?_
        simp_all [Clause.parts, Clause.toTree, isLegible, areLegible_iff, ruleTrees_eq]
    | matcher matcher =>
      cases matcher with
      | value test | scope test => exact test.toTree_isLegible _ _ (by simp)
      | _ =>
        refine tagged_isLegible ?_
        simp_all [Clause.parts, Clause.toTree, isLegible, areLegible_iff, matcherTrees_eq]

end Legible

/-- A rule is read back in every place. -/
theorem RuleSpec.reads_toTree (place : Place) (rule : RuleSpec) :
    Reads (RuleSpec.ofTree? place) rule.toTree rule := by
  intro other reorders
  rw [RuleSpec.ofTree?, reorders.isLegible (Clause.rule rule).toTree_isLegible]
  exact (Clause.rule rule).isRead place other reorders

/-- A matcher is read back in every place. -/
theorem MatcherSpec.reads_toTree (place : Place) (matcher : MatcherSpec) :
    Reads (MatcherSpec.ofTree? place) matcher.toTree matcher := by
  intro other reorders
  rw [MatcherSpec.ofTree?, reorders.isLegible (Clause.matcher matcher).toTree_isLegible]
  exact (Clause.matcher matcher).isRead place other reorders

end AttributeRelease
