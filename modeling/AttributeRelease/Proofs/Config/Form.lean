import AttributeRelease.Config.Form
import AttributeRelease.Proofs.Config.RuleForm

/-!
# Written configurations

A configuration is what the tree written for it denotes, whatever the order of the fields in it; so
the tree that is written for what a tree denotes is a normal form of that tree.
-/

namespace AttributeRelease

open AttributeRelease.Tree

/-- A matcher is read back, and so is its absence. -/
theorem AttributeRuleSpec.reads_matcherTree (place : Place) (matcher : Option MatcherSpec) :
    Reads (nullable? (MatcherSpec.ofTree? place)) (matcherTree matcher) matcher := by
  cases matcher with
  | none => exact reads_null _
  | some matcher =>
    refine (matcher.reads_toTree place).nullable fun isNull => ?_
    have isRead := (matcher.reads_toTree place).eq
    rw [isNull] at isRead
    cases isRead

/-- An attribute rule is read back. -/
theorem AttributeRuleSpec.reads_toTree (place : Place) (rule : AttributeRuleSpec) :
    Reads (AttributeRuleSpec.ofTree? place) rule.toTree rule := by
  refine reads_record (by simp) fun fields isWritten => ?_
  refine step (isWritten.fields? _ _ (by simp)) ?_
  refine step (isWritten.required (by simp) (reads_text rule.attributeId)) ?_
  refine step (isWritten.defaulted (by simp) (reads_matcherTree place rule.permit)) ?_
  exact step (isWritten.defaulted (by simp) (reads_matcherTree place rule.deny)) rfl

/-- A policy is read back. -/
theorem PolicySpec.reads_toTree (place : Place) (policy : PolicySpec) :
    Reads (PolicySpec.ofTree? place) policy.toTree policy := by
  have rules := reads_list fun rule (_ : rule ∈ policy.rules) => rule.reads_toTree place
  refine reads_record (by simp) fun fields isWritten => ?_
  refine step (isWritten.fields? _ _ (by simp)) ?_
  refine step (isWritten.required (by simp) (reads_text policy.id)) ?_
  refine step (isWritten.defaulted (by simp) (reads_textOrNull policy.description)) ?_
  refine step (isWritten.required (by simp) (policy.requirement.reads_toTree place)) ?_
  exact step (isWritten.defaulted (by simp) rules) rfl

/-- The definitions of a policy set are read from fields among which there may be others. -/
theorem PolicySet.ofFields?_eq (place : Place) (set : PolicySet) {fields : Fields Tree}
    {written : List (String × Tree)} (isWritten : Written id fields written)
    (has : set.toFields ⊆ written) : PolicySet.ofFields? place fields = some set := by
  have rules := reads_map fun entry (_ : entry ∈ set.rules.toList) => entry.2.reads_toTree place
  have matchers := reads_map fun entry (_ : entry ∈ set.matchers.toList) => entry.2.reads_toTree place
  have policies := reads_list fun policy (_ : policy ∈ set.policies) => policy.reads_toTree place
  simp only [toFields, List.cons_subset] at has
  obtain ⟨hasRules, hasMatchers, hasPolicies, _⟩ := has
  refine step (isWritten.defaulted hasRules rules) ?_
  refine step (isWritten.defaulted hasMatchers matchers) ?_
  exact step (isWritten.defaulted hasPolicies policies) rfl

/-- The settings of an engine are read back. -/
theorem EngineSettings.reads_toTree (place : Place) (settings : EngineSettings) :
    Reads (EngineSettings.ofTree? place) settings.toTree settings := by
  have length := (reads_natural settings.maxScriptLength.toNat_lt).map UInt64.ofNat_toNat
  refine reads_record (by simp) fun fields isWritten => ?_
  refine step (isWritten.fields? _ _ (by simp)) ?_
  refine step (isWritten.defaulted (by simp) (reads_text settings.id)) ?_
  refine step (isWritten.defaulted (by simp) length) ?_
  exact step (isWritten.defaulted (by simp) (reads_texts settings.policyFiles)) rfl

/-- A log level is read back from its name. -/
theorem LogLevel.reads_name (place : Place) (level : LogLevel) :
    Reads (fun tree => (constant? place tree).bind LogLevel.ofName?) (.text level.name) level :=
  (reads_constant place level.name).bind (by cases level <;> rfl)

/-- A log format is read back from its name. -/
theorem LogFormat.reads_name (place : Place) (format : LogFormat) :
    Reads (fun tree => (constant? place tree).bind LogFormat.ofName?) (.text format.name) format :=
  (reads_constant place format.name).bind (by cases format <;> rfl)

/-- The settings of logging are read back. -/
theorem LogSettings.reads_toTree (place : Place) (settings : LogSettings) :
    Reads (LogSettings.ofTree? place) settings.toTree settings := by
  refine reads_record (by simp) fun fields isWritten => ?_
  refine step (isWritten.fields? _ _ (by simp)) ?_
  refine step (isWritten.defaulted (by simp) (settings.level.reads_name place)) ?_
  refine step (isWritten.defaulted (by simp) (settings.format.reads_name place)) ?_
  refine step (isWritten.defaulted (by simp) (reads_bool settings.timestamps)) ?_
  refine step (isWritten.defaulted (by simp) (reads_bool settings.fileLine)) ?_
  refine step (isWritten.defaulted (by simp) (reads_bool settings.includeSpans)) ?_
  exact step (isWritten.defaulted (by simp) (reads_textOrNull settings.filter)) rfl

namespace Config

/-- The path of the metadata is read back, and so is its absence. -/
theorem reads_metadataPath (place : Place) (path : Option String) :
    Reads (metadataPath? place) (.table [("path", .ofText? path)]) path := by
  refine reads_record (by simp) fun fields isWritten => ?_
  refine step (isWritten.fields? _ _ (by simp)) ?_
  exact isWritten.defaulted (by simp) (reads_textOrNull path)

/-- The settings of logging are read back from the table that they stand in. -/
theorem reads_log (place : Place) (settings : LogSettings) :
    Reads (log? place) (.table [("logging", settings.toTree)]) settings := by
  refine reads_record (by simp) fun fields isWritten => ?_
  refine step (isWritten.fields? _ _ (by simp)) ?_
  exact isWritten.defaulted (by simp) (settings.reads_toTree place)

/-- A configuration is read back. -/
theorem reads_toTree (place : Place) (config : Config) :
    Reads (Config.ofTree? place) config.toTree config := by
  refine reads_record (by simp [PolicySet.toFields]) fun fields isWritten => ?_
  refine step (isWritten.fields? _ _ (by simp [PolicySet.toFields, PolicySet.fieldNames])) ?_
  refine step (isWritten.defaulted (by simp) (config.engine.reads_toTree place)) ?_
  refine step (isWritten.defaulted (by simp) (reads_metadataPath place config.metadataPath)) ?_
  refine step (isWritten.defaulted (by simp) (reads_log place config.log)) ?_
  exact step (PolicySet.ofFields?_eq place config.definitions isWritten
    (List.subset_append_right _ _)) rfl

/-- The tree written for a configuration is read as that configuration, whatever the order of the
fields in it. So of any tree that denotes a configuration, the tree written for it is a normal form:
it denotes the same, with all defaults filled in, and differs from that of every other
configuration. -/
theorem toTree_isNormalForm :
    (∀ (config : Config) (tree : Tree), tree.Reorders config.toTree →
      ofTree? ⟨.json, false⟩ tree = some config) ∧
    (∀ (tree : Tree) (config : Config), ofTree? ⟨.json, false⟩ tree = some config →
      ∀ normal : Tree, normal.Reorders config.toTree →
        ofTree? ⟨.json, false⟩ normal = some config) ∧
    Function.Injective toTree := by
  refine ⟨?reads, fun _ config _ => ?normal, fun left right same => ?one⟩
  case reads => exact fun config => config.reads_toTree ⟨.json, false⟩
  case normal => exact config.reads_toTree ⟨.json, false⟩
  case one =>
    have leftRead := (left.reads_toTree ⟨.json, false⟩).eq
    have rightRead := (right.reads_toTree ⟨.json, false⟩).eq
    rw [same, rightRead] at leftRead
    exact (Option.some.inj leftRead).symm

/-- A configuration of which only the policy for one attribute is written. -/
def staffMail : Tree :=
  .table [("policies", .list [.table [("requirement", .table [("type", .text "any")]),
    ("id", .text "staff"), ("rules", .list [.table [("permit",
      .table [("type", .text "attribute_in_metadata")]), ("attribute_id", .text "mail")]])]])]

/-- What `staffMail` denotes. -/
def staffMailConfig : Config :=
  { Config.default with
    definitions.policies := [⟨"staff", none, .any, [⟨"mail", some (.requested .default), none⟩]⟩] }

/-- The configuration is read, and so is what is written of it, in either order of the fields. -/
theorem staffMail_normalForm :
    ofTree? ⟨.json, false⟩ staffMail = some staffMailConfig ∧
      ofTree? ⟨.json, false⟩ staffMailConfig.toTree = some staffMailConfig ∧
      ∃ fields, staffMailConfig.toTree = .table fields ∧
        ofTree? ⟨.json, false⟩ (.table fields.reverse) = some staffMailConfig := by
  have read : ofTree? ⟨.json, false⟩ staffMail = some staffMailConfig := rfl
  refine ⟨read, toTree_isNormalForm.2.1 staffMail staffMailConfig read _ (.same _), _, rfl, ?_⟩
  refine toTree_isNormalForm.1 staffMailConfig _ (.table (List.reverse_perm _) rfl ?_)
  exact List.forall₂_same.2 fun tree _ => .same tree

end Config

end AttributeRelease
