import AttributeRelease.Config.RuleForm

/-!
# Configurations in trees

The records of a configuration are closed, and every field that can be left out has a default.
Writing a configuration gives every field; nothing that was left out remains so.
-/

namespace AttributeRelease

namespace AttributeRuleSpec

/-- The rule for an attribute that a tree denotes. -/
def ofTree? (place : Place) (tree : Tree) : Option AttributeRuleSpec := do
  let fields ← tree.holder.fields? place .closed ["attribute_id", "permit", "deny"]
  return {
    attributeId := ← fields.required "attribute_id" Tree.text?
    permit := ← fields.defaulted "permit" none (Tree.nullable? (MatcherSpec.ofTree? place))
    deny := ← fields.defaulted "deny" none (Tree.nullable? (MatcherSpec.ofTree? place)) }

/-- The tree of a matcher that may be missing. -/
def matcherTree : Option MatcherSpec → Tree
  | some matcher => matcher.toTree
  | none => .null

/-- The tree of a rule for an attribute. -/
def toTree (rule : AttributeRuleSpec) : Tree :=
  .table [("attribute_id", .text rule.attributeId), ("permit", matcherTree rule.permit),
    ("deny", matcherTree rule.deny)]

end AttributeRuleSpec

namespace PolicySpec

/-- The policy that a tree denotes. -/
def ofTree? (place : Place) (tree : Tree) : Option PolicySpec := do
  let fields ← tree.holder.fields? place .closed ["id", "description", "requirement", "rules"]
  return {
    id := ← fields.required "id" Tree.text?
    description := ← fields.defaulted "description" none (Tree.nullable? Tree.text?)
    requirement := ← fields.required "requirement" (RuleSpec.ofTree? place)
    rules := ← fields.defaulted "rules" [] (Tree.listOf? (AttributeRuleSpec.ofTree? place)) }

/-- The tree of a policy. -/
def toTree (policy : PolicySpec) : Tree :=
  .table [("id", .text policy.id), ("description", .ofText? policy.description),
    ("requirement", policy.requirement.toTree),
    ("rules", .list (policy.rules.map AttributeRuleSpec.toTree))]

end PolicySpec

namespace PolicySet

/-- The names of the fields of a policy set. -/
def fieldNames : List String := ["requirement_rules", "matchers", "policies"]

/-- The policy set that fields denote. -/
def ofFields? (place : Place) (fields : Fields Tree) : Option PolicySet := do
  return {
    rules := ← fields.defaulted "requirement_rules" ∅ fun tree =>
      (tree.tableOf? (RuleSpec.ofTree? place)).map NameMap.ofList
    matchers := ← fields.defaulted "matchers" ∅ fun tree =>
      (tree.tableOf? (MatcherSpec.ofTree? place)).map NameMap.ofList
    policies := ← fields.defaulted "policies" [] (Tree.listOf? (PolicySpec.ofTree? place)) }

/-- The policy set that a tree denotes. -/
def ofTree? (place : Place) (tree : Tree) : Option PolicySet := do
  ofFields? place (← tree.holder.fields? place .closed fieldNames)

/-- The fields of a policy set. -/
def toFields (set : PolicySet) : List (String × Tree) :=
  [("requirement_rules", .table (set.rules.toList.map fun entry => (entry.1, entry.2.toTree))),
    ("matchers", .table (set.matchers.toList.map fun entry => (entry.1, entry.2.toTree))),
    ("policies", .list (set.policies.map PolicySpec.toTree))]

/-- The tree of a policy set. -/
def toTree (set : PolicySet) : Tree := .table set.toFields

end PolicySet

namespace EngineSettings

/-- The settings that a tree denotes. -/
def ofTree? (place : Place) (tree : Tree) : Option EngineSettings := do
  let fields ← tree.holder.fields? place .closed ["id", "max_script_length", "policy_files"]
  return {
    id := ← fields.defaulted "id" default.id Tree.text?
    maxScriptLength := ← fields.defaulted "max_script_length" default.maxScriptLength fun tree =>
      (tree.natural? (Nat.pow 2 64)).map UInt64.ofNat
    policyFiles := ← fields.defaulted "policy_files" [] Tree.texts? }

/-- The tree of the settings. -/
def toTree (settings : EngineSettings) : Tree :=
  .table [("id", .text settings.id),
    ("max_script_length", .integer settings.maxScriptLength.toNat),
    ("policy_files", .ofTexts settings.policyFiles)]

end EngineSettings

/-- The name of a log level. -/
def LogLevel.name : LogLevel → String
  | trace => "trace"
  | debug => "debug"
  | info => "info"
  | warn => "warn"
  | error => "error"

/-- The log level of a name. -/
def LogLevel.ofName? : String → Option LogLevel
  | "trace" => some trace
  | "debug" => some debug
  | "info" => some info
  | "warn" => some warn
  | "error" => some error
  | _ => none

/-- The name of a log format. -/
def LogFormat.name : LogFormat → String
  | pretty => "pretty"
  | compact => "compact"
  | json => "json"

/-- The log format of a name. -/
def LogFormat.ofName? : String → Option LogFormat
  | "pretty" => some pretty
  | "compact" => some compact
  | "json" => some json
  | _ => none

namespace LogSettings

/-- The settings that a tree denotes. -/
def ofTree? (place : Place) (tree : Tree) : Option LogSettings := do
  let fields ← tree.holder.fields? place .closed
    ["level", "format", "timestamps", "file_line", "include_spans", "filter"]
  return {
    level := ← fields.defaulted "level" default.level fun tree =>
      (tree.constant? place).bind LogLevel.ofName?
    format := ← fields.defaulted "format" default.format fun tree =>
      (tree.constant? place).bind LogFormat.ofName?
    timestamps := ← fields.defaulted "timestamps" default.timestamps Tree.bool?
    fileLine := ← fields.defaulted "file_line" default.fileLine Tree.bool?
    includeSpans := ← fields.defaulted "include_spans" default.includeSpans Tree.bool?
    filter := ← fields.defaulted "filter" none (Tree.nullable? Tree.text?) }

/-- The tree of the settings. -/
def toTree (settings : LogSettings) : Tree :=
  .table [("level", .text settings.level.name), ("format", .text settings.format.name),
    ("timestamps", .bool settings.timestamps), ("file_line", .bool settings.fileLine),
    ("include_spans", .bool settings.includeSpans), ("filter", .ofText? settings.filter)]

end LogSettings

namespace Config

/-- The path to metadata that a tree denotes, a record with a single field. -/
def metadataPath? (place : Place) (tree : Tree) : Option (Option String) := do
  let fields ← tree.holder.fields? place .closed ["path"]
  fields.defaulted "path" none (Tree.nullable? Tree.text?)

/-- The settings of the log that a tree denotes, a record with them as its single field. -/
def log? (place : Place) (tree : Tree) : Option LogSettings := do
  let fields ← tree.holder.fields? place .closed ["logging"]
  fields.defaulted "logging" .default (LogSettings.ofTree? place)

/-- The configuration that a tree denotes. -/
def ofTree? (place : Place) (tree : Tree) : Option Config := do
  let fields ← tree.holder.fields? place .closed
    (["engine", "metadata", "observability"] ++ PolicySet.fieldNames)
  return {
    engine := ← fields.defaulted "engine" .default (EngineSettings.ofTree? place)
    metadataPath := ← fields.defaulted "metadata" none (metadataPath? place)
    log := ← fields.defaulted "observability" .default (log? place)
    definitions := ← PolicySet.ofFields? place fields }

/-- The tree of a configuration. -/
def toTree (config : Config) : Tree :=
  .table ([("engine", config.engine.toTree),
    ("metadata", .table [("path", .ofText? config.metadataPath)]),
    ("observability", .table [("logging", config.log.toTree)])] ++
    config.definitions.toFields)

end Config

end AttributeRelease
