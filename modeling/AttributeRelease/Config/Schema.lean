import AttributeRelease.Config.Form
import AttributeRelease.Tree.Canonical

/-!
# The schema of configurations

What a configuration may hold, described in the notation of JSON Schema: every record with its fields,
what they mean, and what they are if they are left out.
-/

namespace AttributeRelease.Schema

/-- What a field may hold. -/
inductive Shape where
  | text
  | flag
  | count
  /-- What a definition of the schema describes. -/
  | defined (name : String)
  | list (item : Shape)
  | map (value : Shape)
  | nullable (shape : Shape)

/-- A field of a record. Without a default it has to be there. -/
structure Field where
  name : String
  shape : Shape
  default : Option Tree
  description : String

/-- The fields of a tree for a name, if there is a text for it. -/
def describe (description : String) : List (String × Tree) :=
  if description.isEmpty then [] else [("description", .text description)]

/-- The tree that refers to a definition. -/
def reference (name : String) : Tree := .table [("$ref", .text ("#/definitions/" ++ name))]

/-- The names of the types that a shape has, with null or without it. -/
def typeField (nullable : Bool) (name : String) : String × Tree :=
  ("type", if nullable then .ofTexts [name, "null"] else .text name)

/-- What describes a shape, as the fields of a table. -/
def Shape.toFields (nullable : Bool) : Shape → List (String × Tree)
  | text => [typeField nullable "string"]
  | flag => [typeField nullable "boolean"]
  | count =>
    [typeField nullable "integer", ("format", .text "uint"), ("minimum", .other "0.0")]
  | defined name =>
    if nullable then [("anyOf", .list [reference name, .table [("type", .text "null")]])]
    else [("$ref", .text ("#/definitions/" ++ name))]
  | list item => [typeField nullable "array", ("items", .table (item.toFields false))]
  | map value =>
    [typeField nullable "object", ("additionalProperties", .table (value.toFields false))]
  | Shape.nullable shape => shape.toFields true

/-- What describes a field. A reference to a definition that has a description or a default beside it
is wrapped. -/
def Field.toTree (field : Field) : Tree :=
  let beside := describe field.description ++ field.default.toList.map (("default", ·.canonical))
  match field.shape with
  | .defined name =>
    if beside.isEmpty then reference name
    else .table (beside ++ [("allOf", .list [reference name])])
  | shape => .table (beside ++ shape.toFields false)

/-- The trees of fields in ascending order of their names. -/
def properties (fields : List (String × Tree)) : Tree :=
  .table (NameMap.ofList fields).toList

/-- The names of the fields that have to be there, in ascending order. -/
def requiredNames (names : List String) : List (String × Tree) :=
  if names.isEmpty then []
  else [("required", .ofTexts (NameMap.ofList (names.map (·, ()))).names)]

/-- What describes a closed record. -/
def record (description : String) (tag : List (String × Tree)) (fields : List Field) :
    List (String × Tree) :=
  let needed := tag.map (·.1) ++ (fields.filter (·.default.isNone)).map (·.name)
  let all := tag ++ fields.map fun field => (field.name, field.toTree)
  describe description ++ [("type", .text "object")] ++ requiredNames needed ++
    (if all.isEmpty then [] else [("properties", properties all)]) ++
    [("additionalProperties", .bool false)]

/-- What describes a text that is one of several. -/
def constants (description : String) (names : List String) : List (String × Tree) :=
  describe description ++ [("type", .text "string"), ("enum", .ofTexts names)]

/-- One kind of a choice. -/
structure Kind where
  name : String
  fields : List Field
  description : String

/-- What describes a choice between kinds. -/
def choice (description : String) (kinds : List Kind) : List (String × Tree) :=
  describe description ++
    [("oneOf", .list (kinds.map fun kind =>
      .table (record kind.description [("type", .table (constants "" [kind.name]))]
        kind.fields)))]

/-- A field that has to be there. -/
def needed (name : String) (shape : Shape) : Field := ⟨name, shape, none, ""⟩

/-- A field with a default. -/
def optional (name : String) (shape : Shape) (default : Tree) : Field :=
  ⟨name, shape, some default, ""⟩

/-- The field with a description. -/
def Field.meaning (field : Field) (description : String) : Field := { field with description }

/-- The field for the regard to case. -/
def caseField : Field := optional "case_insensitive" .flag (.bool false)

/-- The field for the party whose metadata is meant. -/
def targetField : Field :=
  optional "target" (.defined "MetadataTargetConfig") (.text Party.requester.name)

/-- A text that may be missing. -/
def textField (name : String) : Field := optional name (.nullable .text) .null

/-- The kinds that compare with a text and with a pattern. -/
def comparisons (stem textName : String) (first : List Field) : List Kind :=
  [⟨stem ++ "_string", first ++ [needed textName .text, caseField], ""⟩,
    ⟨stem ++ "_regex", first ++ [needed "regex" .text], ""⟩]

/-- The name of the definition of rules. -/
def ruleDefinition : String := "RequirementRuleConfig"

/-- The name of the definition of matchers. -/
def matcherDefinition : String := "MatcherConfig"

/-- The kinds of rules. -/
def ruleKinds : List Kind :=
  [⟨"any", [], ""⟩, ⟨"none", [], ""⟩,
    ⟨"and", [needed "rules" (.list (.defined ruleDefinition))], ""⟩,
    ⟨"or", [needed "rules" (.list (.defined ruleDefinition))], ""⟩,
    ⟨"not", [needed "rule" (.defined ruleDefinition)], ""⟩] ++
  comparisons "issuer" "value" [] ++ comparisons "requester" "value" [] ++
  comparisons "principal" "value" [] ++ comparisons "authentication_method" "value" [] ++
  comparisons "proxied_requester" "value" [] ++
  [⟨"attribute_value_count", [needed "attribute_id" .text,
      optional "min" (.nullable .count) .null, optional "max" (.nullable .count) .null],
      "Inclusive bounds on the number of input values."⟩] ++
  comparisons "attribute_value" "value" [needed "attribute_id" .text] ++
  comparisons "attribute_scope" "scope" [needed "attribute_id" .text] ++
  [⟨"attribute_matcher",
      [needed "attribute_id" .text, needed "matcher" (.defined matcherDefinition)],
      "Any matcher applied to a named input attribute."⟩,
    ⟨"entity_attribute_string",
      [needed "name" .text, textField "name_format", needed "value" .text, targetField], ""⟩,
    ⟨"entity_attribute_regex",
      [needed "name" .text, textField "name_format", needed "regex" .text, targetField], ""⟩,
    ⟨"name_id_format", [needed "format" .text], ""⟩,
    ⟨"registration_authority", [needed "authorities" (.list .text),
      optional "match_if_metadata_silent" .flag (.bool false)], ""⟩,
    ⟨"entity_group", [needed "group" .text, targetField], ""⟩,
    ⟨"script", [needed "script" .text], ""⟩,
    ⟨"reference", [needed "id" .text], "A named entry of `[requirement_rules]`."⟩]

/-- The kinds of matchers. -/
def matcherKinds : List Kind :=
  [⟨"any", [], ""⟩,
    ⟨"and", [needed "matchers" (.list (.defined matcherDefinition))], ""⟩,
    ⟨"or", [needed "matchers" (.list (.defined matcherDefinition))], ""⟩,
    ⟨"not", [needed "matcher" (.defined matcherDefinition)], ""⟩] ++
  comparisons "value" "value" [] ++ comparisons "scope" "scope" [] ++
  [⟨"script", [needed "script" .text], ""⟩,
    ⟨"attribute_in_metadata", [optional "only_if_required" .flag (.bool true),
      optional "match_if_metadata_silent" .flag (.bool false), textField "attribute_name",
      textField "attribute_name_format"], ""⟩,
    ⟨"rule", [needed "rule" (.defined ruleDefinition)],
      "Every value when the rule is TRUE, none when FALSE."⟩,
    ⟨"reference", [needed "id" .text], "A named entry of `[matchers]`."⟩]

/-- The fields for named definitions. -/
def policySetFields : List Field :=
  [(optional "requirement_rules" (.map (.defined ruleDefinition)) (.table [])).meaning
      "Named requirement rules usable via `\x7b type = \"reference\", id = \"...\" \x7d`.",
    (optional "matchers" (.map (.defined matcherDefinition)) (.table [])).meaning
      "Named matchers usable via `\x7b type = \"reference\", id = \"...\" \x7d`."]

/-- The fields for settings of the engine. -/
def engineFields : List Field :=
  [(optional "id" .text (.text EngineSettings.default.id)).meaning "Identifier reported in logs.",
    (optional "max_script_length" .count
      (.integer EngineSettings.default.maxScriptLength.toNat)).meaning
      "Maximum length in bytes of a script source (0 = unlimited).",
    (optional "policy_files" (.list .text) (.list [])).meaning
      ("Extra policy files merged into this configuration. Relative paths are resolved " ++
        "against the main config file's directory.")]

/-- The fields for settings of the log. -/
def logFields : List Field :=
  [(optional "level" (.defined "LogLevel") (.text LogSettings.default.level.name)).meaning
      "Log level.",
    (optional "format" (.defined "LogFormat") (.text LogSettings.default.format.name)).meaning
      "Log format.",
    (optional "timestamps" .flag (.bool LogSettings.default.timestamps)).meaning
      "Include timestamps.",
    (optional "file_line" .flag (.bool LogSettings.default.fileLine)).meaning
      "Include file/line information.",
    (optional "include_spans" .flag (.bool LogSettings.default.includeSpans)).meaning
      "Include span information (engine id, policy) in log lines.",
    (optional "filter" (.nullable .text) .null).meaning
      "Filter directives (e.g., \"attribute_filter::filter=trace\")."]

/-- The definitions that the schema refers to. -/
def definitions : List (String × List (String × Tree)) :=
  [("AttributeRuleConfig",
      record "One attribute rule. Exactly one of `permit` and `deny` must be set." []
        [needed "attribute_id" .text,
          optional "permit" (.nullable (.defined matcherDefinition)) .null,
          optional "deny" (.nullable (.defined matcherDefinition)) .null]),
    ("EngineConfig", record "Engine-wide settings." [] engineFields),
    ("LogFormat",
      [("oneOf", .list [
        .table (constants "Human-readable multi-line format." [LogFormat.pretty.name]),
        .table (constants "Compact single-line format." [LogFormat.compact.name]),
        .table (constants "JSON format (for log aggregation)." [LogFormat.json.name])])]),
    ("LogLevel",
      constants "" ([LogLevel.trace, .debug, .info, .warn, .error].map LogLevel.name)),
    ("LoggingConfig", record "Logging configuration." [] logFields),
    (matcherDefinition, choice "A matcher over one attribute's values." matcherKinds),
    ("MetadataConfig", record "Where relying-party metadata comes from." []
        [(optional "path" (.nullable .text) .null).meaning
          ("TOML file with `[[entities]]` entries. Relative paths are resolved against the " ++
            "main config file's directory.")]),
    ("MetadataTargetConfig", constants "Whose metadata a metadata rule inspects."
        [Party.requester.name, Party.issuer.name]),
    ("ObservabilityConfig", record "Observability configuration." []
        [(optional "logging" (.defined "LoggingConfig") LogSettings.default.toTree).meaning
          "Logging configuration."]),
    ("PolicyConfig", record "An attribute filter policy." []
        [needed "id" .text, textField "description",
          needed "requirement" (.defined ruleDefinition),
          optional "rules" (.list (.defined "AttributeRuleConfig")) (.list [])]),
    (ruleDefinition, choice "A policy requirement rule." ruleKinds)]

/-- The fields of a configuration. -/
def configFields : List Field :=
  [(optional "engine" (.defined "EngineConfig") EngineSettings.default.toTree).meaning
      "Engine settings.",
    (optional "metadata" (.defined "MetadataConfig") (.table [("path", .null)])).meaning
      "Relying-party metadata source.",
    (optional "observability" (.defined "ObservabilityConfig")
      (.table [("logging", LogSettings.default.toTree)])).meaning
      "Observability configuration (logging)."] ++
  policySetFields ++
  [(optional "policies" (.list (.defined "PolicyConfig")) (.list [])).meaning
      "Policies, evaluated in order."]

/-- The schema of configurations. -/
def config : Tree :=
  .table ([("$schema", .text "http://json-schema.org/draft-07/schema#"),
    ("title", .text "FilterEngineConfig")] ++
    record "Root configuration for the attribute filter." [] configFields ++
    [("definitions", properties (definitions.map fun entry => (entry.1, .table entry.2)))])

/-- The names that a pointer into a tree goes down by, each after a slash. -/
def pointerSteps? (pointer : String) : Option (List String) :=
  match pointer.splitOn "/" with
  | "" :: steps => some (steps.map fun step => (step.replace "~1" "/").replace "~0" "~")
  | _ => none

/-- The index that a step of a pointer spells: digits without a zero before others. -/
def index? (step : String) : Option Nat :=
  let chars := step.toList
  if !chars.isEmpty && chars.all Char.isDigit && (chars.head? != some '0' || chars.length == 1) then
    some (Text.decimal chars)
  else none

/-- What lies below a tree after steps of a pointer. -/
def below? : List String → Tree → Option Tree
  | [], tree => some tree
  | step :: steps, .list items => do below? steps (← items[← index? step]?)
  | step :: steps, tree => do below? steps (← tree.get? step)

/-- The part of a tree that a pointer leads to. -/
def find? (pointer : String) (tree : Tree) : Option Tree := do
  below? (← pointerSteps? pointer) tree

end AttributeRelease.Schema
