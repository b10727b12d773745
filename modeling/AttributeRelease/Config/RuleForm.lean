import AttributeRelease.Config.Basic
import AttributeRelease.Tree.Record

/-!
# Rules and matchers in trees

A rule or matcher is a choice: its tree has a tag, `type`, with the name of its kind, and the fields of
that kind. All of the tree is taken in before the tag decides what matters, so every part has to be
legible. Since rules hold matchers and matchers hold rules, every part of a tree is read as both, and
what contains it takes what it needs. `RuleSpec.toTree` and `MatcherSpec.toTree` write every field.
-/

namespace AttributeRelease

/-- What a tree denotes, read as a rule, as a matcher, and as a list of either. -/
structure Reading where
  tree : Tree
  rule : Option RuleSpec
  matcher : Option MatcherSpec
  rules : Option (List RuleSpec)
  matchers : Option (List MatcherSpec)

/-- The kinds of rules, in the order of their numbers. -/
def ruleKinds : List String :=
  ["any", "none", "and", "or", "not", "issuer_string", "issuer_regex", "requester_string",
    "requester_regex", "principal_string", "principal_regex", "authentication_method_string",
    "authentication_method_regex", "proxied_requester_string", "proxied_requester_regex",
    "attribute_value_count", "attribute_value_string", "attribute_value_regex",
    "attribute_scope_string", "attribute_scope_regex", "attribute_matcher",
    "entity_attribute_string", "entity_attribute_regex", "name_id_format",
    "registration_authority", "entity_group", "script", "reference"]

/-- The kinds of matchers, in the order of their numbers. -/
def matcherKinds : List String :=
  ["any", "and", "or", "not", "value_string", "value_regex", "scope_string", "scope_regex",
    "script", "attribute_in_metadata", "rule", "reference"]

/-- The name of a party. -/
def Party.name : Party → String
  | requester => "requester"
  | issuer => "issuer"

/-- The party of a name. -/
def Party.ofName? : String → Option Party
  | "requester" => some requester
  | "issuer" => some issuer
  | _ => none

/-- The name of a fact, with which the names of its rules begin. -/
def FactKind.name : FactKind → String
  | issuer => "issuer"
  | requester => "requester"
  | principal => "principal"
  | authenticationMethod => "authentication_method"
  | proxiedRequester => "proxied_requester"

namespace Reading

/-- A tree that denotes neither rules nor matchers. -/
def scalar (tree : Tree) : Reading := ⟨tree, none, none, none, none⟩

/-- The text that a part is. -/
def text? (part : Reading) : Option String := part.tree.text?

/-- The truth value that a part is. -/
def bool? (part : Reading) : Option Bool := part.tree.bool?

/-- The text that a part is, or nothing if it is null. -/
def textOrNull? (part : Reading) : Option (Option String) := part.tree.nullable? Tree.text?

/-- The count that a part is, or nothing if it is null. -/
def countOrNull? (part : Reading) : Option (Option UInt64) :=
  part.tree.nullable? fun tree => (tree.natural? (Nat.pow 2 64)).map UInt64.ofNat

/-- The party that a part names. -/
def party? (place : Place) (part : Reading) : Option Party :=
  (part.tree.constant? place).bind Party.ofName?

/-- The fields of a kind. -/
abbrev Content := Fields Reading

/-- A comparison with a text under a name, with or without regard to case. -/
def textTest? (fields : Content) (name : String) : Option TextTest := do
  return .text (← fields.required name text?)
    (← fields.defaulted "case_insensitive" false bool?)

/-- A comparison with a pattern. -/
def patternTest? (fields : Content) : Option TextTest := do
  return .pattern (← fields.required "regex" text?)

/-- Whether a choice without fields is written properly: a table may have any other fields, a list no
further items. -/
def isConstant : Holder Reading → Bool
  | .table _ => true
  | .list items => items.isEmpty
  | .neither => false

/-- The rule of a named kind that what holds its fields denotes. -/
def ruleOfKind? (inside : Place) (body : Holder Reading) (kind : String) : Option RuleSpec :=
  let fields (names : List String) : Option Content := body.fields? inside .closed names
  let factText (fact : FactKind) : Option RuleSpec := do
    return .fact fact (← textTest? (← fields ["value", "case_insensitive"]) "value")
  let factPattern (fact : FactKind) : Option RuleSpec := do
    return .fact fact (← patternTest? (← fields ["regex"]))
  match kind with
  | "any" => if isConstant body then some .any else none
  | "none" => if isConstant body then some .none else none
  | "and" => do
    return .and (← (← fields ["rules"]).required "rules" (·.rules))
  | "or" => do
    return .or (← (← fields ["rules"]).required "rules" (·.rules))
  | "not" => do
    return .not (← (← fields ["rule"]).required "rule" (·.rule))
  | "issuer_string" => factText .issuer
  | "issuer_regex" => factPattern .issuer
  | "requester_string" => factText .requester
  | "requester_regex" => factPattern .requester
  | "principal_string" => factText .principal
  | "principal_regex" => factPattern .principal
  | "authentication_method_string" => factText .authenticationMethod
  | "authentication_method_regex" => factPattern .authenticationMethod
  | "proxied_requester_string" => factText .proxiedRequester
  | "proxied_requester_regex" => factPattern .proxiedRequester
  | "attribute_value_count" => do
    let fields ← fields ["attribute_id", "min", "max"]
    return .valueCount (← fields.required "attribute_id" text?)
      (← fields.defaulted "min" none countOrNull?) (← fields.defaulted "max" none countOrNull?)
  | "attribute_value_string" => do
    let fields ← fields ["attribute_id", "value", "case_insensitive"]
    return .attributeValue (← fields.required "attribute_id" text?) (← textTest? fields "value")
  | "attribute_value_regex" => do
    let fields ← fields ["attribute_id", "regex"]
    return .attributeValue (← fields.required "attribute_id" text?) (← patternTest? fields)
  | "attribute_scope_string" => do
    let fields ← fields ["attribute_id", "scope", "case_insensitive"]
    return .attributeScope (← fields.required "attribute_id" text?) (← textTest? fields "scope")
  | "attribute_scope_regex" => do
    let fields ← fields ["attribute_id", "regex"]
    return .attributeScope (← fields.required "attribute_id" text?) (← patternTest? fields)
  | "attribute_matcher" => do
    let fields ← fields ["attribute_id", "matcher"]
    return .attributeMatcher (← fields.required "attribute_id" text?)
      (← fields.required "matcher" (·.matcher))
  | "entity_attribute_string" => do
    let fields ← fields ["name", "name_format", "value", "target"]
    return .entityAttributeText (← fields.required "name" text?)
      (← fields.defaulted "name_format" none textOrNull?) (← fields.required "value" text?)
      (← fields.defaulted "target" .requester (party? inside))
  | "entity_attribute_regex" => do
    let fields ← fields ["name", "name_format", "regex", "target"]
    return .entityAttributePattern (← fields.required "name" text?)
      (← fields.defaulted "name_format" none textOrNull?) (← fields.required "regex" text?)
      (← fields.defaulted "target" .requester (party? inside))
  | "name_id_format" => do
    return .nameIdFormat (← (← fields ["format"]).required "format" text?)
  | "registration_authority" => do
    let fields ← fields ["authorities", "match_if_metadata_silent"]
    return .registrationAuthority (← fields.required "authorities" (·.tree.texts?))
      (← fields.defaulted "match_if_metadata_silent" false bool?)
  | "entity_group" => do
    let fields ← fields ["group", "target"]
    return .entityGroup (← fields.required "group" text?)
      (← fields.defaulted "target" .requester (party? inside))
  | "script" => do
    return .script (← (← fields ["script"]).required "script" text?)
  | "reference" => do
    return .reference (← (← fields ["id"]).required "id" text?)
  | _ => none

/-- The rule that a tree with parts denotes. -/
def ruleOf? (place : Place) (holder : Holder Reading) : Option RuleSpec := do
  let (tag, body) ← holder.tagged? "type"
  ruleOfKind? { place with inChoice := true } body (← tag.tree.tag? place ruleKinds)

/-- The matcher of a named kind that what holds its fields denotes. -/
def matcherOfKind? (inside : Place) (body : Holder Reading) (kind : String) : Option MatcherSpec :=
  let fields (names : List String) : Option Content := body.fields? inside .closed names
  match kind with
  | "any" => if isConstant body then some .any else none
  | "and" => do
    return .and (← (← fields ["matchers"]).required "matchers" (·.matchers))
  | "or" => do
    return .or (← (← fields ["matchers"]).required "matchers" (·.matchers))
  | "not" => do
    return .not (← (← fields ["matcher"]).required "matcher" (·.matcher))
  | "value_string" => do
    return .value (← textTest? (← fields ["value", "case_insensitive"]) "value")
  | "value_regex" => do
    return .value (← patternTest? (← fields ["regex"]))
  | "scope_string" => do
    return .scope (← textTest? (← fields ["scope", "case_insensitive"]) "scope")
  | "scope_regex" => do
    return .scope (← patternTest? (← fields ["regex"]))
  | "script" => do
    return .script (← (← fields ["script"]).required "script" text?)
  | "attribute_in_metadata" => do
    let fields ← fields ["only_if_required", "match_if_metadata_silent", "attribute_name",
      "attribute_name_format"]
    return .requested {
      onlyIfRequired := ← fields.defaulted "only_if_required" true bool?
      matchIfSilent := ← fields.defaulted "match_if_metadata_silent" false bool?
      attributeName := ← fields.defaulted "attribute_name" none textOrNull?
      attributeNameFormat := ← fields.defaulted "attribute_name_format" none textOrNull? }
  | "rule" => do
    return .rule (← (← fields ["rule"]).required "rule" (·.rule))
  | "reference" => do
    return .reference (← (← fields ["id"]).required "id" text?)
  | _ => none

/-- The matcher that a tree with parts denotes. -/
def matcherOf? (place : Place) (holder : Holder Reading) : Option MatcherSpec := do
  let (tag, body) ← holder.tagged? "type"
  matcherOfKind? { place with inChoice := true } body (← tag.tree.tag? place matcherKinds)

mutual

/-- Reads a tree as a rule and as a matcher. -/
def ofTree (place : Place) : Tree → Reading
  | .list items =>
    let parts := ofTrees { place with inChoice := true } items
    { tree := .list items
      rule := ruleOf? place (.list parts)
      matcher := matcherOf? place (.list parts)
      rules := parts.mapM (·.rule)
      matchers := parts.mapM (·.matcher) }
  | .table fields =>
    let parts := ofFields { place with inChoice := true } fields
    { tree := .table fields
      rule := ruleOf? place (.table parts)
      matcher := matcherOf? place (.table parts)
      rules := none
      matchers := none }
  | tree => scalar tree

/-- Reads the items of a list. -/
def ofTrees (place : Place) : List Tree → List Reading
  | [] => []
  | tree :: rest => ofTree place tree :: ofTrees place rest

/-- Reads the fields of a table. -/
def ofFields (place : Place) : List (String × Tree) → List (String × Reading)
  | [] => []
  | (name, tree) :: rest => (name, ofTree place tree) :: ofFields place rest

end

end Reading

/-- The rule that a tree denotes. -/
def RuleSpec.ofTree? (place : Place) (tree : Tree) : Option RuleSpec := do
  guard tree.isLegible
  (Reading.ofTree place tree).rule

/-- The matcher that a tree denotes. -/
def MatcherSpec.ofTree? (place : Place) (tree : Tree) : Option MatcherSpec := do
  guard tree.isLegible
  (Reading.ofTree place tree).matcher

/-- The tree of a choice: its tag and its fields. -/
def Tree.tagged (kind : String) (fields : List (String × Tree)) : Tree :=
  .table (("type", .text kind) :: fields)

/-- The tree of a count that may be missing. -/
def Tree.ofCount? : Option UInt64 → Tree
  | some count => .integer count.toNat
  | none => .null

/-- The tree of a comparison, of a kind whose name begins with a stem and after fields that come
first. -/
def TextTest.toTree (stem textName : String) (first : List (String × Tree)) : TextTest → Tree
  | text value ignoreCase =>
    .tagged (stem ++ "_string")
      (first ++ [(textName, .text value), ("case_insensitive", .bool ignoreCase)])
  | pattern source => .tagged (stem ++ "_regex") (first ++ [("regex", .text source)])

/-- The tree of a matcher on requested attributes. -/
def RequestedMatch.toTree (sought : RequestedMatch) : Tree :=
  .tagged "attribute_in_metadata" [("only_if_required", .bool sought.onlyIfRequired),
    ("match_if_metadata_silent", .bool sought.matchIfSilent),
    ("attribute_name", .ofText? sought.attributeName),
    ("attribute_name_format", .ofText? sought.attributeNameFormat)]

mutual

/-- The tree of a rule. -/
def RuleSpec.toTree : RuleSpec → Tree
  | .any => .tagged "any" []
  | .none => .tagged "none" []
  | .and rules => .tagged "and" [("rules", .list (ruleTrees rules))]
  | .or rules => .tagged "or" [("rules", .list (ruleTrees rules))]
  | .not rule => .tagged "not" [("rule", rule.toTree)]
  | .fact kind test => test.toTree kind.name "value" []
  | .valueCount id least most =>
    .tagged "attribute_value_count"
      [("attribute_id", .text id), ("min", .ofCount? least), ("max", .ofCount? most)]
  | .attributeValue id test => test.toTree "attribute_value" "value" [("attribute_id", .text id)]
  | .attributeScope id test => test.toTree "attribute_scope" "scope" [("attribute_id", .text id)]
  | .attributeMatcher id matcher =>
    .tagged "attribute_matcher" [("attribute_id", .text id), ("matcher", matcher.toTree)]
  | .entityAttributeText name format text party =>
    .tagged "entity_attribute_string" [("name", .text name), ("name_format", .ofText? format),
      ("value", .text text), ("target", .text party.name)]
  | .entityAttributePattern name format pattern party =>
    .tagged "entity_attribute_regex" [("name", .text name), ("name_format", .ofText? format),
      ("regex", .text pattern), ("target", .text party.name)]
  | .nameIdFormat format => .tagged "name_id_format" [("format", .text format)]
  | .registrationAuthority authorities ifSilent =>
    .tagged "registration_authority" [("authorities", .ofTexts authorities),
      ("match_if_metadata_silent", .bool ifSilent)]
  | .entityGroup group party =>
    .tagged "entity_group" [("group", .text group), ("target", .text party.name)]
  | .script source => .tagged "script" [("script", .text source)]
  | .reference id => .tagged "reference" [("id", .text id)]

/-- The trees of several rules. -/
def ruleTrees : List RuleSpec → List Tree
  | [] => []
  | rule :: rest => rule.toTree :: ruleTrees rest

/-- The tree of a matcher. -/
def MatcherSpec.toTree : MatcherSpec → Tree
  | .any => .tagged "any" []
  | .and matchers => .tagged "and" [("matchers", .list (matcherTrees matchers))]
  | .or matchers => .tagged "or" [("matchers", .list (matcherTrees matchers))]
  | .not matcher => .tagged "not" [("matcher", matcher.toTree)]
  | .value test => test.toTree "value" "value" []
  | .scope test => test.toTree "scope" "scope" []
  | .script source => .tagged "script" [("script", .text source)]
  | .requested sought => sought.toTree
  | .rule rule => .tagged "rule" [("rule", rule.toTree)]
  | .reference id => .tagged "reference" [("id", .text id)]

/-- The trees of several matchers. -/
def matcherTrees : List MatcherSpec → List Tree
  | [] => []
  | matcher :: rest => matcher.toTree :: matcherTrees rest

end

end AttributeRelease
