import AttributeRelease.NameMap
import AttributeRelease.Rule.Basic

/-!
# Configurations

What an engine is told: its settings, named rules and matchers, and policies. Rules and matchers are
as they were written; nothing about them has been checked yet, and they may refer to named ones.
-/

namespace AttributeRelease

/-- A comparison as it is written: with a text, or with a pattern. -/
inductive TextTest where
  | text (text : String) (ignoreCase : Bool)
  | pattern (pattern : String)
  deriving DecidableEq, Repr

mutual

/-- A rule as it is written. -/
inductive RuleSpec where
  | any
  | none
  | and (rules : List RuleSpec)
  | or (rules : List RuleSpec)
  | not (rule : RuleSpec)
  | fact (kind : FactKind) (test : TextTest)
  | valueCount (attributeId : String) (least most : Option UInt64)
  | attributeValue (attributeId : String) (test : TextTest)
  | attributeScope (attributeId : String) (test : TextTest)
  | attributeMatcher (attributeId : String) (matcher : MatcherSpec)
  | entityAttributeText (name : String) (format : Option String) (text : String) (party : Party)
  | entityAttributePattern (name : String) (format : Option String) (pattern : String)
      (party : Party)
  | nameIdFormat (format : String)
  | registrationAuthority (authorities : List String) (matchIfSilent : Bool)
  | entityGroup (group : String) (party : Party)
  | script (source : String)
  /-- The named rule with an id. -/
  | reference (id : String)

/-- A matcher as it is written. -/
inductive MatcherSpec where
  | any
  | and (matchers : List MatcherSpec)
  | or (matchers : List MatcherSpec)
  | not (matcher : MatcherSpec)
  | value (test : TextTest)
  | scope (test : TextTest)
  | script (source : String)
  | requested (sought : RequestedMatch)
  | rule (rule : RuleSpec)
  /-- The named matcher with an id. -/
  | reference (id : String)

end

instance : Inhabited RuleSpec := ⟨.any⟩

instance : Inhabited MatcherSpec := ⟨.any⟩

/-- A rule for an attribute as it is written. One of the two matchers should be there. -/
structure AttributeRuleSpec where
  attributeId : String
  permit : Option MatcherSpec
  deny : Option MatcherSpec

/-- A policy as it is written. -/
structure PolicySpec where
  id : String
  description : Option String
  requirement : RuleSpec
  rules : List AttributeRuleSpec

/-- Named rules, named matchers and policies, as one file defines them. -/
structure PolicySet where
  rules : NameMap RuleSpec
  matchers : NameMap MatcherSpec
  policies : List PolicySpec

/-- Settings of the engine as a whole. -/
structure EngineSettings where
  /-- The name of the engine. -/
  id : String
  /-- How many bytes a script may have; zero sets no limit. -/
  maxScriptLength : UInt64
  /-- Files with further definitions and policies. -/
  policyFiles : List String

/-- How much is logged. -/
inductive LogLevel where
  | trace
  | debug
  | info
  | warn
  | error
  deriving DecidableEq, Repr

/-- How log lines look. -/
inductive LogFormat where
  | pretty
  | compact
  | json
  deriving DecidableEq, Repr

/-- Settings of the log. -/
structure LogSettings where
  level : LogLevel
  format : LogFormat
  timestamps : Bool
  /-- Whether lines tell the place in the program that wrote them. -/
  fileLine : Bool
  includeSpans : Bool
  filter : Option String

/-- All that an engine is told. -/
structure Config where
  engine : EngineSettings
  /-- The file with the metadata of the parties. -/
  metadataPath : Option String
  log : LogSettings
  definitions : PolicySet

namespace EngineSettings

/-- The settings if nothing is said. -/
def default : EngineSettings := ⟨"default", 4096, []⟩

end EngineSettings

namespace LogSettings

/-- The settings if nothing is said. -/
def default : LogSettings := ⟨.info, .compact, true, false, true, none⟩

end LogSettings

namespace PolicySet

/-- Nothing is defined. -/
def empty : PolicySet := ⟨∅, ∅, []⟩

end PolicySet

namespace Config

/-- The configuration if nothing is said. -/
def default : Config := ⟨.default, none, .default, .empty⟩

end Config

end AttributeRelease
