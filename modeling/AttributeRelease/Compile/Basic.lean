import AttributeRelease.Compile.Fault
import AttributeRelease.Config.Basic
import AttributeRelease.Engine.Basic

/-!
# Compiling configurations

An engine is built from a configuration by checking every rule and matcher and putting named ones in
the places that refer to them. Named rules and matchers are checked on their own as well, used or
not. The first fault ends the compilation.

What a reference stands for is a parameter of `compileRule` and `compileMatcher`, which go down the
rule that they compile. `References.within` supplies it: it keeps the references that are open, of
which none may be met again, and the number of those that can still be opened.
-/

namespace AttributeRelease

/-- A reference to a named definition. -/
inductive Reference where
  | rule (id : String)
  | matcher (id : String)
  deriving DecidableEq, Repr

/-- What references stand for. -/
structure References where
  rule : String → Except Fault Rule
  matcher : String → Except Fault Matcher

namespace Compile

/-- Refuses a blank text. -/
def nonBlank (text : String) (fault : Fault) : Except Fault Unit :=
  if Text.isBlank text then .error fault else .ok ()

/-- The comparison that a test asks for. -/
def test : TextTest → Except Fault StringMatch
  | .text text ignoreCase => (StringMatch.ofText text ignoreCase).mapError .comparison
  | .pattern pattern => (StringMatch.ofPattern pattern).mapError .comparison

/-- The script of a source text that is not blank and not too long; a limit of zero is none. -/
def script (host : ScriptHost) (limit : UInt64) (source : String) : Except Fault Script :=
  if Text.isBlank source then .error (.script (.compile "script is empty"))
  else if 0 < limit ∧ limit.toNat < source.utf8ByteSize then
    .error (.script (.compile ("script is " ++ toString source.utf8ByteSize ++
      " bytes, maximum is " ++ toString limit.toNat)))
  else (host.compile source).mapError .script

/-- The bounds of a value count: at least one, and in order. -/
def valueCount (id : String) (least most : Option UInt64) : Except Fault ValueCount := do
  nonBlank id .emptyAttributeId
  match least, most with
  | none, none => .error (.noBounds id)
  | some least, some most =>
    if most < least then .error (.reversedBounds id least.toNat most.toNat)
    else .ok ⟨id, some least.toNat, some most.toNat⟩
  | _, _ => .ok ⟨id, least.map UInt64.toNat, most.map UInt64.toNat⟩

/-- A rule that asks whether a matcher selects a value of an attribute. -/
def attributeValues (id : String) (matcher : Matcher) : Except Fault Rule := do
  nonBlank id .emptyAttributeId
  return .attributeValues id matcher

/-- A check of an entity attribute. -/
def entityAttribute (name : String) (format : Option String) (test : StringMatch)
    (party : Party) : Except Fault Rule := do
  nonBlank name .emptyEntityAttributeName
  return .metadata (.entityAttribute party (Text.trim name) format test)

/-- A check of the registration authority against those that are not blank. -/
def registrationAuthority (authorities : List String) (matchIfSilent : Bool) :
    Except Fault Rule :=
  let trimmed := (authorities.map Text.trim).filter (· ≠ "")
  if trimmed.isEmpty then .error .noAuthority
  else .ok (.metadata (.registrationAuthority trimmed matchIfSilent))

/-- The matcher that selects everything if a rule holds. Metadata checks cannot fail, so they need no
rule around them. -/
def matcherOfRule : Rule → Matcher
  | .metadata check => .metadata check
  | rule => .fromRule rule

end Compile

open Compile in
mutual

/-- The rule that is meant, with what its references stand for. -/
def compileRule (host : ScriptHost) (limit : UInt64) (references : References) :
    RuleSpec → Except Fault Rule
  | .any => .ok .any
  | .none => .ok .none
  | .and [] => .error (.noParts "and")
  | .and (rule :: rest) => do
    let first ← compileRule host limit references rule
    return .and (first :: (← compileRules host limit references rest))
  | .or [] => .error (.noParts "or")
  | .or (rule :: rest) => do
    let first ← compileRule host limit references rule
    return .or (first :: (← compileRules host limit references rest))
  | .not rule => do
    return .not (← compileRule host limit references rule)
  | .fact kind comparison => do
    return .fact kind (← test comparison)
  | .valueCount id least most => do
    return .valueCount (← valueCount id least most)
  | .attributeValue id comparison => do
    attributeValues id (.value (← test comparison))
  | .attributeScope id comparison => do
    attributeValues id (.scope (← test comparison))
  | .attributeMatcher id matcher => do
    attributeValues id (← compileMatcher host limit references matcher)
  | .entityAttributeText name format text party => do
    entityAttribute name format (← test (.text text false)) party
  | .entityAttributePattern name format pattern party => do
    entityAttribute name format (← test (.pattern pattern)) party
  | .nameIdFormat format => do
    nonBlank format .emptyNameIdFormat
    return .metadata (.nameIdFormat (Text.trim format))
  | .registrationAuthority authorities matchIfSilent =>
    registrationAuthority authorities matchIfSilent
  | .entityGroup group party => do
    nonBlank group .emptyGroup
    return .metadata (.entityGroup party (Text.trim group))
  | .script source => do
    return .script (← script host limit source)
  | .reference id => references.rule id

/-- The rules that are meant, one after the other. -/
def compileRules (host : ScriptHost) (limit : UInt64) (references : References) :
    List RuleSpec → Except Fault (List Rule)
  | [] => .ok []
  | rule :: rest => do
    let first ← compileRule host limit references rule
    return first :: (← compileRules host limit references rest)

/-- The matcher that is meant, with what its references stand for. -/
def compileMatcher (host : ScriptHost) (limit : UInt64) (references : References) :
    MatcherSpec → Except Fault Matcher
  | .any => .ok .any
  | .and matchers => do
    return .and (← compileMatchers host limit references matchers)
  | .or matchers => do
    return .or (← compileMatchers host limit references matchers)
  | .not matcher => do
    return .not (← compileMatcher host limit references matcher)
  | .value comparison => do
    return .value (← test comparison)
  | .scope comparison => do
    return .scope (← test comparison)
  | .script source => do
    return .script (← script host limit source)
  | .requested sought => .ok (.requested sought)
  | .rule rule => do
    return matcherOfRule (← compileRule host limit references rule)
  | .reference id => references.matcher id

/-- The matchers that are meant, one after the other. -/
def compileMatchers (host : ScriptHost) (limit : UInt64) (references : References) :
    List MatcherSpec → Except Fault (List Matcher)
  | [] => .ok []
  | matcher :: rest => do
    let first ← compileMatcher host limit references matcher
    return first :: (← compileMatchers host limit references rest)

end

namespace References

/-- What a reference stands for while others are open: the compiled definition of its name, unless
there is none, or it is open already. At most `left` more can be opened. -/
def within (config : Config) (host : ScriptHost) : (left : Nat) → List Reference → References
  | 0, _ =>
    { rule := fun id =>
        if config.definitions.rules.contains id then .error (.cycle id)
        else .error (.unknownReference id)
      matcher := fun id =>
        if config.definitions.matchers.contains id then .error (.cycle id)
        else .error (.unknownReference id) }
  | left + 1, openOnes =>
    { rule := fun id =>
        match config.definitions.rules.find? id with
        | none => .error (.unknownReference id)
        | some definition =>
          if .rule id ∈ openOnes then .error (.cycle id)
          else
            compileRule host config.engine.maxScriptLength
              (within config host left (.rule id :: openOnes)) definition
      matcher := fun id =>
        match config.definitions.matchers.find? id with
        | none => .error (.unknownReference id)
        | some definition =>
          if .matcher id ∈ openOnes then .error (.cycle id)
          else
            compileMatcher host config.engine.maxScriptLength
              (within config host left (.matcher id :: openOnes)) definition }

/-- What references stand for while some are open. No more than all definitions can be open at
once. -/
def ofConfig (config : Config) (host : ScriptHost) (openOnes : List Reference) : References :=
  within config host (config.definitions.rules.size + config.definitions.matchers.size) openOnes

end References

namespace Config

/-- The compiled form of a rule, while some references are open. -/
def compileRule (config : Config) (host : ScriptHost) (openOnes : List Reference)
    (rule : RuleSpec) : Except Fault Rule :=
  AttributeRelease.compileRule host config.engine.maxScriptLength
    (.ofConfig config host openOnes) rule

/-- The compiled form of a matcher, while some references are open. -/
def compileMatcher (config : Config) (host : ScriptHost) (openOnes : List Reference)
    (matcher : MatcherSpec) : Except Fault Matcher :=
  AttributeRelease.compileMatcher host config.engine.maxScriptLength
    (.ofConfig config host openOnes) matcher

/-- Checks a named rule on its own. -/
def checkRule (config : Config) (host : ScriptHost) (id : String) (rule : RuleSpec) :
    Except BuildError Unit := do
  let _ ← (config.compileRule host [.rule id] rule).mapError
    (.fault ("requirement_rules." ++ id))

/-- Checks a named matcher on its own. -/
def checkMatcher (config : Config) (host : ScriptHost) (id : String) (matcher : MatcherSpec) :
    Except BuildError Unit := do
  let _ ← (config.compileMatcher host [.matcher id] matcher).mapError (.fault ("matchers." ++ id))

/-- The compiled form of a rule for an attribute, which has to say either what it permits or what it
denies. -/
def compileAttributeRule (config : Config) (host : ScriptHost) (rule : AttributeRuleSpec) :
    Except Fault AttributeRule := do
  Compile.nonBlank rule.attributeId .emptyRuleAttribute
  match rule.permit, rule.deny with
  | some permit, none =>
    return ⟨rule.attributeId, .permit, ← config.compileMatcher host [] permit⟩
  | none, some deny => return ⟨rule.attributeId, .deny, ← config.compileMatcher host [] deny⟩
  | some _, some _ => .error (.bothEffects rule.attributeId)
  | none, none => .error (.noEffect rule.attributeId)

/-- The compiled form of a policy. -/
def compilePolicy (config : Config) (host : ScriptHost) (policy : PolicySpec) :
    Except Fault Policy := do
  Compile.nonBlank policy.id .emptyPolicyId
  let requirement ← config.compileRule host [] policy.requirement
  return ⟨policy.id, requirement, ← policy.rules.mapM (config.compileAttributeRule host)⟩

/-- The compiled forms of policies whose ids differ from each other and from those before them. -/
def compilePolicies (config : Config) (host : ScriptHost) (before : List String) :
    List PolicySpec → Except BuildError (List Policy)
  | [] => .ok []
  | policy :: rest =>
    if policy.id ∈ before then .error (.duplicatePolicy policy.id)
    else do
      let compiled ← (config.compilePolicy host policy).mapError (.fault policy.id)
      return compiled :: (← config.compilePolicies host (policy.id :: before) rest)

/-- The engine of a configuration. -/
def compile (config : Config) (host : ScriptHost) : Except BuildError Engine := do
  config.definitions.rules.toList.forM fun (id, rule) => config.checkRule host id rule
  config.definitions.matchers.toList.forM fun (id, matcher) => config.checkMatcher host id matcher
  return ⟨config.engine.id, ← config.compilePolicies host [] config.definitions.policies⟩

end Config

end AttributeRelease
