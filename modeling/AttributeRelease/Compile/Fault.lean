import AttributeRelease.Rule.StringMatch
import AttributeRelease.Script.Basic

/-!
# Faults of configurations

Why no engine can be built from a configuration. A fault belongs to a policy, or to a named rule or
matcher, which its label tells.
-/

namespace AttributeRelease

/-- What is wrong with a rule, a matcher or a policy. -/
inductive Fault where
  | emptyPolicyId
  /-- A rule for an attribute does not name one. -/
  | emptyRuleAttribute
  | bothEffects (attributeId : String)
  | noEffect (attributeId : String)
  /-- A conjunction or disjunction of rules, by its name, has no parts. -/
  | noParts (kind : String)
  | emptyAttributeId
  | noBounds (attributeId : String)
  | reversedBounds (attributeId : String) (least most : Nat)
  | emptyEntityAttributeName
  | emptyNameIdFormat
  | noAuthority
  | emptyGroup
  | comparison (error : StringMatchError)
  | script (error : ScriptError)
  | unknownReference (id : String)
  | cycle (id : String)
  deriving DecidableEq, Repr

/-- Why an engine cannot be built. -/
inductive BuildError where
  | duplicatePolicy (id : String)
  | fault (label : String) (fault : Fault)
  deriving DecidableEq, Repr

/-- The wording of a fault, which for an invalid pattern ends where the account of what is wrong with
it would go on. -/
def Fault.message : Fault → String
  | emptyPolicyId => "policy id must not be empty"
  | emptyRuleAttribute => "attribute rule has an empty attribute_id"
  | bothEffects id => "rule for attribute '" ++ id ++ "' sets both permit and deny"
  | noEffect id => "rule for attribute '" ++ id ++ "' sets neither permit nor deny"
  | noParts kind => "'" ++ kind ++ "' rule needs at least one child rule"
  | emptyAttributeId => "rule has an empty attribute_id"
  | noBounds id => "value count rule for '" ++ id ++ "' needs a min or max"
  | reversedBounds id least most =>
    "value count rule for '" ++ id ++ "' has min " ++ toString least ++ " > max " ++ toString most
  | emptyEntityAttributeName => "entity attribute rule needs a name"
  | emptyNameIdFormat => "name_id_format rule needs a format"
  | noAuthority => "registration_authority rule needs an authority"
  | emptyGroup => "entity_group rule needs a group"
  | .comparison .emptyText => "match string must not be empty"
  | .comparison .emptyPattern => "regular expression must not be empty"
  | .comparison (.invalidPattern text) => "invalid regular expression '" ++ text ++ "'"
  | script error => "invalid script: " ++ error.message
  | unknownReference id => "unknown reference '" ++ id ++ "'"
  | cycle id => "reference cycle through '" ++ id ++ "'"

namespace BuildError

/-- The wording of a build error. -/
def message : BuildError → String
  | duplicatePolicy id => "Duplicate policy id '" ++ id ++ "'"
  | fault label cause => "Policy '" ++ label ++ "': " ++ cause.message

/-- The policy, or the label of the named rule or matcher, that an error belongs to. -/
def policyId : BuildError → String
  | duplicatePolicy id => id
  | fault label _ => label

end BuildError

end AttributeRelease
