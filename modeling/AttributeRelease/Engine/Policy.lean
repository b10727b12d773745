import AttributeRelease.Engine.WorkArea
import AttributeRelease.Rule.Evaluation

/-!
# Policies

A policy applies to a request if its requirement is true. It then permits or denies values of the
attributes for which it has rules and which the request has. What cannot be evaluated withholds: a
permit that does not apply permits nothing, and a deny that does not apply denies everything.
-/

namespace AttributeRelease

/-- What becomes of the values that a matcher selects. -/
inductive Effect where
  | permit
  | deny
  deriving DecidableEq, Repr

/-- A permit or denial of values of one attribute. -/
structure AttributeRule where
  attributeId : String
  effect : Effect
  matcher : Matcher

/-- Attribute rules under a requirement. -/
structure Policy where
  id : String
  requirement : Rule
  rules : List AttributeRule

/-- Why a filtering pass, or a part of it, failed. -/
inductive FilterError where
  /-- A script failed in a policy, in its requirement or in the rule for an attribute. -/
  | evaluation (policyId : String) (attributeId : Option String) (cause : ScriptError)
  /-- No engine was ever installed. -/
  | notInstalled
  /-- The engine was shut down. -/
  | shutDown
  deriving DecidableEq, Repr

/-- The wording of a filter error. -/
def FilterError.message : FilterError → String
  | evaluation policyId attributeId cause =>
    "Evaluation error in policy '" ++ policyId ++ "'" ++
      (match attributeId with
        | some id => " (attribute '" ++ id ++ "')"
        | none => "") ++ ": " ++ cause.message
  | notInstalled => "Filter engine unavailable: no engine has been installed"
  | shutDown => "Filter engine unavailable: engine has been shut down"

namespace AttributeRule

/-- Enters what a matcher selected into a work area. -/
def record (rule : AttributeRule) (resolved : Attribute) (area : WorkArea) :
    Selection → WorkArea
  | .matched values =>
    match rule.effect with
    | .permit => area.permit rule.attributeId values
    | .deny => area.deny rule.attributeId values
  | .notApplicable =>
    match rule.effect with
    | .permit => area
    | .deny => area.deny rule.attributeId resolved.valueSet

/-- Applies the rule to a request, which does nothing if the attribute is absent. -/
def apply (rule : AttributeRule) (request : Request) (area : WorkArea) :
    Except ScriptError WorkArea :=
  match request.attribute? rule.attributeId with
  | none => .ok area
  | some resolved => do
    return rule.record resolved area (← rule.matcher.select request resolved)

end AttributeRule

namespace Policy

/-- Whether the requirement is true for a request. -/
def isActive (policy : Policy) (request : Request) : Except FilterError Bool :=
  match policy.requirement.evaluate request with
  | .ok outcome => .ok outcome.isTrue
  | .error e => .error (.evaluation policy.id none e)

/-- Applies rules of a policy one after the other: the work area after them, or after those before
the first that fails, and its failure. -/
def applyRules (policy : Policy) (request : Request) :
    List AttributeRule → WorkArea → WorkArea × Option FilterError
  | [], area => (area, none)
  | rule :: rest, area =>
    match rule.apply request area with
    | .ok area => policy.applyRules request rest area
    | .error e => (area, some (.evaluation policy.id (some rule.attributeId) e))

/-- Applies all rules of the policy, whether it is active or not. -/
def apply (policy : Policy) (request : Request) (area : WorkArea) :
    WorkArea × Option FilterError :=
  policy.applyRules request policy.rules area

end Policy

end AttributeRelease
