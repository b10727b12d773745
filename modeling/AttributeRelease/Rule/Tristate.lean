/-!
# Truth with failure

Rules about a request are true, false, or fail for want of a fact. A failure is never taken for
truth, and its negation is a failure too.
-/

namespace AttributeRelease

/-- The outcome of a rule. -/
inductive Tristate where
  | true
  | false
  /-- A fact that the rule needs is missing. -/
  | fail
  deriving DecidableEq, Repr

namespace Tristate

/-- A decided outcome. -/
def ofBool (value : Bool) : Tristate := if value then true else false

/-- Failure beats falsity, and falsity beats truth. -/
def and : Tristate → Tristate → Tristate
  | fail, _ => fail
  | _, fail => fail
  | false, _ => false
  | _, false => false
  | true, true => true

/-- Truth beats failure, and failure beats falsity. -/
def or : Tristate → Tristate → Tristate
  | true, _ => true
  | _, true => true
  | fail, _ => fail
  | _, fail => fail
  | false, false => false

/-- Truth and falsity change places; failure stays. -/
def not : Tristate → Tristate
  | true => false
  | false => true
  | fail => fail

/-- Whether the outcome is truth. -/
def isTrue (outcome : Tristate) : Bool := outcome == true

/-- The name of an outcome. -/
def name : Tristate → String
  | true => "TRUE"
  | false => "FALSE"
  | fail => "FAIL"

end Tristate

end AttributeRelease
