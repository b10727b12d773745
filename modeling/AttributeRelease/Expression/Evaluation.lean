import AttributeRelease.Expression.Basic
import AttributeRelease.Expression.Function

/-!
# Evaluating expressions

The value of an expression where some variables have values. A conjunction or disjunction looks at its
right side only if the left one does not decide, and a conditional at one of its branches. Every other
failure makes the whole expression fail, which has no value then.
-/

namespace AttributeRelease.Expression

/-- The values of variables, of which the first one for a name counts. -/
abbrev Scope := List (String × Datum)

/-- The value of an operation. -/
def Operator.result? (left right : Datum) : Operator → Option Datum
  | add => left.add? right
  | sub => left.sub? right
  | mul => left.mul? right
  | div => left.div? right
  | mod => left.mod? right
  | equal => some (.bool (left.equals right))
  | notEqual => some (.bool (!left.equals right))
  | less => (left.compare? right).map fun order => .bool (order == .lt)
  | lessOrEqual => (left.compare? right).map fun order => .bool (order != .gt)
  | greater => (left.compare? right).map fun order => .bool (order == .gt)
  | greaterOrEqual => (left.compare? right).map fun order => .bool (order != .lt)
  | isIn => (left.isIn? right).map .bool

/-- The field of a map, or else the function of that name, which is not called. -/
def Datum.select? (target : Datum) (name : String) : Option Datum :=
  target.field? name <|> (takes? name).map fun _ => .function name target

/-- How many arguments of a call are looked at whatever its function takes: the first one if there are
one or two, as many as operators have operands. -/
def neededAnyway (arguments : Nat) : Nat := if arguments = 1 ∨ arguments = 2 then 1 else 0

/-- Whether all elements satisfy a condition, asked up to the first that does not. -/
def allSatisfy (condition : Datum → Option Datum) : List Datum → Option Datum
  | [] => some (.bool true)
  | element :: rest => do
    if (← condition element).isTruthy then allSatisfy condition rest else return .bool false

/-- The value of a condition for the first element that satisfies it, or for the last element: what is
`found` if there is none. -/
def firstSatisfying (condition : Datum → Option Datum) (found : Datum) :
    List Datum → Option Datum
  | [] => some found
  | element :: rest => do
    let value ← condition element
    if value.isTruthy then return value else firstSatisfying condition value rest

/-- The elements that satisfy a condition. -/
def satisfying (condition : Datum → Option Datum) : List Datum → Option (List Datum)
  | [] => some []
  | element :: rest => do
    let value ← condition element
    let others ← satisfying condition rest
    return if value.isTruthy then element :: others else others

/-- What comes of going through elements. -/
def Walk.result? (condition : Datum → Option Datum) (elements : List Datum) : Walk → Option Datum
  | all => allSatisfy condition elements
  | .exists => firstSatisfying condition (.bool false) elements
  | existsOne => (satisfying condition elements).map fun found => .bool (found.length == 1)
  | filter => (satisfying condition elements).map .list

mutual

/-- The value of an expression. -/
def Expr.evaluate? (scope : Scope) : Expr → Option Datum
  | .literal value => some value
  | .variable name => (scope.find? (·.1 == name)).map (·.2)
  | .select operand field => do (← operand.evaluate? scope).select? field
  | .has operand field => do
    return .bool ((← operand.evaluate? scope).hasField field)
  | .index operand index => do
    let value ← operand.evaluate? scope
    value.at? (← index.evaluate? scope)
  | .not operand => do
    return .bool !(← operand.evaluate? scope).isTruthy
  | .neg operand => do (← operand.evaluate? scope).neg?
  | .and left right => do
    if (← left.evaluate? scope).isTruthy then
      return .bool (← right.evaluate? scope).isTruthy
    else return .bool false
  | .or left right => do
    let value ← left.evaluate? scope
    if value.isTruthy then return value else right.evaluate? scope
  | .conditional condition yes no => do
    if (← condition.evaluate? scope).isTruthy then yes.evaluate? scope else no.evaluate? scope
  | .operation operator left right => do
    let leftValue ← left.evaluate? scope
    operator.result? leftValue (← right.evaluate? scope)
  | .call name none arguments => do
    let _ ← evaluateFirst? scope (neededAnyway arguments.length) arguments
    match ← takes? name with
    | .target number => call? name (← evaluateFirst? scope (number + 1) arguments)
    | .arguments number => call? name (← evaluateFirst? scope number arguments)
    | .all => call? name (← evaluateFirst? scope arguments.length arguments)
  | .call name (some target) arguments => do
    let _ ← evaluateFirst? scope (neededAnyway arguments.length) arguments
    let takes ← takes? name
    let value ← target.evaluate? scope
    match takes with
    | .target number => call? name (value :: (← evaluateFirst? scope number arguments))
    | .arguments number => call? name (← evaluateFirst? scope number arguments)
    | .all => call? name (← evaluateFirst? scope arguments.length arguments)
  | .list items => do
    return .list (← evaluateFirst? scope items.length items)
  | .map entries => do
    return .map (← evaluateEntries? scope [] entries)
  | .message => none
  | .walk kind range name condition => do
    let elements ← (← range.evaluate? scope).elements?
    kind.result? (fun element => condition.evaluate? ((name, element) :: scope)) elements
  | .collect range name none result => do
    let elements ← (← range.evaluate? scope).elements?
    return .list (← elements.mapM fun element => result.evaluate? ((name, element) :: scope))
  | .collect range name (some condition) result => do
    let elements ← (← range.evaluate? scope).elements?
    let values ← elements.mapM fun element => do
      if (← condition.evaluate? ((name, element) :: scope)).isTruthy then
        return some (← result.evaluate? ((name, element) :: scope))
      else return none
    return .list (values.filterMap id)

/-- The values of the first expressions of a list, of which there have to be so many. -/
def evaluateFirst? (scope : Scope) : Nat → List Expr → Option (List Datum)
  | 0, _ => some []
  | _ + 1, [] => none
  | count + 1, e :: rest => do
    let value ← e.evaluate? scope
    return value :: (← evaluateFirst? scope count rest)

/-- The entries of a map after those found so far, of which later ones replace earlier ones. -/
def evaluateEntries? (scope : Scope) (found : List (Key × Datum)) :
    List (Expr × Expr) → Option (List (Key × Datum))
  | [] => some found
  | (key, value) :: rest => do
    let key ← (← key.evaluate? scope).toKey?
    let value ← value.evaluate? scope
    evaluateEntries? scope (Datum.put found key value) rest

end

end AttributeRelease.Expression
