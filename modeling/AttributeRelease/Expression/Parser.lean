import AttributeRelease.Expression.Basic
import AttributeRelease.Expression.Token

/-!
# Reading expressions

Reading tokens as an expression. Each level of the grammar is a reader that is given the reader for
the expressions inside brackets. A call of a macro has to name the variable that goes through the
elements; with another number of arguments it is an ordinary call.
-/

namespace AttributeRelease.Expression.Parser

open AttributeRelease.Text (ReaderOf)
open AttributeRelease.Text.Reader

/-- Takes a value off the front of a list of tokens, or refuses. -/
abbrev TokenReader (α : Type) := ReaderOf Token α

/-- Takes the next token if it is a symbol with a spelling, and tells whether it was. -/
def acceptSymbol (spelling : String) : TokenReader Bool := accept (.symbol spelling)

/-- Takes a symbol. -/
def expectSymbol (spelling : String) : TokenReader Unit := do
  check (← acceptSymbol spelling)

/-- Takes a name. -/
def identifier : TokenReader String := do
  match ← next with
  | .identifier name => return name
  | _ => fail

/-- Takes the name of a field, which may stand in backquotes. They belong to the name. -/
def fieldName : TokenReader String := do
  match ← next with
  | .identifier name => return name
  | .quotedName name => return name
  | _ => fail

/-- Takes operands with operators between them, which group to the left. -/
def chain (operand : TokenReader Expr) (operator? : Token → Option (Expr → Expr → Expr)) :
    TokenReader Expr := do
  let first ← operand
  iterate (fun left => do
    match (← peek?).bind operator? with
    | some join =>
      let _ ← next
      return .inl (join left (← operand))
    | none => return .inr left) first

/-- Takes items with commas between them up to a closing symbol. A comma may stand before it if that is
allowed. -/
def items {α : Type} (close : String) (lastComma : Bool) (item : TokenReader α) :
    TokenReader (List α) := do
  if ← acceptSymbol close then return []
  if lastComma && (← peekMany 2) == [.symbol ",", .symbol close] then
    let _ ← takeExactly 2
    return []
  let reversed ← iterate (fun reversed => do
    let reversed := (← item) :: reversed
    if ← acceptSymbol "," then
      if lastComma then
        if ← acceptSymbol close then return .inr reversed
      return .inl reversed
    else
      expectSymbol close
      return .inr reversed) []
  return reversed.reverse

/-- The whole number that digits with an optional sign spell, if it fits. -/
def integer? (negative : Bool) (digits : String) : Option Datum :=
  match digits.toList with
  | '0' :: 'x' :: rest => if negative then none else Datum.integer? (Text.hexadecimal rest)
  | chars =>
    let value : Int := Text.decimal chars
    Datum.integer? (if negative then -value else value)

/-- The double that digits with an optional sign spell, if it is finite. -/
def double? (negative : Bool) (digits : String) : Option Datum :=
  match Text.Double.read? digits with
  | some value =>
    if value.isFinite then some (.double (if negative then -value else value)) else none
  | none => none

/-- The value that a token spells after an optional sign, if it is a literal. -/
def literal? (negative : Bool) : Token → Option (Option Datum)
  | .integer digits => some (integer? negative digits)
  | .double digits => some (double? negative digits)
  | .unsigned value => if negative then none else some (some (.unsigned value))
  | .text value => if negative then none else some (some (.text value))
  | .bytes octets => if negative then none else some (some (.bytes octets))
  | .word "true" => if negative then none else some (some (.bool true))
  | .word "false" => if negative then none else some (some (.bool false))
  | .word "null" => if negative then none else some (some .null)
  | _ => none

/-- The variable that the first argument of a macro names. -/
def walker? : Expr → Option String
  | .variable name => some name
  | _ => none

/-- The expression of a function called by itself. -/
def call? (name : String) (arguments : List Expr) : Option Expr :=
  match name, arguments with
  | "has", [.select operand field] => some (.has operand field)
  | "has", [.has operand field] => some (.has operand field)
  | "has", [_] => none
  | _, _ => some (.call name none arguments)

/-- The expression of a function called on a target. -/
def callOn? (target : Expr) (name : String) (arguments : List Expr) : Option Expr :=
  match name, arguments with
  | "all", [first, condition] => (walker? first).map (.walk .all target · condition)
  | "exists", [first, condition] => (walker? first).map (.walk .exists target · condition)
  | "exists_one", [first, condition] => (walker? first).map (.walk .existsOne target · condition)
  | "existsOne", [first, condition] => (walker? first).map (.walk .existsOne target · condition)
  | "filter", [first, condition] => (walker? first).map (.walk .filter target · condition)
  | "map", [first, result] => (walker? first).map (.collect target · none result)
  | "map", [first, condition, result] =>
    (walker? first).map (.collect target · (some condition) result)
  | _, _ => some (.call name (some target) arguments)

/-- Goes on with an expression if there is one. -/
def orFail {α : Type} : Option α → TokenReader α
  | some value => pure value
  | none => fail

/-- Whether the tokens go on with the name of a message and its opening brace: names that dots
separate. -/
def startsMessage : List Token → Bool
  | .identifier _ :: .symbol "\x7b" :: _ => true
  | .identifier _ :: .symbol "." :: rest => startsMessage rest
  | _ => false

/-- Takes a message after the first dot that may stand before it. -/
def message (inner : TokenReader Expr) : TokenReader Expr := do
  iterate (fun _ => do
    let _ ← identifier
    if ← acceptSymbol "." then return .inl () else return .inr ()) ()
  expectSymbol "\x7b"
  let _ ← items "\x7d" true (do
    let _ ← fieldName
    expectSymbol ":"
    inner)
  return .message

/-- Takes a variable, a function called by itself, or a message. A dot before a variable changes nothing;
before a function it belongs to the name. -/
def named (inner : TokenReader Expr) : TokenReader Expr := do
  let dotted ← acceptSymbol "."
  if ← fun input => some (startsMessage input, input) then message inner
  else
    let name ← identifier
    if ← acceptSymbol "(" then
      let name := if dotted then "." ++ name else name
      orFail (call? name (← items ")" false inner))
    else return .variable name

/-- Takes a literal, a name, or something in brackets. -/
def primary (inner : TokenReader Expr) : TokenReader Expr := do
  let negative ← acceptSymbol "-"
  match (← peek?).bind (literal? negative) with
  | some value =>
    let _ ← next
    return .literal (← orFail value)
  | none =>
    check (!negative)
    if ← acceptSymbol "(" then
      let e ← inner
      expectSymbol ")"
      return e
    else if ← acceptSymbol "[" then return .list (← items "]" true inner)
    else if ← acceptSymbol "\x7b" then
      return .map (← items "\x7d" true (do
        let key ← inner
        expectSymbol ":"
        return (key, ← inner)))
    else named inner

/-- Takes what may follow a primary expression: fields, functions called on it, and indexes. -/
def member (inner : TokenReader Expr) : TokenReader Expr := do
  let first ← primary inner
  iterate (fun e => do
    if ← acceptSymbol "." then
      if (← peekMany 2)[1]? == some (.symbol "(") then
        let name ← identifier
        expectSymbol "("
        return .inl (← orFail (callOn? e name (← items ")" false inner)))
      else return .inl (.select e (← fieldName))
    else if ← acceptSymbol "[" then
      let index ← inner
      expectSymbol "]"
      return .inl (.index e index)
    else return .inr e) first

/-- Whether a token spells a number that a sign can belong to. -/
def isSignable : Token → Bool
  | .integer _ => true
  | .double _ => true
  | _ => false

/-- Takes signs of one kind, and what they apply to. Repeating a sign changes nothing: two do not cancel
each other. A single hyphen before a number belongs to the number. -/
def unary (inner : TokenReader Expr) : TokenReader Expr := do
  match ← peekMany 2 with
  | .symbol "!" :: _ =>
    let _ ← takeWhile (· == .symbol "!")
    return .not (← member inner)
  | .symbol "-" :: rest =>
    if rest.any isSignable then member inner
    else
      let _ ← takeWhile (· == .symbol "-")
      return .neg (← member inner)
  | _ => member inner

/-- The operators that bind most. -/
def product? : Token → Option (Expr → Expr → Expr)
  | .symbol "*" => some (.operation .mul)
  | .symbol "/" => some (.operation .div)
  | .symbol "%" => some (.operation .mod)
  | _ => none

/-- The operators for sums. -/
def sum? : Token → Option (Expr → Expr → Expr)
  | .symbol "+" => some (.operation .add)
  | .symbol "-" => some (.operation .sub)
  | _ => none

/-- The operators that compare. -/
def relation? : Token → Option (Expr → Expr → Expr)
  | .symbol "==" => some (.operation .equal)
  | .symbol "!=" => some (.operation .notEqual)
  | .symbol "<" => some (.operation .less)
  | .symbol "<=" => some (.operation .lessOrEqual)
  | .symbol ">" => some (.operation .greater)
  | .symbol ">=" => some (.operation .greaterOrEqual)
  | .word "in" => some (.operation .isIn)
  | _ => none

/-- The operator for conjunctions. -/
def conjunction? : Token → Option (Expr → Expr → Expr)
  | .symbol "&&" => some .and
  | _ => none

/-- The operator for disjunctions. -/
def disjunction? : Token → Option (Expr → Expr → Expr)
  | .symbol "||" => some .or
  | _ => none

/-- Takes a disjunction. -/
def disjunction (inner : TokenReader Expr) : TokenReader Expr :=
  chain (chain (chain (chain (chain (unary inner) product?) sum?) relation?) conjunction?)
    disjunction?

/-- Takes an expression, in which expressions are nested at most so deep. -/
def expression : Nat → TokenReader Expr
  | 0 => fail
  | depth + 1 => do
    let condition ← disjunction (expression depth)
    if ← acceptSymbol "?" then
      let yes ← disjunction (expression depth)
      expectSymbol ":"
      return .conditional condition yes (← expression depth)
    else return condition

/-- The expression that a text denotes. Every level of nesting takes a token. -/
def read? (text : String) : Option Expr := do
  let tokens ← Token.ofText? text
  wholeOf? (expression (tokens.length + 1)) tokens

end AttributeRelease.Expression.Parser
