import AttributeRelease.Expression.Datum

/-!
# Expressions

The expressions of the scripting language, the Common Expression Language, as trees. The macros that go
through the elements of a list or map are forms of their own.
-/

namespace AttributeRelease.Expression

/-- An operation on two values, both of which are always needed. -/
inductive Operator where
  | add
  | sub
  | mul
  | div
  | mod
  | equal
  | notEqual
  | less
  | lessOrEqual
  | greater
  | greaterOrEqual
  | isIn
  deriving DecidableEq, Repr

/-- What becomes of the elements that are gone through. -/
inductive Walk where
  /-- Whether all satisfy a condition. -/
  | all
  /-- Whether some element satisfies a condition. -/
  | exists
  /-- Whether exactly one satisfies a condition. -/
  | existsOne
  /-- The list of those that satisfy a condition. -/
  | filter
  deriving DecidableEq, Repr

/-- An expression. -/
inductive Expr where
  | literal (value : Datum)
  | variable (name : String)
  | select (operand : Expr) (field : String)
  /-- Whether a map has a field. -/
  | has (operand : Expr) (field : String)
  | index (operand index : Expr)
  | not (operand : Expr)
  | neg (operand : Expr)
  | and (left right : Expr)
  | or (left right : Expr)
  | conditional (condition yes no : Expr)
  | operation (operator : Operator) (left right : Expr)
  /-- A function called by itself, or on a target. -/
  | call (name : String) (target : Option Expr) (arguments : List Expr)
  | list (items : List Expr)
  | map (entries : List (Expr × Expr))
  /-- A message with fields, of which there are none here. -/
  | message
  | walk (kind : Walk) (range : Expr) (name : String) (condition : Expr)
  /-- The list of what an expression gives for those elements that satisfy a condition. -/
  | collect (range : Expr) (name : String) (condition : Option Expr) (result : Expr)

end AttributeRelease.Expression
