import AttributeRelease.Attribute.Value
import AttributeRelease.Regex.Pattern
import AttributeRelease.Text.Blank
import AttributeRelease.Text.LowerCase

/-!
# Comparing strings

The comparison of a fact or a value with what a policy asks for: with one string, with or without
regard to case, or with a pattern that has to match all of it. Blanks around the string or pattern of
a policy do not count, and nothing but blanks is refused.
-/

namespace AttributeRelease

/-- A comparison with a string or pattern. -/
inductive StringMatch where
  /-- Equality with a text. Without regard to case the text is in lower case. -/
  | exact (text : String) (ignoreCase : Bool)
  | pattern (pattern : Regex.Pattern)

/-- Why there is no comparison with what was asked for. -/
inductive StringMatchError where
  | emptyText
  | emptyPattern
  /-- The trimmed text is no pattern. -/
  | invalidPattern (text : String)
  deriving DecidableEq, Repr

namespace StringMatch

/-- The comparison with a text. -/
def ofText (text : String) (ignoreCase : Bool) : Except StringMatchError StringMatch :=
  let trimmed := Text.trim text
  if trimmed = "" then .error .emptyText
  else .ok (exact (if ignoreCase then Text.lower trimmed else trimmed) ignoreCase)

/-- The text of a pattern put between marks for the start and the end. -/
def anchored (text : String) : String := "^(?:" ++ text ++ ")$"

/-- The comparison with a pattern. -/
def ofPattern (text : String) : Except StringMatchError StringMatch :=
  let trimmed := Text.trim text
  if trimmed = "" then .error .emptyPattern
  else
    match Regex.Pattern.ofText? (anchored trimmed) with
    | some known => .ok (pattern known)
    | none => .error (.invalidPattern trimmed)

/-- Whether a candidate passes. -/
def accepts (candidate : String) : StringMatch → Bool
  | exact text true => Text.lower candidate == text
  | exact text false => candidate == text
  | pattern known => known.isIn candidate

/-- Whether the text of a value passes, if it has one that can be compared. -/
def acceptsValue (test : StringMatch) (value : Value) : Bool :=
  value.comparableText?.any fun text => test.accepts text

/-- Whether the scope of a value passes, if it has one. -/
def acceptsScope (test : StringMatch) (value : Value) : Bool :=
  value.scope?.any fun scope => test.accepts scope

end StringMatch

end AttributeRelease
