import AttributeRelease.Regex.Automaton
import AttributeRelease.Regex.Meaning
import AttributeRelease.Regex.Parser

/-!
# Patterns

Texts that denote expressions over characters. A pattern keeps its text, and its expression is the
one that the text denotes.
-/

namespace AttributeRelease.Regex

/-- The expression that the text of a pattern denotes, if its automata are not too large. -/
def ofText? (text : String) : Option (Regex Atom) := do
  let form ← Parser.read? text
  let (normal, _) ← form.meaning? Settings.initial
  if normal.isBuildable then some normal.regex else none

/-- A text together with the expression that it denotes. -/
structure Pattern where
  text : String
  regex : Regex Atom
  denotes : ofText? text = some regex

namespace Pattern

/-- The pattern of a text, if it is one. -/
def ofText? (text : String) : Option Pattern :=
  match h : Regex.ofText? text with
  | some regex => some ⟨text, regex, h⟩
  | none => none

/-- Whether a candidate has a stretch that the pattern matches. -/
def isIn (pattern : Pattern) (candidate : String) : Bool :=
  Regex.isIn pattern.regex candidate.toList

end Pattern

end AttributeRelease.Regex
