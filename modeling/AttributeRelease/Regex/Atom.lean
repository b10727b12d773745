import AttributeRelease.Regex.Reach
import AttributeRelease.Unicode.Property

/-!
# Atoms of text patterns

The atoms of an expression over characters: one character of a set, or a condition on the place
between two characters.
-/

namespace AttributeRelease.Regex

open AttributeRelease.Unicode (CharSet)

/-- A condition on the place between two characters. -/
inductive Look where
  | textStart
  | textEnd
  | lineStart
  | lineEnd
  /-- The start of a line that a carriage return, a line feed or both may end. -/
  | anyLineStart
  | anyLineEnd
  | wordBoundary
  | noWordBoundary
  | wordStart
  | wordEnd
  | wordStartHalf
  | wordEndHalf
  deriving DecidableEq, Repr

/-- Whether a condition holds between two characters, of which either may be absent; `isWord` tells
the characters that belong to words. -/
def Look.holds (isWord : CharSet) (before after : Option Char) : Look → Bool
  | textStart => before.isNone
  | textEnd => after.isNone
  | lineStart => before.isNone || before == some '\n'
  | lineEnd => after.isNone || after == some '\n'
  | anyLineStart =>
    before.isNone || before == some '\n' || (before == some '\r' && after != some '\n')
  | anyLineEnd =>
    after.isNone || after == some '\r' || (after == some '\n' && before != some '\r')
  | wordBoundary => before.any isWord.contains != after.any isWord.contains
  | noWordBoundary => before.any isWord.contains == after.any isWord.contains
  | wordStart => !before.any isWord.contains && after.any isWord.contains
  | wordEnd => before.any isWord.contains && !after.any isWord.contains
  | wordStartHalf => !before.any isWord.contains
  | wordEndHalf => !after.any isWord.contains

/-- What an expression over characters is made of. -/
inductive Atom where
  | one (set : CharSet)
  | look (isWord : CharSet) (condition : Look)

/-- The characters before and after each place of a text that follows a character. -/
def places (before : Option Char) : List Char → List (Option Char × Option Char)
  | [] => [(before, none)]
  | c :: rest => (before, some c) :: places (some c) rest

/-- Where an atom applies in a text. -/
def Atom.move (text : List Char) : Atom → Move
  | one set => .advance (positions (text.map set.contains))
  | look isWord condition =>
    .stay (positions ((places none text).map fun place =>
      condition.holds isWord place.1 place.2))

/-- Whether an expression matches some stretch of a text. -/
def isIn (regex : Regex Atom) (text : List Char) : Bool :=
  occurs text.length (regex.map (Atom.move text))

end AttributeRelease.Regex
