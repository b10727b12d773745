/-!
# Words

The words of a text are what stands between its blanks and line breaks.
-/

namespace AttributeRelease.Text

/-- The words of a text. -/
def words (text : String) : List String :=
  ((text.splitOn "\n").flatMap (·.splitOn " ")).filter (· ≠ "")

end AttributeRelease.Text
