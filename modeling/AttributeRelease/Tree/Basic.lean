/-!
# Trees

The structured values that configuration, metadata and request files denote, whichever format they
are written in. A table keeps its fields as they were written, in order and with repetitions, so
that a reader of records can refuse a field that is written twice.
-/

namespace AttributeRelease

/-- A structured value. -/
inductive Tree where
  | null
  | bool (value : Bool)
  | integer (value : Int)
  /-- A scalar that no record of this library takes, such as a date, by its spelling. -/
  | other (spelling : String)
  /-- A part of a text that follows the grammar but denotes nothing, such as a number out of range. It
  can be passed over, but not read. -/
  | illegible
  | text (value : String)
  | list (items : List Tree)
  | table (fields : List (String × Tree))
  deriving Inhabited, Repr

namespace Tree

mutual

/-- Whether every part of a tree can be read. -/
def isLegible : Tree → Bool
  | .illegible => false
  | .list items => areLegible items
  | .table fields => fieldsAreLegible fields
  | _ => true

/-- Whether every part of some items can be read. -/
def areLegible : List Tree → Bool
  | [] => true
  | item :: rest => isLegible item && areLegible rest

/-- Whether every part of the values of some fields can be read. -/
def fieldsAreLegible : List (String × Tree) → Bool
  | [] => true
  | (_, value) :: rest => isLegible value && fieldsAreLegible rest

end

/-- A text or nothing. -/
def ofText? : Option String → Tree
  | some value => .text value
  | none => .null

/-- A list of texts. -/
def ofTexts (values : List String) : Tree := .list (values.map .text)

/-- The field of a table with a name; the last one if there are several. -/
def get? (name : String) : Tree → Option Tree
  | .table fields => (fields.reverse.find? (·.1 == name)).map (·.2)
  | _ => none

end Tree

end AttributeRelease
