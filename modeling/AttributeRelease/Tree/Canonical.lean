import AttributeRelease.NameMap
import AttributeRelease.Tree.Basic

/-!
# Canonical trees

The canonical form of a tree has the fields of each table in ascending order of their names, and of
several with one name the last.
-/

namespace AttributeRelease.Tree

mutual

/-- The canonical form of a tree. -/
def canonical : Tree → Tree
  | .list items => .list (canonicalItems items)
  | .table fields => .table (NameMap.ofList (canonicalFields fields)).toList
  | tree => tree

/-- The canonical forms of items. -/
def canonicalItems : List Tree → List Tree
  | [] => []
  | tree :: rest => canonical tree :: canonicalItems rest

/-- The fields with their values in canonical form. -/
def canonicalFields : List (String × Tree) → List (String × Tree)
  | [] => []
  | (name, tree) :: rest => (name, canonical tree) :: canonicalFields rest

end

end AttributeRelease.Tree
