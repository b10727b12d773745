/-!
# Paths

Paths of files as texts, whose parts slashes separate: the directory that holds a file, and a path
taken from a directory. An operating system may also allow paths whose bytes are no valid UTF-8. These
are no texts, and so they are left out here, and with them the files that only such a path leads to.
-/

namespace AttributeRelease.Path

/-- Whether a path starts at the root. -/
def isAbsolute (path : String) : Bool := path.startsWith "/"

/-- The parts of a path, between its slashes. -/
def parts (path : String) : List String := (path.toList.splitOn '/').map String.ofList

/-- The beginnings of a path that end with a part that counts. Empty parts do not, and neither does
a dot that is not the first part. -/
def beginnings (path : String) : List String :=
  let parts := parts path
  (List.range parts.length).filterMap fun index =>
    match parts[index]? with
    | some part =>
      if part = "" ∨ (part = "." ∧ index ≠ 0) then none
      else some ("/".intercalate (parts.take (index + 1)))
    | none => none

/-- The directory that holds what a path leads to: a path without its last part. -/
def parent (path : String) : String :=
  match (beginnings path).reverse with
  | _ :: before :: _ => before
  | [_] => if isAbsolute path then "/" else ""
  | [] => ""

/-- A path taken from a directory, unless it starts at the root. -/
def resolve (directory path : String) : String :=
  if isAbsolute path || directory.isEmpty then path
  else if directory.endsWith "/" then directory ++ path
  else directory ++ "/" ++ path

end AttributeRelease.Path
