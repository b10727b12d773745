import AttributeRelease.CommandLine.Run

/-!
# Files in memory

Files and directories below a current directory, as a value. Outside of it there is nothing, so a path
that starts at the root, or leads above the current directory, leads nowhere.
-/

namespace AttributeRelease

/-- What stands at a path. -/
inductive FileTree.Node where
  | file (bytes : ByteArray)
  | directory

/-- Files and directories by the parts of their paths. -/
structure FileTree where
  nodes : List (List String × FileTree.Node)

namespace FileTree

/-- The tree that has the current directory alone. -/
def empty : FileTree := ⟨[([], .directory)]⟩

/-- The node at the parts of a path. -/
def node? (tree : FileTree) (parts : List String) : Option Node := tree.nodes.lookup parts

/-- The tree with a node in the place of what was there. -/
def put (tree : FileTree) (parts : List String) (node : Node) : FileTree :=
  ⟨(parts, node) :: tree.nodes⟩

/-- The tree with the directories that lead to a path, as far as they are missing. -/
def makeParents (tree : FileTree) (parts : List String) : FileTree :=
  ((List.range parts.length).map parts.take).foldl
    (fun tree parent => if (tree.node? parent).isSome then tree else tree.put parent .directory)
    tree

/-- Where a path leads, part by part from a directory. Only from a directory can a path go on, and
nothing leads above the current directory. -/
def follow (tree : FileTree) : List String → List String → Option (List String)
  | place, [] => some place
  | place, part :: rest =>
    match tree.node? place with
    | some .directory =>
      if part = "" ∨ part = "." then tree.follow place rest
      else if part = ".." then
        if place.isEmpty then none else tree.follow place.dropLast rest
      else tree.follow (place ++ [part]) rest
    | _ => none

/-- Where a path leads, whether something stands there or not. -/
def locate? (tree : FileTree) (path : String) : Option (List String) :=
  if path.isEmpty || path.startsWith "/" then none else tree.follow [] (path.splitOn "/")

/-- The parts of a path that count. -/
def partsOf (path : String) : List String :=
  (path.splitOn "/").filter fun part => part ≠ "" ∧ part ≠ "."

/-- The tree with a file, and the directories that lead to it. -/
def addFile (tree : FileTree) (path : String) (bytes : ByteArray) : FileTree :=
  (tree.makeParents (partsOf path)).put (partsOf path) (.file bytes)

/-- The tree with a directory, and those that lead to it. -/
def addDirectory (tree : FileTree) (path : String) : FileTree :=
  (tree.makeParents (partsOf path)).put (partsOf path) .directory

/-- The text of the file at a path. -/
def read? (tree : FileTree) (path : String) : Option String := do
  match ← tree.node? (← tree.locate? path) with
  | .file bytes => String.fromUTF8? bytes
  | .directory => none

/-- The tree after a text was written to a path, unless a directory stands there or the directory that
should hold it is missing. -/
def write? (tree : FileTree) (path text : String) : Option FileTree := do
  let parts ← tree.locate? path
  match tree.node? parts with
  | some .directory => none
  | some (.file _) => return tree.put parts (.file text.toUTF8)
  | none =>
    match ← tree.node? parts.dropLast with
    | .directory => return tree.put parts (.file text.toUTF8)
    | .file _ => none

/-- A console over a tree of files and the variables that are set. -/
def console (environment : NameMap String) : CommandLine.Console (StateM FileTree) where
  read? path := return (← get).read? path
  valueOf? name := return environment.find? name
  write path text := do
    match (← get).write? path text with
    | some tree => set tree; return true
    | none => return false

end FileTree

end AttributeRelease
