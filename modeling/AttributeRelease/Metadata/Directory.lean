import AttributeRelease.Metadata.Entity
import AttributeRelease.NameMap
import AttributeRelease.Tree.Toml

/-!
# Metadata directories

Entities by their ids, as they are kept in memory and as they are written in a TOML text.
-/

namespace AttributeRelease

/-- Entities by their ids. -/
structure Directory where
  entities : NameMap Entity

namespace Directory

/-- The directory without entities. -/
def empty : Directory := ⟨∅⟩

/-- The directory with an entity put in, in the place of one with its id. -/
def insert (directory : Directory) (entity : Entity) : Directory :=
  ⟨directory.entities.insert entity.id entity⟩

/-- The directory of a list of entities, of which later ones replace earlier ones with their id. -/
def ofList (entities : List Entity) : Directory := entities.foldl insert empty

/-- The entity with an id. -/
def find? (directory : Directory) (id : String) : Option Entity := directory.entities.find? id

/-- The number of entities. -/
def size (directory : Directory) : Nat := directory.entities.size

/-- The directory that the tree of a TOML text denotes: a table with a list of entities. -/
def ofTree? (tree : Tree) : Option Directory := do
  let fields ← tree.holder.fields? ⟨.toml, false⟩ .closed ["entities"]
  let entities ← fields.defaulted "entities" [] (Tree.listOf? (Entity.ofTree? ⟨.toml, false⟩))
  return ofList entities

/-- The directory that a TOML text denotes. -/
def ofToml? (text : String) : Option Directory := (Toml.read? text).bind ofTree?

end Directory

end AttributeRelease
