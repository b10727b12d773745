import AttributeRelease.Tree.Record

/-!
# Entity metadata

What is published about the parties of a request: their entity attributes, the name formats that
they support, who registered them, the groups they belong to, and the attributes they ask for. The
records are closed: a field that they do not know is refused.
-/

namespace AttributeRelease

/-- An attribute attached to an entity. -/
structure EntityAttribute where
  name : String
  nameFormat : Option String
  values : List String
  deriving DecidableEq, Repr

/-- An attribute that an entity asks for. Without values, any value will do. -/
structure RequestedAttribute where
  name : String
  nameFormat : Option String
  friendlyName : Option String
  required : Bool
  values : List String
  deriving DecidableEq, Repr

/-- The published metadata of one party. -/
structure Entity where
  id : String
  attributes : List EntityAttribute
  nameIdFormats : List String
  registrationAuthority : Option String
  groups : List String
  requested : List RequestedAttribute
  deriving DecidableEq, Repr

namespace EntityAttribute

/-- Whether the attribute has a name, and a format if one is given. -/
def isNamed (published : EntityAttribute) (name : String) (format : Option String) : Bool :=
  published.name == name && (format.isNone || published.nameFormat == format)

/-- The tree of an entity attribute. -/
def toTree (published : EntityAttribute) : Tree :=
  .table [("name", .text published.name), ("name_format", .ofText? published.nameFormat),
    ("values", .ofTexts published.values)]

/-- The entity attribute that a tree denotes. -/
def ofTree? (place : Place) (tree : Tree) : Option EntityAttribute := do
  let fields ← tree.holder.fields? place .closed ["name", "name_format", "values"]
  return {
    name := ← fields.required "name" Tree.text?
    nameFormat := ← fields.defaulted "name_format" none (Tree.nullable? Tree.text?)
    values := ← fields.defaulted "values" [] Tree.texts? }

end EntityAttribute

namespace RequestedAttribute

/-- The tree of a requested attribute. -/
def toTree (requested : RequestedAttribute) : Tree :=
  .table [("name", .text requested.name), ("name_format", .ofText? requested.nameFormat),
    ("friendly_name", .ofText? requested.friendlyName), ("required", .bool requested.required),
    ("values", .ofTexts requested.values)]

/-- The requested attribute that a tree denotes. -/
def ofTree? (place : Place) (tree : Tree) : Option RequestedAttribute := do
  let fields ← tree.holder.fields? place .closed
    ["name", "name_format", "friendly_name", "required", "values"]
  return {
    name := ← fields.required "name" Tree.text?
    nameFormat := ← fields.defaulted "name_format" none (Tree.nullable? Tree.text?)
    friendlyName := ← fields.defaulted "friendly_name" none (Tree.nullable? Tree.text?)
    required := ← fields.defaulted "required" false Tree.bool?
    values := ← fields.defaulted "values" [] Tree.texts? }

end RequestedAttribute

namespace Entity

/-- An entity of which only the id is known. -/
def ofId (id : String) : Entity := ⟨id, [], [], none, [], []⟩

/-- The values of all entity attributes with a name, and a format if one is given. -/
def attributeValues (entity : Entity) (name : String) (format : Option String) : List String :=
  (entity.attributes.filter (·.isNamed name format)).flatMap (·.values)

/-- The tree of an entity. -/
def toTree (entity : Entity) : Tree :=
  .table [("entity_id", .text entity.id),
    ("entity_attributes", .list (entity.attributes.map EntityAttribute.toTree)),
    ("name_id_formats", .ofTexts entity.nameIdFormats),
    ("registration_authority", .ofText? entity.registrationAuthority),
    ("groups", .ofTexts entity.groups),
    ("requested_attributes", .list (entity.requested.map RequestedAttribute.toTree))]

/-- The entity that a tree denotes. -/
def ofTree? (place : Place) (tree : Tree) : Option Entity := do
  let fields ← tree.holder.fields? place .closed
    ["entity_id", "entity_attributes", "name_id_formats", "registration_authority", "groups",
      "requested_attributes"]
  return {
    id := ← fields.required "entity_id" Tree.text?
    attributes := ← fields.defaulted "entity_attributes" []
      (Tree.listOf? (EntityAttribute.ofTree? place))
    nameIdFormats := ← fields.defaulted "name_id_formats" [] Tree.texts?
    registrationAuthority := ← fields.defaulted "registration_authority" none
      (Tree.nullable? Tree.text?)
    groups := ← fields.defaulted "groups" [] Tree.texts?
    requested := ← fields.defaulted "requested_attributes" []
      (Tree.listOf? (RequestedAttribute.ofTree? place)) }

end Entity

end AttributeRelease
