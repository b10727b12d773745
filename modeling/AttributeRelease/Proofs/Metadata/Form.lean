import AttributeRelease.Metadata.Directory
import AttributeRelease.Proofs.Tree.Record

/-!
# Metadata files

Which entities a metadata file denotes: its table holds at most a list of entities, and each of these
is a closed record, which is read back from what is written of it in any order of the fields. Of
entities with one id the last one counts.
-/

namespace AttributeRelease

open AttributeRelease.Tree

/-- The fields of an entity attribute stand in a table, and no others. -/
structure EntityAttribute.StandsIn (published : EntityAttribute) (fields : Fields Tree) : Prop where
  accepted : fields.Accepted .closed ["name", "name_format", "values"]
  name : fields.Gives "name" text? none published.name
  nameFormat : fields.Gives "name_format" (nullable? text?) (some none) published.nameFormat
  values : fields.Gives "values" texts? (some []) published.values

/-- A table denotes the entity attribute that stands in it. -/
theorem EntityAttribute.ofTree?_table_eq_some_iff {place : Place} {fields : Fields Tree}
    {published : EntityAttribute} :
    ofTree? place (.table fields) = some published ↔ published.StandsIn fields := by
  simp only [ofTree?, holder, Option.bind_eq_bind, Option.bind_eq_some_iff,
    Fields.fields?_table_eq_some_iff, Option.pure_def, Option.some.injEq]
  constructor
  · rintro ⟨_, ⟨accepted, rfl⟩, _, name, _, nameFormat, _, values, rfl⟩
    exact ⟨accepted, (accepted.required_iff (by decide)).1 name,
      (accepted.defaulted_iff (by decide)).1 nameFormat,
      (accepted.defaulted_iff (by decide)).1 values⟩
  · rintro ⟨accepted, name, nameFormat, values⟩
    exact ⟨_, ⟨accepted, rfl⟩, _, (accepted.required_iff (by decide)).2 name,
      _, (accepted.defaulted_iff (by decide)).2 nameFormat,
      _, (accepted.defaulted_iff (by decide)).2 values, rfl⟩

/-- An entity attribute is read back. -/
theorem EntityAttribute.reads_toTree (place : Place) (published : EntityAttribute) :
    Reads (EntityAttribute.ofTree? place) published.toTree published := by
  refine reads_record (by simp) fun fields isWritten => ?_
  refine step (isWritten.fields? _ _ (by simp)) ?_
  refine step (isWritten.required (by simp) (reads_text published.name)) ?_
  refine step (isWritten.defaulted (by simp) (reads_textOrNull published.nameFormat)) ?_
  exact step (isWritten.defaulted (by simp) (reads_texts published.values)) rfl

/-- The fields of a requested attribute stand in a table, and no others. -/
structure RequestedAttribute.StandsIn (requested : RequestedAttribute) (fields : Fields Tree) :
    Prop where
  accepted : fields.Accepted .closed ["name", "name_format", "friendly_name", "required", "values"]
  name : fields.Gives "name" text? none requested.name
  nameFormat : fields.Gives "name_format" (nullable? text?) (some none) requested.nameFormat
  friendlyName : fields.Gives "friendly_name" (nullable? text?) (some none) requested.friendlyName
  required : fields.Gives "required" bool? (some false) requested.required
  values : fields.Gives "values" texts? (some []) requested.values

/-- A table denotes the requested attribute that stands in it. -/
theorem RequestedAttribute.ofTree?_table_eq_some_iff {place : Place} {fields : Fields Tree}
    {requested : RequestedAttribute} :
    ofTree? place (.table fields) = some requested ↔ requested.StandsIn fields := by
  simp only [ofTree?, holder, Option.bind_eq_bind, Option.bind_eq_some_iff,
    Fields.fields?_table_eq_some_iff, Option.pure_def, Option.some.injEq]
  constructor
  · rintro ⟨_, ⟨accepted, rfl⟩, _, name, _, nameFormat, _, friendlyName, _, required, _, values, rfl⟩
    exact ⟨accepted, (accepted.required_iff (by decide)).1 name,
      (accepted.defaulted_iff (by decide)).1 nameFormat,
      (accepted.defaulted_iff (by decide)).1 friendlyName,
      (accepted.defaulted_iff (by decide)).1 required,
      (accepted.defaulted_iff (by decide)).1 values⟩
  · rintro ⟨accepted, name, nameFormat, friendlyName, required, values⟩
    exact ⟨_, ⟨accepted, rfl⟩, _, (accepted.required_iff (by decide)).2 name,
      _, (accepted.defaulted_iff (by decide)).2 nameFormat,
      _, (accepted.defaulted_iff (by decide)).2 friendlyName,
      _, (accepted.defaulted_iff (by decide)).2 required,
      _, (accepted.defaulted_iff (by decide)).2 values, rfl⟩

/-- A requested attribute is read back. -/
theorem RequestedAttribute.reads_toTree (place : Place) (requested : RequestedAttribute) :
    Reads (RequestedAttribute.ofTree? place) requested.toTree requested := by
  refine reads_record (by simp) fun fields isWritten => ?_
  refine step (isWritten.fields? _ _ (by simp)) ?_
  refine step (isWritten.required (by simp) (reads_text requested.name)) ?_
  refine step (isWritten.defaulted (by simp) (reads_textOrNull requested.nameFormat)) ?_
  refine step (isWritten.defaulted (by simp) (reads_textOrNull requested.friendlyName)) ?_
  refine step (isWritten.defaulted (by simp) (reads_bool requested.required)) ?_
  exact step (isWritten.defaulted (by simp) (reads_texts requested.values)) rfl

namespace Entity

/-- The fields of an entity stand in a table, and no others. -/
structure StandsIn (entity : Entity) (place : Place) (fields : Fields Tree) : Prop where
  accepted : fields.Accepted .closed ["entity_id", "entity_attributes", "name_id_formats",
    "registration_authority", "groups", "requested_attributes"]
  id : fields.Gives "entity_id" text? none entity.id
  attributes : fields.Gives "entity_attributes" (listOf? (EntityAttribute.ofTree? place)) (some [])
    entity.attributes
  nameIdFormats : fields.Gives "name_id_formats" texts? (some []) entity.nameIdFormats
  registrationAuthority :
    fields.Gives "registration_authority" (nullable? text?) (some none) entity.registrationAuthority
  groups : fields.Gives "groups" texts? (some []) entity.groups
  requested : fields.Gives "requested_attributes" (listOf? (RequestedAttribute.ofTree? place))
    (some []) entity.requested

/-- A table denotes the entity that stands in it. -/
theorem ofTree?_table_eq_some_iff {place : Place} {fields : Fields Tree} {entity : Entity} :
    ofTree? place (.table fields) = some entity ↔ entity.StandsIn place fields := by
  simp only [ofTree?, holder, Option.bind_eq_bind, Option.bind_eq_some_iff,
    Fields.fields?_table_eq_some_iff, Option.pure_def, Option.some.injEq]
  constructor
  · rintro ⟨_, ⟨accepted, rfl⟩, _, id, _, attributes, _, nameIdFormats, _, registrationAuthority,
      _, groups, _, requested, rfl⟩
    exact ⟨accepted, (accepted.required_iff (by decide)).1 id,
      (accepted.defaulted_iff (by decide)).1 attributes,
      (accepted.defaulted_iff (by decide)).1 nameIdFormats,
      (accepted.defaulted_iff (by decide)).1 registrationAuthority,
      (accepted.defaulted_iff (by decide)).1 groups,
      (accepted.defaulted_iff (by decide)).1 requested⟩
  · rintro ⟨accepted, id, attributes, nameIdFormats, registrationAuthority, groups, requested⟩
    exact ⟨_, ⟨accepted, rfl⟩, _, (accepted.required_iff (by decide)).2 id,
      _, (accepted.defaulted_iff (by decide)).2 attributes,
      _, (accepted.defaulted_iff (by decide)).2 nameIdFormats,
      _, (accepted.defaulted_iff (by decide)).2 registrationAuthority,
      _, (accepted.defaulted_iff (by decide)).2 groups,
      _, (accepted.defaulted_iff (by decide)).2 requested, rfl⟩

/-- An entity is read back. -/
theorem reads_toTree (place : Place) (entity : Entity) :
    Reads (ofTree? place) entity.toTree entity := by
  have attributes := reads_list fun published (_ : published ∈ entity.attributes) =>
    published.reads_toTree place
  have requested := reads_list fun requested (_ : requested ∈ entity.requested) =>
    requested.reads_toTree place
  refine reads_record (by simp) fun fields isWritten => ?_
  refine step (isWritten.fields? _ _ (by simp)) ?_
  refine step (isWritten.required (by simp) (reads_text entity.id)) ?_
  refine step (isWritten.defaulted (by simp) attributes) ?_
  refine step (isWritten.defaulted (by simp) (reads_texts entity.nameIdFormats)) ?_
  refine step (isWritten.defaulted (by simp) (reads_textOrNull entity.registrationAuthority)) ?_
  refine step (isWritten.defaulted (by simp) (reads_texts entity.groups)) ?_
  exact step (isWritten.defaulted (by simp) requested) rfl

end Entity

namespace Directory

/-- Of entities with one id the last one counts. -/
theorem find?_ofList (entities : List Entity) (id : String) :
    (ofList entities).find? id = entities.reverse.find? fun entity => entity.id == id := by
  have folded (start : Directory) : (entities.foldl insert start).entities =
      entities.foldl (fun map entity => map.insert entity.id entity) start.entities := by
    induction entities generalizing start with
    | nil => rfl
    | cons entity rest ih => exact ih _
  have found := NameMap.find?_foldl_insert Entity.id (fun entity => entity) entities ∅ id
  rw [NameMap.find?_empty, Option.or_none, Option.map_id'] at found
  rw [find?, ofList, folded]
  exact found

/-- The entities of a directory stand in a table, which holds nothing else. -/
inductive StandsIn (fields : Fields Tree) : Directory → Prop
  | entities {entities : List Entity} (accepted : fields.Accepted .closed ["entities"])
      (gives : fields.Gives "entities" (listOf? (Entity.ofTree? ⟨.toml, false⟩)) (some []) entities) :
      StandsIn fields (ofList entities)

/-- A table denotes the directory that stands in it. -/
theorem ofTree?_table_eq_some_iff {fields : Fields Tree} {directory : Directory} :
    ofTree? (.table fields) = some directory ↔ StandsIn fields directory := by
  simp only [ofTree?, holder, Option.bind_eq_bind, Option.bind_eq_some_iff,
    Fields.fields?_table_eq_some_iff, Option.pure_def, Option.some.injEq]
  constructor
  · rintro ⟨_, ⟨accepted, rfl⟩, _, isRead, rfl⟩
    exact .entities accepted ((accepted.defaulted_iff (by decide)).1 isRead)
  · rintro ⟨accepted, gives⟩
    exact ⟨_, ⟨accepted, rfl⟩, _, (accepted.defaulted_iff (by decide)).2 gives, rfl⟩

/-- A text is read as a table. -/
theorem exists_table_of_read? {text : String} {tree : Tree} (isRead : Toml.read? text = some tree) :
    ∃ fields, tree = .table fields := by
  simp only [Toml.read?, Option.bind_eq_bind, Option.bind_eq_some_iff] at isRead
  obtain ⟨_, -, _, -, _, -, isTable⟩ := isRead
  exact ⟨_, (Option.some.inj isTable).symm⟩

/-- A metadata file denotes the directory that stands in its table. -/
theorem ofToml?_eq_some_iff {text : String} {directory : Directory} :
    ofToml? text = some directory ↔
      ∃ fields, Toml.read? text = some (.table fields) ∧ StandsIn fields directory := by
  simp only [ofToml?, Option.bind_eq_some_iff]
  constructor
  · rintro ⟨tree, isRead, isDirectory⟩
    obtain ⟨fields, rfl⟩ := exists_table_of_read? isRead
    exact ⟨fields, isRead, ofTree?_table_eq_some_iff.1 isDirectory⟩
  · rintro ⟨fields, isRead, standsIn⟩
    exact ⟨_, isRead, ofTree?_table_eq_some_iff.2 standsIn⟩

/-- What is written of entities is read back as their directory, in any order of the fields. -/
theorem reads_entities (entities : List Entity) :
    Reads ofTree? (.table [("entities", .list (entities.map Entity.toTree))]) (ofList entities) := by
  have read := reads_list fun entity (_ : entity ∈ entities) => entity.reads_toTree ⟨.toml, false⟩
  refine reads_record (by simp) fun fields isWritten => ?_
  refine step (isWritten.fields? _ _ (by simp)) ?_
  exact step (isWritten.defaulted (by simp) read) rfl

end Directory

end AttributeRelease
