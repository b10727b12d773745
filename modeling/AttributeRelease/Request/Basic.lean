import AttributeRelease.Attribute.Basic
import AttributeRelease.Metadata.Entity
import AttributeRelease.Request.Facts
import AttributeRelease.Tree.Json

/-!
# Requests

A request holds the attributes that were resolved for it, the facts that are known about it, and a
way to look up the metadata of its parties. It is fixed while it is being filtered.
-/

namespace AttributeRelease

/-- What a decision on releasing attributes depends on. -/
structure Request where
  /-- The resolved attributes, by their ids. -/
  attributes : NameMap Attribute
  facts : Facts
  /-- The metadata of the entity with an id. -/
  resolve : String → Option Entity

namespace Request

/-- The attributes by their ids, of which later ones replace earlier ones with their id. -/
def byId (attributes : List Attribute) : NameMap Attribute :=
  attributes.foldl (fun map resolved => map.insert resolved.id resolved) ∅

/-- The request without attributes and facts, whose parties have no metadata. -/
def blank : Request := ⟨∅, .none, fun _ => none⟩

/-- The resolved attribute with an id. -/
def attribute? (request : Request) (id : String) : Option Attribute := request.attributes.find? id

/-- The metadata of a party, if it is known and has any. -/
def metadata? (request : Request) (party : Party) : Option Entity :=
  (request.facts.partyId party).bind request.resolve

/-- The facts and attributes of a request file: a table in which facts and attributes stand side by
side. Fields that are not known may stand beside them if they are legible. -/
def ofTree? : Tree → Option (Facts × List Attribute)
  | .table fields => do
    guard (fields.all fun field => field.1 == "attributes" || field.2.isLegible)
    let facts ← Facts.ofHolder? (.table fields)
    let known ← (Holder.table fields).fields? ⟨.json, false⟩ .openEnded ["attributes"]
    let attributes ← known.defaulted "attributes" [] (Tree.listOf? Attribute.ofTree?)
    return (facts, attributes)
  | _ => none

/-- The facts and attributes that the text of a request file denotes. -/
def ofJson? (text : String) : Option (Facts × List Attribute) := (Json.scan? text).bind ofTree?

end Request

end AttributeRelease
