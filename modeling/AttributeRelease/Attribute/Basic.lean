import AttributeRelease.Attribute.ValueSet
import AttributeRelease.NameMap

/-!
# Attributes

Identity attributes as they come from attribute resolution, and their form in trees. Filtering never
changes an attribute: what is released is a copy with some of the values.
-/

namespace AttributeRelease

/-- A resolved identity attribute. -/
structure Attribute where
  id : String
  values : List Value
  /-- Names for people, by language. -/
  displayNames : NameMap String
  /-- Descriptions for people, by language. -/
  displayDescriptions : NameMap String
  deriving DecidableEq

namespace Attribute

/-- An attribute with values and without names and descriptions for people. -/
def ofValues (id : String) (values : List Value) : Attribute := ⟨id, values, ∅, ∅⟩

/-- The attribute with a display name for a language. -/
def withDisplayName (resolved : Attribute) (language name : String) : Attribute :=
  { resolved with displayNames := resolved.displayNames.insert language name }

/-- The set of all values. -/
def valueSet (resolved : Attribute) : ValueSet := .ofList resolved.values

/-- The set of the values that pass a test. -/
def valuesWhere (resolved : Attribute) (passes : Value → Bool) : ValueSet :=
  .ofList (resolved.values.filter passes)

/-- The set of an attribute's values has the values that it lists. -/
theorem mem_valueSet {resolved : Attribute} {value : Value} :
    value ∈ resolved.valueSet ↔ value ∈ resolved.values := ValueSet.mem_ofList

/-- The set of values that pass a test has those that are listed and pass it. -/
theorem mem_valuesWhere {resolved : Attribute} {passes : Value → Bool} {value : Value} :
    value ∈ resolved.valuesWhere passes ↔ value ∈ resolved.values ∧ passes value = true :=
  ValueSet.mem_ofList.trans List.mem_filter

/-- The attribute with only the values that pass a test, in their order. -/
def keep (resolved : Attribute) (passes : Value → Bool) : Attribute :=
  { resolved with values := resolved.values.filter passes }

/-- The text forms of the values, in order. -/
def valueTexts (resolved : Attribute) : List String := resolved.values.map Value.textForm

/-- The tree of a map of texts. -/
def textsTree (texts : NameMap String) : Tree :=
  .table (texts.toList.map fun entry => (entry.1, .text entry.2))

/-- The map of texts that a table denotes. -/
def texts? (tree : Tree) : Option (NameMap String) :=
  (tree.tableOf? Tree.text?).map NameMap.ofList

/-- The tree of an attribute, which leaves out maps that are empty. -/
def toTree (resolved : Attribute) : Tree :=
  let texts (name : String) (map : NameMap String) : List (String × Tree) :=
    if map.isEmpty then [] else [(name, textsTree map)]
  .table ([("id", .text resolved.id), ("values", .list (resolved.values.map Value.toTree))] ++
    texts "display_names" resolved.displayNames ++
    texts "display_descriptions" resolved.displayDescriptions)

/-- The attribute that a tree of a JSON text denotes. -/
def ofTree? (tree : Tree) : Option Attribute := do
  let fields ← tree.holder.fields? ⟨.json, false⟩ .openEnded
    ["id", "values", "display_names", "display_descriptions"]
  return {
    id := ← fields.required "id" Tree.text?
    values := ← fields.defaulted "values" [] (Tree.listOf? Value.ofTree?)
    displayNames := ← fields.defaulted "display_names" ∅ texts?
    displayDescriptions := ← fields.defaulted "display_descriptions" ∅ texts? }

end Attribute

end AttributeRelease
