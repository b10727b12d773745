import AttributeRelease.Attribute.Basic

/-!
# Work areas

The values that were permitted and denied for each attribute in the course of one filtering pass. An
attribute for which something was permitted or denied has an entry even if no value came with it.
-/

namespace AttributeRelease

/-- Permitted and denied values by attribute ids. -/
structure WorkArea where
  permitted : NameMap ValueSet
  denied : NameMap ValueSet
  deriving DecidableEq

namespace WorkArea

/-- Nothing was permitted or denied yet. -/
def empty : WorkArea := ⟨∅, ∅⟩

/-- Adds values to the entry of an attribute. -/
def extend (entries : NameMap ValueSet) (id : String) (values : ValueSet) : NameMap ValueSet :=
  entries.insert id (((entries.find? id).getD ∅).union values)

/-- Permits values of an attribute. -/
def permit (area : WorkArea) (id : String) (values : ValueSet) : WorkArea :=
  { area with permitted := extend area.permitted id values }

/-- Denies values of an attribute. -/
def deny (area : WorkArea) (id : String) (values : ValueSet) : WorkArea :=
  { area with denied := extend area.denied id values }

/-- The values of an attribute that are permitted and not denied, if there are any. -/
def released? (area : WorkArea) (id : String) : Option ValueSet :=
  match area.permitted.find? id with
  | none => none
  | some permitted =>
    let left := permitted.diff ((area.denied.find? id).getD ∅)
    if left.isEmpty then none else some left

end WorkArea

end AttributeRelease
