import AttributeRelease.Tree.Basic

/-!
# Records in trees

Records are written as tables of named fields, or as lists that give the fields in order. A holder
is what is left of a tree when only that matters; its parts may be trees or anything that was read
from them. Readers on fields tell absent fields from null ones only where a field is optional.
-/

namespace AttributeRelease

/-- The notation that a tree was read from. -/
inductive Origin where
  | json
  | toml
  deriving DecidableEq, Repr

/-- Where a record stands, on which some leniencies depend. -/
structure Place where
  origin : Origin
  /-- Whether it lies in a choice that a table marks with a tag among its fields. -/
  inChoice : Bool
  deriving DecidableEq, Repr

/-- Something that holds parts: a table that names them, a list that orders them, or neither. -/
inductive Holder (α : Type) where
  | table (fields : List (String × α))
  | list (items : List α)
  | neither

/-- The holder that a tree is. -/
def Tree.holder : Tree → Holder Tree
  | .table fields => .table fields
  | .list items => .list items
  | _ => .neither

/-- The fields of a record that are present, by name. -/
abbrev Fields (α : Type) := List (String × α)

/-- Whether a record may have fields that it does not know. -/
inductive Extent where
  | closed
  | openEnded
  deriving DecidableEq, Repr

namespace Holder

variable {α : Type}

/-- The fields of a record with known names: a table gives each at most once, and others only if the
record is open; a list gives them in order, with items beyond them only outside choices in a
configuration text. -/
def fields? (place : Place) (extent : Extent) (names : List String) :
    Holder α → Option (Fields α)
  | table fields =>
    if names.all (fun name => (fields.filter (·.1 == name)).length ≤ 1) &&
        (extent == .openEnded || fields.all fun field => names.contains field.1) then
      some (fields.filter fun field => names.contains field.1)
    else none
  | list items =>
    if items.length ≤ names.length || (place.origin == .toml && !place.inChoice) then
      some (names.zip items)
    else none
  | neither => none

/-- The tag of a choice and what holds the rest: a table with one field of that name, or a list that
begins with it. -/
def tagged? (name : String) : Holder α → Option (α × Holder α)
  | table fields =>
    match fields.filter (·.1 == name) with
    | [(_, tag)] => some (tag, table (fields.filter (·.1 != name)))
    | _ => none
  | list (tag :: items) => some (tag, list items)
  | _ => none

end Holder

namespace Fields

variable {α β : Type}

/-- The part under a name. -/
def get? (fields : Fields α) (name : String) : Option α :=
  (fields.find? (·.1 == name)).map (·.2)

/-- Reads a field that has to be there. -/
def required (fields : Fields α) (name : String) (read : α → Option β) : Option β :=
  (fields.get? name).bind read

/-- Reads a field, or takes a default if it is absent. -/
def defaulted (fields : Fields α) (name : String) (default : β) (read : α → Option β) :
    Option β :=
  match fields.get? name with
  | some part => read part
  | none => some default

end Fields

namespace Tree

variable {α : Type}

/-- A text. -/
def text? : Tree → Option String
  | .text value => some value
  | _ => none

/-- A truth value. -/
def bool? : Tree → Option Bool
  | .bool value => some value
  | _ => none

/-- A whole number below a bound. -/
def natural? (bound : Nat) : Tree → Option Nat
  | .integer value => if 0 ≤ value ∧ value < bound then some value.toNat else none
  | _ => none

/-- A list whose items can all be read. -/
def listOf? (read : Tree → Option α) : Tree → Option (List α)
  | .list items => items.mapM read
  | _ => none

/-- A list of texts. -/
def texts? : Tree → Option (List String) := listOf? text?

/-- A table whose values can all be read. -/
def tableOf? (read : Tree → Option α) : Tree → Option (List (String × α))
  | .table fields => fields.mapM fun field => (read field.2).map (field.1, ·)
  | _ => none

/-- Something that may be null. -/
def nullable? (read : Tree → Option α) : Tree → Option (Option α)
  | .null => some none
  | tree => (read tree).map some

/-- What may stand beside the only name of a table that spells a constant. -/
def isNothing (place : Place) : Tree → Bool
  | .null => place.origin == .json
  | .table [] => place.inChoice || place.origin == .toml
  | .list [] => !place.inChoice && place.origin == .toml
  | _ => false

/-- The name of a constant: a text, or a table whose one field has the name and holds nothing. -/
def constant? (place : Place) : Tree → Option String
  | .text name => some name
  | .table [(name, content)] => if content.isNothing place then some name else none
  | _ => none

/-- The tag of a choice among named kinds: its name, or inside another choice of a JSON text the
number of the kind. -/
def tag? (place : Place) (names : List String) : Tree → Option String
  | .text name => if names.contains name then some name else none
  | .integer index =>
    if place = ⟨.json, true⟩ ∧ 0 ≤ index then names[index.toNat]? else none
  | _ => none

end Tree

end AttributeRelease
