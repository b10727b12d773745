import AttributeRelease.Proofs.NameMap
import AttributeRelease.Proofs.Outcome
import AttributeRelease.Tree.Record
import Mathlib.Data.List.Forall2

/-!
# The order of fields

Tables that have the same fields in another order say the same. A value is written with its fields
in one order, but may be given with them in any: `Tree.Reads` says that a reader takes all these
trees for the value. Readers of records are put together from readers of their fields, and the
lemmas here follow them; `Tree.Written` is what they know about the fields at hand.
-/

namespace AttributeRelease

namespace Tree

/-- A tree is another one with the fields of its tables in any order. -/
inductive Reorders : Tree → Tree → Prop where
  | same (tree : Tree) : Reorders tree tree
  | list {items others : List Tree} (each : List.Forall₂ Reorders items others) :
      Reorders (.list items) (.list others)
  | table {fields ordered others : List (String × Tree)} (order : fields.Perm ordered)
      (names : ordered.map (·.1) = others.map (·.1))
      (each : List.Forall₂ Reorders (ordered.map (·.2)) (others.map (·.2))) :
      Reorders (.table fields) (.table others)

/-- A part is how a reordered tree is seen. -/
def Shows {β : Type} (view : Tree → β) (part : β) (other : Tree) : Prop :=
  ∃ tree : Tree, tree.Reorders other ∧ part = view tree

/-- Fields are others in any order, and their parts show what the others hold. -/
def FieldsReorder {β : Type} (view : Tree → β) (fields : List (String × β))
    (others : List (String × Tree)) : Prop :=
  ∃ ordered : List (String × β), fields.Perm ordered ∧
    List.Forall₂ (fun field other => field.1 = other.1 ∧ Shows view field.2 other.2) ordered others

/-- A tree is a list with fields reordered exactly if its items are, one by one. -/
theorem reorders_list_iff {tree : Tree} {others : List Tree} :
    tree.Reorders (.list others) ↔
      ∃ items, tree = .list items ∧ List.Forall₂ Reorders items others := by
  constructor
  · rintro (_ | each)
    · exact ⟨others, rfl, List.forall₂_same.2 fun tree _ => .same tree⟩
    · exact ⟨_, rfl, by assumption⟩
  · rintro ⟨items, rfl, each⟩
    exact .list each

/-- Fields are related in step exactly if their names are the same and their parts are related in
step. -/
theorem forall₂_field_iff {β : Type} {related : β → Tree → Prop} {fields : List (String × β)}
    {others : List (String × Tree)} :
    List.Forall₂ (fun field other => field.1 = other.1 ∧ related field.2 other.2) fields others ↔
      fields.map (·.1) = others.map (·.1) ∧
        List.Forall₂ related (fields.map (·.2)) (others.map (·.2)) := by
  induction fields generalizing others with
  | nil => cases others <;> simp
  | cons field rest ih =>
    cases others with
    | nil => simp
    | cons other others =>
      simp only [List.forall₂_cons, List.map_cons, List.cons.injEq, ih]
      exact and_and_and_comm

/-- Seen as it is, a part shows what it reorders. -/
theorem shows_id_iff {tree other : Tree} : Shows id tree other ↔ tree.Reorders other :=
  ⟨fun ⟨_, reorders, same⟩ => same ▸ reorders, fun reorders => ⟨tree, reorders, rfl⟩⟩

/-- A tree is a table with fields reordered exactly if it is a table whose fields are, at any
depth. -/
theorem reorders_table_iff {tree : Tree} {others : List (String × Tree)} :
    tree.Reorders (.table others) ↔
      ∃ fields, tree = .table fields ∧ FieldsReorder id fields others := by
  simp only [FieldsReorder, forall₂_field_iff, shows_id_iff]
  constructor
  · intro reorders
    cases reorders with
    | same =>
      exact ⟨others, rfl, others, .refl _, rfl, List.forall₂_same.2 fun tree _ => .same tree⟩
    | table order names each => exact ⟨_, rfl, _, order, names, each⟩
  · rintro ⟨fields, rfl, ordered, order, names, each⟩
    exact .table order names each

/-- The trees that a tree is made of directly. -/
def parts : Tree → List Tree
  | .list items => items
  | .table fields => fields.map (·.2)
  | _ => []

/-- A part is smaller than the tree that it is a part of. -/
theorem sizeOf_lt_of_mem_parts {part tree : Tree} (member : part ∈ tree.parts) :
    sizeOf part < sizeOf tree := by
  unfold parts at member
  split at member
  · have smaller := List.sizeOf_lt_of_mem member
    rw [list.sizeOf_spec]
    omega
  · obtain ⟨⟨name, part⟩, isField, rfl⟩ := List.mem_map.1 member
    have smaller := List.sizeOf_lt_of_mem isField
    rw [table.sizeOf_spec]
    rw [Prod.mk.sizeOf_spec] at smaller
    change sizeOf part < _
    omega
  · cases member

/-- What holds of a tree if it holds of its parts holds of every tree. -/
@[elab_as_elim]
theorem induction {motive : Tree → Prop}
    (step : ∀ tree, (∀ part ∈ tree.parts, motive part) → motive tree) (tree : Tree) :
    motive tree :=
  step tree fun part _ => induction step part
termination_by sizeOf tree
decreasing_by exact sizeOf_lt_of_mem_parts ‹_›

/-- Items can be read exactly if each of them can be. -/
theorem areLegible_iff {items : List Tree} :
    areLegible items = true ↔ ∀ item ∈ items, item.isLegible = true := by
  induction items with
  | nil => simp [areLegible]
  | cons item rest ih => simp [areLegible, ih]

/-- Fields can be read exactly if their parts can be. -/
theorem fieldsAreLegible_eq (fields : List (String × Tree)) :
    fieldsAreLegible fields = areLegible (fields.map (·.2)) := by
  induction fields with
  | nil => rfl
  | cons field rest ih => rw [fieldsAreLegible, ih, List.map_cons, areLegible]

/-- A tree can be read exactly if it is not illegible itself and its parts can be read. -/
theorem isLegible_iff {tree : Tree} :
    tree.isLegible = true ↔
      tree ≠ .illegible ∧ ∀ part ∈ tree.parts, part.isLegible = true := by
  cases tree <;> simp [isLegible, parts, areLegible_iff, fieldsAreLegible_eq]

/-- Each part of a reordered tree is a reordered part of the other one. -/
theorem Reorders.exists_part {tree other : Tree} (reorders : tree.Reorders other) :
    ∀ part ∈ tree.parts, ∃ otherPart ∈ other.parts, part.Reorders otherPart := by
  cases reorders with
  | same => exact fun part member => ⟨part, member, .same part⟩
  | list each => exact Outcome.exists_mem_of_forall₂ each.flip
  | table order names each =>
    intro part member
    exact Outcome.exists_mem_of_forall₂ each.flip part ((order.map _).mem_iff.1 member)

/-- The order of fields does not matter for what can be read. -/
theorem Reorders.isLegible {tree other : Tree} (reorders : tree.Reorders other)
    (legible : other.isLegible = true) : tree.isLegible = true := by
  induction other using Tree.induction generalizing tree with
  | step other ih =>
    rw [isLegible_iff] at legible ⊢
    refine ⟨?notIllegible, fun part member => ?parts⟩
    case notIllegible =>
      rintro rfl
      cases reorders
      exact legible.1 rfl
    case parts =>
      obtain ⟨otherPart, otherMember, reordersPart⟩ := reorders.exists_part part member
      exact ih otherPart otherMember reordersPart (legible.2 otherPart otherMember)

/-- A reader takes a tree for a value, also with the fields of its tables in any other order. -/
def Reads {α : Type} (read : Tree → Option α) (tree : Tree) (value : α) : Prop :=
  ∀ other : Tree, other.Reorders tree → read other = some value

section Reads

variable {α β : Type} {read : Tree → Option α} {tree : Tree} {value : α}

/-- What reads a tree in any order reads it as it is. -/
theorem Reads.eq (reads : Reads read tree value) : read tree = some value := reads tree (.same tree)

/-- A value that is read may be read on. -/
theorem Reads.bind {next : α → Option β} {result : β} (reads : Reads read tree value)
    (continues : next value = some result) : Reads (fun tree => (read tree).bind next) tree result :=
  fun other reorders => (congrArg (·.bind next) (reads other reorders)).trans continues

/-- A value that is read may be changed. -/
theorem Reads.map {change : α → β} {result : β} (reads : Reads read tree value)
    (changed : change value = result) : Reads (fun tree => (read tree).map change) tree result :=
  fun other reorders => changed ▸ congrArg (Option.map change) (reads other reorders)

/-- A text is read back. -/
theorem reads_text (text : String) : Reads text? (.text text) text := by
  rintro _ ⟨⟩
  rfl

/-- A truth value is read back. -/
theorem reads_bool (flag : Bool) : Reads bool? (.bool flag) flag := by
  rintro _ ⟨⟩
  rfl

/-- A number below the bound is read back. -/
theorem reads_natural {bound number : Nat} (small : number < bound) :
    Reads (natural? bound) (.integer number) number := by
  rintro _ ⟨⟩
  simp [natural?, small]

/-- A name is read back in every place. -/
theorem reads_constant (place : Place) (name : String) :
    Reads (constant? place) (.text name) name := by
  rintro _ ⟨⟩
  rfl

/-- The absence of a value is read back. -/
theorem reads_null (read : Tree → Option α) : Reads (nullable? read) .null none := by
  rintro _ ⟨⟩
  rfl

/-- What may be absent is read as before where it is there. -/
theorem Reads.nullable (reads : Reads read tree value) (notNull : tree ≠ .null) :
    Reads (nullable? read) tree (some value) := by
  intro other reorders
  have isValue := reads other reorders
  cases reorders with
  | same => cases tree <;> first | exact absurd rfl notNull | simp [nullable?, isValue]
  | list => simp [nullable?, isValue]
  | table => simp [nullable?, isValue]

/-- A text is read back, and so is its absence. -/
theorem reads_textOrNull (text : Option String) : Reads (nullable? text?) (ofText? text) text := by
  cases text with
  | none => exact reads_null text?
  | some text => exact (reads_text text).nullable nofun

/-- Two steps of a reader, one after the other. -/
theorem step {first : Option α} {next : α → Option β} {result : β}
    (isValue : first = some value) (isResult : next value = some result) :
    (first >>= next) = some result := by
  rw [isValue]
  exact isResult

/-- The results of a step taken for every element of a list are those of its elements, in order. -/
theorem mapM_eq_some_iff {γ : Type} {step : γ → Option α} {list : List γ} {results : List α} :
    list.mapM step = some results ↔
      List.Forall₂ (fun element result => step element = some result) list results := by
  induction list generalizing results with
  | nil => simp [eq_comm]
  | cons head rest ih =>
    rw [List.mapM_cons, List.forall₂_cons_left_iff]
    simp only [Option.bind_eq_bind, Option.bind_eq_some_iff, Option.pure_def, Option.some.injEq, ih]
    constructor
    · rintro ⟨first, stepped, others, othersStepped, rfl⟩
      exact ⟨first, others, stepped, othersStepped, rfl⟩
    · rintro ⟨first, others, stepped, othersStepped, rfl⟩
      exact ⟨first, stepped, others, othersStepped, rfl⟩

/-- A list is read if it is one and each of its items is. -/
theorem listOf?_eq_some_iff {values : List α} :
    listOf? read tree = some values ↔
      ∃ items, tree = .list items ∧
        List.Forall₂ (fun item value => read item = some value) items values := by
  cases tree with
  | list items => simp [listOf?, mapM_eq_some_iff]
  | _ => simp [listOf?]

/-- Pairs of members in step are members of their lists. -/
theorem forall₂_of_mem {γ : Type} {related result : α → γ → Prop} {left : List α} {right : List γ}
    (inStep : List.Forall₂ related left right)
    (each : ∀ element ∈ left, ∀ other ∈ right, related element other → result element other) :
    List.Forall₂ result left right := by
  obtain ⟨sameLength, paired⟩ := List.forall₂_iff_zip.1 inStep
  refine List.forall₂_iff_zip.2 ⟨sameLength, fun {element other} isPair => ?_⟩
  obtain ⟨isLeft, isRight⟩ := List.of_mem_zip isPair
  exact each element isLeft other isRight (paired isPair)

/-- The items of a list are read one after the other. -/
theorem reads_list {items : List α} {write : α → Tree}
    (each : ∀ item ∈ items, Reads read (write item) item) :
    Reads (listOf? read) (.list (items.map write)) items := by
  intro other reorders
  obtain ⟨others, rfl, inStep⟩ := reorders_list_iff.1 reorders
  refine mapM_eq_some_iff.2 (forall₂_of_mem (List.forall₂_map_right_iff.1 inStep) ?_)
  intro tree _ item member reorders
  exact each item member tree reorders

/-- A list of texts is read back. -/
theorem reads_texts (texts : List String) : Reads texts? (ofTexts texts) texts :=
  reads_list fun text _ => reads_text text

/-- The values of a table are read one after the other, and make up the map that was written. -/
theorem reads_map {map : NameMap α} {write : α → Tree}
    (each : ∀ entry ∈ map.toList, Reads read (write entry.2) entry.2) :
    Reads (fun tree => (tableOf? read tree).map NameMap.ofList)
      (.table (map.toList.map fun entry => (entry.1, write entry.2))) map := by
  intro other reorders
  obtain ⟨fields, rfl, ordered, order, inStep⟩ := reorders_table_iff.1 reorders
  have readEach : List.Forall₂
      (fun field entry => (read field.2).map (field.1, ·) = some entry) ordered map.toList := by
    refine forall₂_of_mem (List.forall₂_map_right_iff.1 inStep) ?_
    rintro ⟨_, tree⟩ _ entry member ⟨rfl, shown⟩
    rw [each entry member tree (shows_id_iff.1 shown), Option.map_some]
  obtain ⟨entries, entriesRead, entriesOrder⟩ := List.perm_comp_forall₂ order readEach
  simp only [tableOf?, mapM_eq_some_iff.2 entriesRead, Option.map_some,
    NameMap.ofList_of_perm entriesOrder]

end Reads

/-- The fields at hand are those that were written, in any order and each seen in some way; no two
have one name. -/
structure Written {β : Type} (view : Tree → β) (fields : List (String × β))
    (written : List (String × Tree)) : Prop where
  reorder : FieldsReorder view fields written
  distinct : (written.map (·.1)).Nodup

/-- A record is read from its table if it is from its fields in any order. -/
theorem reads_record {α : Type} {read : Tree → Option α} {value : α} {written : List (String × Tree)}
    (distinct : (written.map (·.1)).Nodup)
    (ofFields : ∀ fields, Written id fields written → read (.table fields) = some value) :
    Reads read (.table written) value := by
  intro other reorders
  obtain ⟨fields, rfl, reorder⟩ := reorders_table_iff.1 reorders
  exact ofFields fields ⟨reorder, distinct⟩

namespace Written

variable {α β : Type} {view : Tree → β} {fields : List (String × β)} {written : List (String × Tree)}
  {name : String} {part : Tree} {read : β → Option α} {value default : α}

/-- The names at hand are those that were written, in some order. -/
theorem names_perm (isWritten : Written view fields written) :
    (fields.map (·.1)).Perm (written.map (·.1)) := by
  obtain ⟨ordered, order, inStep⟩ := isWritten.reorder
  exact (order.map _).trans (.of_eq (forall₂_field_iff.1 inStep).1)

/-- No name at hand stands twice. -/
theorem nodup (isWritten : Written view fields written) : (fields.map (·.1)).Nodup :=
  isWritten.names_perm.nodup_iff.2 isWritten.distinct

/-- A field that was written is found under its name. -/
theorem find?_eq_some (isWritten : Written view fields written) (member : (name, part) ∈ written) :
    ∃ tree : Tree, tree.Reorders part ∧
      (fields.find? fun field => field.1 == name) = some (name, view tree) := by
  obtain ⟨ordered, order, inStep⟩ := isWritten.reorder
  obtain ⟨⟨_, _⟩, isOrdered, rfl, tree, reorders, rfl⟩ :=
    Outcome.exists_mem_of_forall₂ inStep (name, part) member
  refine ⟨tree, reorders, (NameMap.find?_named_iff isWritten.nodup).2 ⟨?_, rfl⟩⟩
  exact order.mem_iff.2 isOrdered

/-- What was not written is not found. -/
theorem find?_eq_none (isWritten : Written view fields written) (absent : name ∉ written.map (·.1)) :
    (fields.find? fun field => field.1 == name) = none := by
  rw [List.find?_eq_none]
  intro field member isNamed
  obtain rfl := eq_of_beq isNamed
  exact absent (isWritten.names_perm.mem_iff.1 (List.mem_map_of_mem member))

/-- A field that has to be there is read back. -/
theorem required (isWritten : Written view fields written) (member : (name, part) ∈ written)
    (reads : Reads (fun tree => read (view tree)) part value) :
    Fields.required fields name read = some value := by
  obtain ⟨tree, reorders, isFound⟩ := isWritten.find?_eq_some member
  rw [Fields.required, Fields.get?, isFound]
  exact reads tree reorders

/-- A field that may be absent is read back. -/
theorem defaulted (isWritten : Written view fields written) (member : (name, part) ∈ written)
    (reads : Reads (fun tree => read (view tree)) part value) :
    Fields.defaulted fields name default read = some value := by
  obtain ⟨tree, reorders, isFound⟩ := isWritten.find?_eq_some member
  rw [Fields.defaulted, Fields.get?, isFound]
  exact reads tree reorders

/-- A field that was not written gives its default. -/
theorem defaulted_of_absent (isWritten : Written view fields written)
    (absent : name ∉ written.map (·.1)) :
    Fields.defaulted fields name default read = some default := by
  rw [Fields.defaulted, Fields.get?, isWritten.find?_eq_none absent, Option.map_none]

/-- No name at hand has two fields. -/
theorem filter_name_length_le (isWritten : Written view fields written) (name : String) :
    (fields.filter (·.1 == name)).length ≤ 1 := by
  have once := List.nodup_iff_count_le_one.1 isWritten.nodup name
  rwa [List.count_eq_length_filter, List.filter_map, List.length_map] at once

/-- A record takes its fields if it knows all of their names. -/
theorem fields? (isWritten : Written view fields written) (place : Place) (extent : Extent)
    {names : List String} (known : written.map (·.1) ⊆ names) :
    (Holder.table fields).fields? place extent names = some fields := by
  have isKnown : ∀ field ∈ fields, names.contains field.1 = true := by
    intro field member
    rw [List.contains_iff_mem]
    exact known (isWritten.names_perm.mem_iff.1 (List.mem_map_of_mem member))
  rw [Holder.fields?, if_pos, List.filter_eq_self.2 isKnown]
  rw [Bool.and_eq_true, Bool.or_eq_true, List.all_eq_true, List.all_eq_true]
  exact ⟨fun name _ => decide_eq_true (isWritten.filter_name_length_le name), .inr isKnown⟩

/-- The tag of a choice is found wherever it stands among the fields, and the other fields are left.
-/
theorem tagged? (isWritten : Written view fields ((name, part) :: written)) :
    ∃ (tree : Tree) (body : List (String × β)), tree.Reorders part ∧ Written view body written ∧
      (Holder.table fields).tagged? name = some (view tree, .table body) := by
  obtain ⟨ordered, order, inStep⟩ := isWritten.reorder
  obtain ⟨absent, distinct⟩ := List.nodup_cons.1 isWritten.distinct
  obtain ⟨⟨found, _⟩, rest, ⟨isFound, tree, reorders, rfl⟩, restInStep, rfl⟩ :=
    List.forall₂_cons_right_iff.1 inStep
  obtain rfl : name = found := isFound.symm
  have namesRest : rest.map (·.1) = written.map (·.1) := (forall₂_field_iff.1 restInStep).1
  have others : ∀ field ∈ rest, field.1 ≠ name := by
    rintro field member rfl
    exact absent (namesRest ▸ List.mem_map_of_mem member)
  have noTag : rest.filter (·.1 == name) = [] := List.filter_eq_nil_iff.2 (by simpa using others)
  have allOthers : rest.filter (·.1 != name) = rest := List.filter_eq_self.2 (by simpa using others)
  have isTag := order.filter (·.1 == name)
  have isBody := order.filter (·.1 != name)
  rw [List.filter_cons_of_pos (by simp), noTag] at isTag
  rw [List.filter_cons_of_neg (by simp), allOthers] at isBody
  refine ⟨tree, _, reorders, ⟨⟨rest, isBody, restInStep⟩, distinct⟩, ?_⟩
  rw [Holder.tagged?, List.perm_singleton.1 isTag]

end Written

end Tree

end AttributeRelease
