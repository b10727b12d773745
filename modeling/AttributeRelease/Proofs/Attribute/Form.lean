import AttributeRelease.Attribute.Basic
import AttributeRelease.Proofs.Time.Rfc3339
import AttributeRelease.Proofs.Tree.Json
import AttributeRelease.Proofs.Tree.Order

/-!
# Written attributes

An attribute whose instants are clock times is what the tree written for it denotes. The content of
a value is read by the reader of its kind, and instants by that of their notation; a map that was
left out because it is empty is empty again. Whether a content stands before its kind does not
matter, since all of a written one is legible. What a tree denotes has clock times only, so an
instant that no clock shows does not survive being written.
-/

namespace AttributeRelease

open AttributeRelease.Tree

namespace Value

/-- What is written for a value can be read as some tree. -/
theorem content_isLegible (value : Value) : value.content.isLegible = true := by
  cases value <;> simp [content, isLegible, fieldsAreLegible, areLegible_iff]

/-- The tree written for a value can be printed. -/
theorem printable_toTree (limit : Nat) (value : Value) :
    Json.Printable (limit + 2) value.toTree := by
  have content : Json.Printable (limit + 1) value.content := by
    cases value with
    | string | xml | dateTime | empty => exact .text _ _
    | withScope text scope =>
      refine .table (List.forall_mem_cons.2 ⟨.text _ _, List.forall_mem_singleton.2 (.text _ _)⟩)
    | bytes octets =>
      refine .list fun item member => ?_
      obtain ⟨octet, -, rfl⟩ := List.mem_map.1 member
      have small := octet.toNat_lt
      exact .integer _ (by omega) (by omega)
  exact .table (List.forall_mem_cons.2 ⟨.text _ _, List.forall_mem_singleton.2 content⟩)

/-- If a value is an instant, then a clock can show it. -/
def IsClockTime : Value → Prop
  | dateTime instant => instant.IsClockTime
  | _ => True

instance : (value : Value) → Decidable value.IsClockTime
  | dateTime instant => inferInstanceAs (Decidable instant.IsClockTime)
  | string _ | withScope _ _ | bytes _ | xml _ | empty _ => .isTrue trivial

/-- The content of a value is read by the reader of its kind. -/
theorem reads_content (place : Place) {value : Value} (isClockTime : value.IsClockTime) :
    Reads (ofContent? place value.kindName) value.content value := by
  cases value with
  | string text => exact (reads_text text).map rfl
  | withScope text scope =>
    refine reads_record (by simp) fun fields isWritten => ?_
    refine step (isWritten.fields? _ _ (by simp)) ?_
    refine step (isWritten.required (by simp) (reads_text text)) ?_
    exact step (isWritten.required (by simp) (reads_text scope)) rfl
  | bytes octets =>
    have shape : octets.map (fun octet => Tree.integer octet.toNat) =
        (octets.map UInt8.toNat).map fun number => .integer number := by simp
    have back : (octets.map UInt8.toNat).map UInt8.ofNat = octets := by
      simp [Function.comp_def]
    rw [content, shape]
    refine (reads_list fun number isOctet => reads_natural ?_).map (congrArg bytes back)
    obtain ⟨octet, _, rfl⟩ := List.mem_map.1 isOctet
    exact octet.toNat_lt
  | xml text => exact (reads_text text).map rfl
  | dateTime instant =>
    have isRead := Time.Rfc3339.read?_write_eq_some_iff.2 isClockTime
    exact ((reads_text (Time.Rfc3339.write instant)).bind isRead).map rfl
  | empty kind =>
    have isKind : emptyKind? (emptyKindName kind) = some kind := by cases kind <;> rfl
    exact ((reads_constant place (emptyKindName kind)).bind isKind).map rfl

/-- A value is read back if its instant, if it is one, shows on a clock. -/
theorem reads_toTree {value : Value} (isClockTime : value.IsClockTime) :
    Reads ofTree? value.toTree value := by
  refine reads_record (by simp) fun fields isWritten => ?_
  obtain ⟨found, reorders, isFound⟩ :=
    isWritten.find?_eq_some (by simp : ("value", value.content) ∈ _)
  refine step (isWritten.fields? _ _ (by simp)) ?_
  refine step (isWritten.required (by simp) (reads_constant _ value.kindName)) ?_
  have isContent : Fields.get? fields "value" = some found := by rw [Fields.get?, isFound]; rfl
  -- Where the content stands before the kind, the reader also asks whether it is legible.
  have isLegible := reorders.isLegible value.content_isLegible
  rw [isContent]
  exact step (by simp [isLegible]) (reads_content _ isClockTime found reorders)

/-- Values that are read have instants that show on a clock. -/
theorem isClockTime_of_ofContent? {place : Place} {kind : String} {content : Tree} {value : Value}
    (isRead : ofContent? place kind content = some value) : value.IsClockTime := by
  unfold ofContent? at isRead
  split at isRead
  case h_2 =>
    simp only [Option.bind_eq_bind, Option.bind_eq_some_iff] at isRead
    obtain ⟨_, _, _, _, _, _, isScoped⟩ := isRead
    cases isScoped
    trivial
  case h_5 =>
    obtain ⟨instant, isInstant, rfl⟩ := Option.map_eq_some_iff.1 isRead
    obtain ⟨text, -, isRead⟩ := Option.bind_eq_some_iff.1 isInstant
    exact Time.Rfc3339.isClockTime_of_read? isRead
  case h_7 => cases isRead
  all_goals
    obtain ⟨_, _, rfl⟩ := Option.map_eq_some_iff.1 isRead
    trivial

/-- A value that a tree denotes is the time of a clock, if it is an instant. -/
theorem isClockTime_of_ofTree? {tree : Tree} {value : Value} (isRead : ofTree? tree = some value) :
    value.IsClockTime := by
  obtain ⟨fields, -, isRead⟩ := Option.bind_eq_some_iff.1 isRead
  obtain ⟨kind, -, isRead⟩ := Option.bind_eq_some_iff.1 isRead
  obtain ⟨content, -, isRead⟩ := Option.bind_eq_some_iff.1 isRead
  exact isClockTime_of_ofContent? isRead

end Value

/-- A map of texts is read back from what is written of it. -/
theorem Attribute.reads_texts (texts : NameMap String) :
    Reads Attribute.texts? (textsTree texts) texts :=
  reads_map fun entry _ => reads_text entry.2

/-- A map of texts is read back, which was left out if it is empty. -/
theorem Tree.Written.texts {fields : Fields Tree} {written : List (String × Tree)} {name : String}
    {map : NameMap String} (isWritten : Written id fields written)
    (given : map.isEmpty = false → (name, Attribute.textsTree map) ∈ written)
    (leftOut : map.isEmpty = true → name ∉ written.map (·.1)) :
    fields.defaulted name ∅ Attribute.texts? = some map := by
  cases isEmpty : map.isEmpty with
  | false => exact isWritten.defaulted (given isEmpty) (Attribute.reads_texts map)
  | true => rw [isWritten.defaulted_of_absent (leftOut isEmpty), NameMap.eq_empty_of_isEmpty isEmpty]

namespace Attribute

/-- The tree written for an attribute can be printed. -/
theorem printable_toTree (limit : Nat) (resolved : Attribute) :
    Json.Printable (limit + 4) resolved.toTree := by
  have texts (map : NameMap String) : Json.Printable (limit + 3) (textsTree map) := by
    refine .table fun field member => ?_
    obtain ⟨entry, -, rfl⟩ := List.mem_map.1 member
    exact .text _ _
  have values : Json.Printable (limit + 3) (.list (resolved.values.map Value.toTree)) := by
    refine .list fun item member => ?_
    obtain ⟨value, -, rfl⟩ := List.mem_map.1 member
    exact value.printable_toTree limit
  refine .table fun field member => ?_
  simp only [List.mem_append, List.mem_cons, List.not_mem_nil, or_false] at member
  rcases member with ((rfl | rfl) | isNames) | isDescriptions
  · exact .text _ _
  · exact values
  · split at isNames
    · cases isNames
    · obtain rfl := List.mem_singleton.1 isNames
      exact texts _
  · split at isDescriptions
    · cases isDescriptions
    · obtain rfl := List.mem_singleton.1 isDescriptions
      exact texts _

/-- Every value that is an instant is the time of a clock. -/
def HasClockTimes (resolved : Attribute) : Prop := ∀ value ∈ resolved.values, value.IsClockTime

instance (resolved : Attribute) : Decidable resolved.HasClockTimes :=
  inferInstanceAs (Decidable (∀ value ∈ resolved.values, value.IsClockTime))

/-- An attribute is read from the tree written for it, whatever the order of the fields in it. -/
theorem reads_toTree {resolved : Attribute} (hasClockTimes : resolved.HasClockTimes) :
    Reads ofTree? resolved.toTree resolved := by
  have values := reads_list fun value member => Value.reads_toTree (hasClockTimes value member)
  simp only [toTree]
  refine reads_record (by split_ifs <;> simp) fun fields isWritten => ?_
  have names : Fields.defaulted fields "display_names" ∅ texts? = some resolved.displayNames :=
    isWritten.texts (by simp +contextual) (by split_ifs <;> simp_all)
  have descriptions : Fields.defaulted fields "display_descriptions" ∅ texts? =
      some resolved.displayDescriptions :=
    isWritten.texts (by simp +contextual) (by split_ifs <;> simp_all)
  refine step (isWritten.fields? _ _ (by split_ifs <;> simp)) ?_
  refine step (isWritten.required (by simp) (reads_text resolved.id)) ?_
  refine step (isWritten.defaulted (by simp) values) ?_
  exact step names (step descriptions rfl)

/-- Attributes that are read have instants that show on a clock. -/
theorem hasClockTimes_of_ofTree? {tree : Tree} {resolved : Attribute}
    (isRead : ofTree? tree = some resolved) : resolved.HasClockTimes := by
  obtain ⟨fields, -, isRead⟩ := Option.bind_eq_some_iff.1 isRead
  obtain ⟨id, -, isRead⟩ := Option.bind_eq_some_iff.1 isRead
  obtain ⟨values, valuesRead, isRead⟩ := Option.bind_eq_some_iff.1 isRead
  obtain ⟨names, -, isRead⟩ := Option.bind_eq_some_iff.1 isRead
  obtain ⟨descriptions, -, isRead⟩ := Option.bind_eq_some_iff.1 isRead
  cases isRead
  intro value member
  cases found : fields.get? "values" with
  | none =>
    rw [Fields.defaulted, found] at valuesRead
    cases valuesRead
    cases member
  | some part =>
    rw [Fields.defaulted, found] at valuesRead
    obtain ⟨items, rfl, inStep⟩ := listOf?_eq_some_iff.1 valuesRead
    obtain ⟨item, -, isValue⟩ := Outcome.exists_mem_of_forall₂ inStep value member
    exact Value.isClockTime_of_ofTree? isValue

/-- The tree written for an attribute is read as that attribute exactly if its instants are times of
a clock, and then also with its fields in any other order. All instants of an attribute that some
tree denotes are such times, in whatever way the tree gives them. So the tree written for it is a
normal form: it denotes the same, and differs from that of every other attribute with clock times. -/
theorem reads_written :
    (∀ resolved : Attribute, ofTree? resolved.toTree = some resolved ↔ resolved.HasClockTimes) ∧
    (∀ resolved : Attribute, resolved.HasClockTimes →
      ∀ tree : Tree, tree.Reorders resolved.toTree → ofTree? tree = some resolved) ∧
    (∀ (tree : Tree) (resolved : Attribute), ofTree? tree = some resolved →
      resolved.HasClockTimes ∧
        ∀ normal : Tree, normal.Reorders resolved.toTree → ofTree? normal = some resolved) ∧
    Set.InjOn toTree {resolved | resolved.HasClockTimes} := by
  refine ⟨fun resolved => ⟨hasClockTimes_of_ofTree?, fun hasClockTimes => ?_⟩,
    fun resolved => reads_toTree, fun tree resolved isRead => ?_, ?_⟩
  · exact (reads_toTree hasClockTimes).eq
  · have hasClockTimes := hasClockTimes_of_ofTree? isRead
    exact ⟨hasClockTimes, reads_toTree hasClockTimes⟩
  · intro left leftClock right rightClock same
    have leftRead := (reads_toTree leftClock).eq
    rw [same, (reads_toTree rightClock).eq] at leftRead
    exact (Option.some.inj leftRead).symm

/-- A date before the first year, at an offset and in a leap second. -/
def idesOfMarch : Tree :=
  .table [("values", .list [.table [("value", .text "-0044-03-15t12:29:60.5 +00:30"),
    ("type", .text "date_time")]]), ("id", .text "ides"), ("display_names", .table [])]

/-- The attribute that `idesOfMarch` denotes. -/
def idesOfMarchRead : Attribute :=
  .ofValues "ides" [.dateTime ⟨-63549316801, 1500000000, by decide, by decide⟩]

/-- The date is read, and so is what is written of it, in either order of the fields. -/
theorem idesOfMarch_written :
    ofTree? idesOfMarch = some idesOfMarchRead ∧ idesOfMarchRead.HasClockTimes ∧
      ofTree? idesOfMarchRead.toTree = some idesOfMarchRead ∧
      ∃ fields, idesOfMarchRead.toTree = .table fields ∧
        ofTree? (.table fields.reverse) = some idesOfMarchRead := by
  have read : ofTree? idesOfMarch = some idesOfMarchRead := by decide +kernel
  obtain ⟨hasClockTimes, readsNormal⟩ := reads_written.2.2.1 idesOfMarch idesOfMarchRead read
  refine ⟨read, hasClockTimes, readsNormal _ (.same _), _, rfl, ?_⟩
  refine reads_written.2.1 idesOfMarchRead (by decide) _ (.table (List.reverse_perm _) rfl ?_)
  exact List.forall₂_same.2 fun tree _ => .same tree

/-- A third of a second beyond a whole one, beside a second that is not the last of its minute. -/
def beyondFourth : Attribute :=
  .ofValues "seen" [.dateTime ⟨1435708564, 1333333333, by decide, by decide⟩]

/-- An instant that no clock shows is written like one that comes after it, and so is not read back.
-/
theorem beyondFourth_not_read_back :
    beyondFourth.toTree = .table [("id", .text "seen"), ("values", .list [.table
        [("type", .text "date_time"), ("value", .text "2015-06-30T23:56:05.333333333Z")]])] ∧
      ofTree? beyondFourth.toTree ≠ some beyondFourth := by
  constructor
  · rfl
  · decide +kernel

end Attribute

end AttributeRelease
