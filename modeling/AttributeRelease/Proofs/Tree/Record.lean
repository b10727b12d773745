import AttributeRelease.Proofs.Tree.Order

/-!
# What records accept

A record takes the fields of a table if none of the names that it knows is written twice and, where
the record is closed, it knows all names. Each field then gives what is read from it, or a default
where it is absent. The lemmas say for each step of a reader exactly when it gives a value, so that
the readers of records can be told by what stands in the table.
-/

namespace AttributeRelease

namespace Fields

/-- A record accepts the names of some fields. -/
@[mk_iff]
structure Accepted (extent : Extent) (names : List String) (fields : Fields Tree) : Prop where
  once : ∀ name ∈ names, (fields.map (·.1)).count name ≤ 1
  known : extent = .closed → ∀ field ∈ fields, field.1 ∈ names

/-- A field that is there is read as a value, or it is absent and the value is its default. -/
inductive Gives {α : Type} (fields : Fields Tree) (name : String) (read : Tree → Option α)
    (default : Option α) (value : α) : Prop
  | present {part : Tree} (isField : (name, part) ∈ fields) (isRead : read part = some value)
  | absent (isAbsent : name ∉ fields.map (·.1)) (isDefault : default = some value)

variable {α : Type} {fields known : Fields Tree} {name : String} {names : List String}
  {extent : Extent} {read : Tree → Option α} {value default : α}

/-- The part under a name is that of the first field with it. -/
theorem get?_cons (field : String × Tree) (rest : Fields Tree) (name : String) :
    Fields.get? (field :: rest) name =
      if field.1 = name then some field.2 else Fields.get? rest name := by
  rw [get?, List.find?_cons]
  by_cases isNamed : field.1 = name
  · simp [isNamed]
  · rw [if_neg isNamed, beq_false_of_ne isNamed]
    rfl

/-- There is no part under a name exactly if no field has it. -/
theorem get?_eq_none_iff : fields.get? name = none ↔ name ∉ fields.map (·.1) := by
  induction fields with
  | nil => simp [get?]
  | cons field rest ih =>
    rw [get?_cons, List.map_cons, List.mem_cons, not_or, ← ih]
    split <;> simp_all [eq_comm]

/-- The part under a name that is written once is the one that stands there. -/
theorem get?_eq_some_iff (once : (fields.map (·.1)).count name ≤ 1) {part : Tree} :
    fields.get? name = some part ↔ (name, part) ∈ fields := by
  induction fields with
  | nil => simp [get?]
  | cons field rest ih =>
    rw [List.map_cons, List.count_cons] at once
    rw [get?_cons, List.mem_cons]
    by_cases isNamed : field.1 = name
    · have absent : (name, part) ∉ rest := by
        intro member
        have isThere : 0 < (rest.map (·.1)).count name :=
          List.count_pos_iff.2 (List.mem_map_of_mem (f := (·.1)) member)
        simp only [isNamed, beq_self_eq_true, if_true] at once
        omega
      subst isNamed
      simp [absent, Prod.ext_iff, eq_comm]
    · have restOnce : (rest.map (·.1)).count name ≤ 1 := by omega
      rw [if_neg isNamed, ih restOnce]
      simp [Prod.ext_iff, Ne.symm isNamed]

/-- A record takes the fields of a table that it accepts, less those that it does not know. -/
theorem fields?_table_eq_some_iff (place : Place) :
    (Holder.table fields).fields? place extent names = some known ↔
      Accepted extent names fields ∧ fields.filter (fun field => names.contains field.1) = known := by
  have accepts : (names.all (fun name => (fields.filter (·.1 == name)).length ≤ 1) &&
      (extent == .openEnded || fields.all fun field => names.contains field.1)) = true ↔
        Accepted extent names fields := by
    rw [accepted_iff]
    simp only [Bool.and_eq_true, Bool.or_eq_true, List.all_eq_true, decide_eq_true_eq, beq_iff_eq,
      List.contains_iff_mem, List.count_eq_length_filter, List.filter_map, List.length_map,
      Function.comp_def]
    cases extent <;> simp
  rw [Holder.fields?]
  by_cases accepted : Accepted extent names fields
  · rw [if_pos (accepts.2 accepted)]
    simp [accepted]
  · rw [if_neg (mt accepts.1 accepted)]
    simp [accepted]

/-- A known name has the same part among the known fields. -/
theorem get?_filter (isKnown : name ∈ names) :
    Fields.get? (fields.filter fun field => names.contains field.1) name = fields.get? name := by
  induction fields with
  | nil => rfl
  | cons field rest ih =>
    rw [List.filter_cons, get?_cons, ← ih]
    by_cases isNamed : field.1 = name
    · rw [if_pos isNamed, if_pos (by simpa [isNamed] using isKnown), get?_cons, if_pos isNamed]
    · rw [if_neg isNamed]
      split
      · rw [get?_cons, if_neg isNamed]
      · rfl

/-- A field that has to be there gives a value if it is there and read as that. -/
theorem Accepted.required_iff (accepted : Accepted extent names fields) (isKnown : name ∈ names) :
    Fields.required (fields.filter fun field => names.contains field.1) name read = some value ↔
      Gives fields name read none value := by
  have once := accepted.once name isKnown
  rw [required, get?_filter isKnown, Option.bind_eq_some_iff]
  constructor
  · rintro ⟨part, found, isRead⟩
    exact .present ((get?_eq_some_iff once).1 found) isRead
  · rintro (⟨isField, isRead⟩ | ⟨_, ⟨⟩⟩)
    exact ⟨_, (get?_eq_some_iff once).2 isField, isRead⟩

/-- A field that may be absent gives its default then, and otherwise the value that it is read as. -/
theorem Accepted.defaulted_iff (accepted : Accepted extent names fields) (isKnown : name ∈ names) :
    Fields.defaulted (fields.filter fun field => names.contains field.1) name default read =
        some value ↔
      Gives fields name read (some default) value := by
  have once := accepted.once name isKnown
  rw [defaulted, get?_filter isKnown]
  constructor
  · intro isRead
    split at isRead
    next found => exact .present ((get?_eq_some_iff once).1 found) isRead
    next found => exact .absent (get?_eq_none_iff.1 found) isRead
  · rintro (⟨isField, isRead⟩ | ⟨isAbsent, isDefault⟩)
    · rw [(get?_eq_some_iff once).2 isField]
      exact isRead
    · rw [get?_eq_none_iff.2 isAbsent]
      exact isDefault

end Fields

namespace Tree.Written

variable {α : Type} {fields : Fields Tree} {written : List (String × Tree)} {name : String}
  {part : Tree} {read : Tree → Option α} {value : α}

/-- An open record accepts what was written in any order. -/
theorem accepted (isWritten : Written id fields written) (names : List String) :
    fields.Accepted .openEnded names where
  once name _ := List.nodup_iff_count_le_one.1 isWritten.nodup name
  known := nofun

/-- A field that was written gives the value that its part is read as. -/
theorem gives (isWritten : Written id fields written) (member : (name, part) ∈ written)
    (reads : Reads read part value) (default : Option α) :
    fields.Gives name read default value := by
  obtain ⟨tree, reorders, isFound⟩ := isWritten.find?_eq_some member
  exact .present (List.mem_of_find?_eq_some isFound) (reads tree reorders)

/-- Every field at hand is one that was written. -/
theorem exists_written (isWritten : Written id fields written) :
    ∀ field ∈ fields, ∃ part, (field.1, part) ∈ written ∧ field.2.Reorders part := by
  intro field member
  obtain ⟨ordered, order, inStep⟩ := isWritten.reorder
  obtain ⟨other, isOther, sameName, shown⟩ :=
    Outcome.exists_mem_of_forall₂ inStep.flip field (order.mem_iff.1 member)
  exact ⟨other.2, sameName ▸ isOther, shows_id_iff.1 shown⟩

end Tree.Written

end AttributeRelease
