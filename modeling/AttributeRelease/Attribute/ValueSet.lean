import AttributeRelease.Attribute.Value

/-!
# Sets of values

Finite sets of attribute values, held as ascending lists without repetitions. A set is determined by
its members, which `ValueSet.ext_mem` says; the other lemmas say what each operation does to them.
-/

namespace AttributeRelease

namespace Value

/-- No value comes before itself. -/
theorem lt_irrefl (value : Value) : ¬ value < value := List.lt_irrefl value.key

/-- The order of values is transitive. -/
theorem lt_trans {a b c : Value} (first : a < b) (second : b < c) : a < c :=
  List.lt_trans (show a.key < b.key from first) second

/-- Of two different values one comes before the other. -/
theorem lt_of_not_lt_of_ne {a b : Value} (notLess : ¬ a < b) (different : a ≠ b) : b < a := by
  rcases Decidable.em (b < a) with less | notGreater
  · exact less
  · refine absurd (key_injective (List.le_antisymm ?_ ?_)) different
    · exact List.not_lt.1 notGreater
    · exact List.not_lt.1 notLess

end Value

/-- A finite set of values, in ascending order and each value once. -/
structure ValueSet where
  members : List Value
  ascending : members.Pairwise fun left right => left < right

namespace ValueSet

/-- Puts a value into an ascending list that may hold it already. -/
def place (value : Value) : List Value → List Value
  | [] => [value]
  | head :: rest =>
    if value < head then value :: head :: rest
    else if value = head then head :: rest
    else head :: place value rest

/-- Putting a value in its place adds that value and nothing else. -/
theorem mem_place {value other : Value} {members : List Value} :
    other ∈ place value members ↔ other = value ∨ other ∈ members := by
  induction members with
  | nil => simp [place]
  | cons head rest ih =>
    simp only [place]
    split
    · simp
    · split
      next same => subst same; simp
      next => simp only [List.mem_cons, ih]; grind

/-- Values stay in ascending order when one is put in its place. -/
theorem ascending_place (value : Value) {members : List Value}
    (ascending : members.Pairwise fun left right => left < right) :
    (place value members).Pairwise fun left right => left < right := by
  induction members with
  | nil => simp [place]
  | cons head rest ih =>
    obtain ⟨first, others⟩ := List.pairwise_cons.1 ascending
    simp only [place]
    split
    next less =>
      refine List.pairwise_cons.2 ⟨fun other member => ?_, ascending⟩
      rcases List.mem_cons.1 member with found | found
      · exact found ▸ less
      · exact Value.lt_trans less (first other found)
    next notLess =>
      split
      · exact ascending
      next different =>
        refine List.pairwise_cons.2 ⟨fun other member => ?_, ih others⟩
        rcases mem_place.1 member with found | found
        · exact found ▸ Value.lt_of_not_lt_of_ne notLess different
        · exact first other found

/-- The set without members. -/
def empty : ValueSet := ⟨[], .nil⟩

instance : EmptyCollection ValueSet := ⟨empty⟩

instance : Inhabited ValueSet := ⟨empty⟩

instance : Membership Value ValueSet := ⟨fun set value => value ∈ set.members⟩

instance (value : Value) (set : ValueSet) : Decidable (value ∈ set) :=
  inferInstanceAs (Decidable (value ∈ set.members))

/-- The set with a value put in. -/
def insert (set : ValueSet) (value : Value) : ValueSet :=
  ⟨place value set.members, ascending_place value set.ascending⟩

/-- The set of a list's values. -/
def ofList (values : List Value) : ValueSet := values.foldl insert empty

/-- The members in ascending order. -/
def toList (set : ValueSet) : List Value := set.members

/-- The members that pass a test. -/
def filter (set : ValueSet) (passes : Value → Bool) : ValueSet :=
  ⟨set.members.filter passes, set.ascending.filter passes⟩

/-- The members of either set. -/
def union (left right : ValueSet) : ValueSet := right.members.foldl insert left

/-- The members of both sets. -/
def inter (left right : ValueSet) : ValueSet := left.filter fun value => value ∈ right

/-- The members of the first set that the second does not have. -/
def diff (left right : ValueSet) : ValueSet := left.filter fun value => value ∉ right

/-- Whether the set has no members. -/
def isEmpty (set : ValueSet) : Bool := set.members.isEmpty

theorem mem_def {value : Value} {set : ValueSet} : value ∈ set ↔ value ∈ set.members := Iff.rfl

@[simp] theorem not_mem_empty (value : Value) : value ∉ (∅ : ValueSet) := List.not_mem_nil

@[simp] theorem mem_insert {set : ValueSet} {value other : Value} :
    other ∈ set.insert value ↔ other = value ∨ other ∈ set := mem_place

/-- Inserting values one after the other adds exactly these. -/
theorem mem_foldl_insert {values : List Value} {set : ValueSet} {value : Value} :
    value ∈ values.foldl insert set ↔ value ∈ set ∨ value ∈ values := by
  induction values generalizing set with
  | nil => simp
  | cons head rest ih => simp only [List.foldl_cons, ih, mem_insert, List.mem_cons]; grind

@[simp] theorem mem_ofList {values : List Value} {value : Value} :
    value ∈ ofList values ↔ value ∈ values := by
  refine mem_foldl_insert.trans ?_
  exact ⟨fun found => found.resolve_left (not_mem_empty value), .inr⟩

@[simp] theorem mem_union {left right : ValueSet} {value : Value} :
    value ∈ left.union right ↔ value ∈ left ∨ value ∈ right := mem_foldl_insert

@[simp] theorem mem_filter {set : ValueSet} {passes : Value → Bool} {value : Value} :
    value ∈ set.filter passes ↔ value ∈ set ∧ passes value = true := List.mem_filter

@[simp] theorem mem_inter {left right : ValueSet} {value : Value} :
    value ∈ left.inter right ↔ value ∈ left ∧ value ∈ right := by simp [inter]

@[simp] theorem mem_diff {left right : ValueSet} {value : Value} :
    value ∈ left.diff right ↔ value ∈ left ∧ value ∉ right := by simp [diff]

/-- Members in ascending order are told by what is among them. -/
private theorem members_ext : {left right : List Value} →
    left.Pairwise (fun a b => a < b) → right.Pairwise (fun a b => a < b) →
    (∀ value, value ∈ left ↔ value ∈ right) → left = right
  | [], [], _, _, _ => rfl
  | [], head :: _, _, _, same => absurd ((same head).2 List.mem_cons_self) (by simp)
  | head :: _, [], _, _, same => absurd ((same head).1 List.mem_cons_self) (by simp)
  | head :: left, head' :: right, ascLeft, ascRight, same => by
    obtain ⟨firstLeft, restLeft⟩ := List.pairwise_cons.1 ascLeft
    obtain ⟨firstRight, restRight⟩ := List.pairwise_cons.1 ascRight
    have heads : head = head' := by
      rcases List.mem_cons.1 ((same head).1 List.mem_cons_self) with found | found
      · exact found
      · rcases List.mem_cons.1 ((same head').2 List.mem_cons_self) with found' | found'
        · exact found'.symm
        · exact absurd (Value.lt_trans (firstRight _ found) (firstLeft _ found'))
            (Value.lt_irrefl _)
    subst heads
    have rest : ∀ value, value ∈ left ↔ value ∈ right := by
      intro value
      constructor
      · intro member
        rcases List.mem_cons.1 ((same value).1 (List.mem_cons_of_mem _ member)) with found | found
        · exact absurd (firstLeft _ member) (found ▸ Value.lt_irrefl _)
        · exact found
      · intro member
        rcases List.mem_cons.1 ((same value).2 (List.mem_cons_of_mem _ member)) with found | found
        · exact absurd (firstRight _ member) (found ▸ Value.lt_irrefl _)
        · exact found
    rw [members_ext restLeft restRight rest]

/-- Sets with the same members are equal. -/
@[ext] theorem ext_mem {left right : ValueSet} (same : ∀ value, value ∈ left ↔ value ∈ right) :
    left = right := by
  obtain ⟨leftMembers, leftAscending⟩ := left
  obtain ⟨rightMembers, rightAscending⟩ := right
  have : leftMembers = rightMembers := members_ext leftAscending rightAscending same
  subst this
  rfl

instance : DecidableEq ValueSet := fun left right =>
  decidable_of_iff (left.members = right.members)
    ⟨fun same => by cases left; cases right; cases same; rfl, fun same => same ▸ rfl⟩

/-- A set without members is the empty one. -/
theorem isEmpty_iff {set : ValueSet} : set.isEmpty = true ↔ set = ∅ := by
  constructor
  · intro noMembers
    refine ext_mem fun value => ⟨fun member => ?_, fun member => absurd member (not_mem_empty value)⟩
    rw [mem_def, List.isEmpty_iff.1 noMembers] at member
    exact absurd member List.not_mem_nil
  · rintro rfl
    rfl

end ValueSet

end AttributeRelease
