/-!
# Maps keyed by names

Finite maps from names to anything, held as lists in ascending order of the names. A map is
determined by what it finds, which `NameMap.ext_find?` says; the other lemmas say what each operation
does to what a map finds.
-/

namespace AttributeRelease

/-- A finite map from names, in ascending order and each name at most once. -/
structure NameMap (α : Type) where
  entries : List (String × α)
  ascending : entries.Pairwise fun left right => left.1 < right.1

namespace NameMap

variable {α β : Type}

/-- What a list of entries has under a name. -/
def lookup (name : String) : List (String × α) → Option α
  | [] => none
  | (key, value) :: rest => if key = name then some value else lookup name rest

/-- Puts an entry into an ascending list, in the place of one with its name. -/
def place (name : String) (value : α) : List (String × α) → List (String × α)
  | [] => [(name, value)]
  | (key, old) :: rest =>
    if name < key then (name, value) :: (key, old) :: rest
    else if name = key then (name, value) :: rest
    else (key, old) :: place name value rest

/-- Putting an entry in its place adds that entry and nothing else. -/
theorem mem_place {name : String} {value : α} {entries : List (String × α)} {entry : String × α}
    (member : entry ∈ place name value entries) : entry = (name, value) ∨ entry ∈ entries := by
  induction entries with
  | nil => simpa [place] using member
  | cons head rest ih =>
    obtain ⟨key, old⟩ := head
    simp only [place] at member
    split at member
    · simpa using member
    · split at member
      · rcases List.mem_cons.1 member with found | found
        · exact .inl found
        · exact .inr (List.mem_cons_of_mem _ found)
      · rcases List.mem_cons.1 member with found | found
        · exact .inr (found ▸ List.mem_cons_self)
        · rcases ih found with found | found
          · exact .inl found
          · exact .inr (List.mem_cons_of_mem _ found)

/-- Of two different names one comes before the other. -/
theorem lt_of_not_lt_of_ne {left right : String} (notLess : ¬ left < right)
    (different : left ≠ right) : right < left := by
  rcases Decidable.em (right < left) with less | notGreater
  · exact less
  · exact absurd (String.le_antisymm (String.not_lt.1 notGreater) (String.not_lt.1 notLess))
      different

/-- Entries stay in ascending order of their names when one is put in its place. -/
theorem ascending_place (name : String) (value : α) {entries : List (String × α)}
    (ascending : entries.Pairwise fun left right => left.1 < right.1) :
    (place name value entries).Pairwise fun left right => left.1 < right.1 := by
  induction entries with
  | nil => simp [place]
  | cons head rest ih =>
    obtain ⟨key, old⟩ := head
    obtain ⟨first, others⟩ := List.pairwise_cons.1 ascending
    simp only [place]
    split
    next less =>
      refine List.pairwise_cons.2 ⟨fun entry member => ?_, ascending⟩
      rcases List.mem_cons.1 member with found | found
      · exact found ▸ less
      · exact String.lt_trans less (first entry found)
    next notLess =>
      split
      next same =>
        exact List.pairwise_cons.2 ⟨fun entry member => same ▸ first entry member, others⟩
      next different =>
        refine List.pairwise_cons.2 ⟨fun entry member => ?_, ih others⟩
        rcases mem_place member with found | found
        · exact found ▸ lt_of_not_lt_of_ne notLess different
        · exact first entry found

/-- The map without entries. -/
def empty : NameMap α := ⟨[], .nil⟩

instance : EmptyCollection (NameMap α) := ⟨empty⟩

instance : Inhabited (NameMap α) := ⟨empty⟩

/-- What the map has under a name. -/
def find? (map : NameMap α) (name : String) : Option α := lookup name map.entries

/-- Whether the map has an entry under a name. -/
def contains (map : NameMap α) (name : String) : Bool := (map.find? name).isSome

/-- The map with an entry put in, in the place of one with its name. -/
def insert (map : NameMap α) (name : String) (value : α) : NameMap α :=
  ⟨place name value map.entries, ascending_place name value map.ascending⟩

/-- The map of a list of entries, of which later ones replace earlier ones with their name. -/
def ofList (entries : List (String × α)) : NameMap α :=
  entries.foldl (fun map entry => map.insert entry.1 entry.2) empty

/-- The entries in ascending order of the names. -/
def toList (map : NameMap α) : List (String × α) := map.entries

/-- The names in ascending order. -/
def names (map : NameMap α) : List String := map.entries.map (·.1)

/-- The values in ascending order of their names. -/
def values (map : NameMap α) : List α := map.entries.map (·.2)

/-- The number of entries. -/
def size (map : NameMap α) : Nat := map.entries.length

/-- Whether the map has no entries. -/
def isEmpty (map : NameMap α) : Bool := map.entries.isEmpty

/-- Keeps and changes the values for which a function gives one. -/
def filterMap (map : NameMap α) (change : String → α → Option β) : NameMap β where
  entries := map.entries.filterMap fun entry => (change entry.1 entry.2).map (entry.1, ·)
  ascending := by
    refine List.Pairwise.filterMap _ ?_ map.ascending
    intro left right less left' isLeft right' isRight
    obtain ⟨_, _, rfl⟩ := Option.map_eq_some_iff.1 isLeft
    obtain ⟨_, _, rfl⟩ := Option.map_eq_some_iff.1 isRight
    exact less

/-- Changes every value. -/
def map (map : NameMap α) (change : α → β) : NameMap β :=
  map.filterMap fun _ value => some (change value)

/-- The only entry of an ascending list that is placed under a name is found there. -/
theorem lookup_place (name other : String) (value : α) (entries : List (String × α)) :
    lookup other (place name value entries) =
      if name = other then some value else lookup other entries := by
  induction entries with
  | nil => simp [place, lookup]
  | cons head rest ih =>
    obtain ⟨key, old⟩ := head
    simp only [place]
    split
    · simp [lookup]
    · split
      next same => subst same; by_cases h : name = other <;> simp [lookup, h]
      next different =>
        simp only [lookup, ih]
        by_cases h : key = other
        · subst h; simp [different]
        · simp [h]

@[simp] theorem find?_empty (name : String) : (∅ : NameMap α).find? name = none := rfl

@[simp] theorem find?_insert (map : NameMap α) (name other : String) (value : α) :
    (map.insert name value).find? other = if name = other then some value else map.find? other :=
  lookup_place name other value map.entries

/-- After an insertion the map has the name inserted and those that it had. -/
theorem contains_insert (map : NameMap α) (name other : String) (value : α) :
    (map.insert name value).contains other = (decide (name = other) || map.contains other) := by
  rw [contains, find?_insert, contains]
  by_cases same : name = other <;> simp [same]

/-- In ascending entries a name is looked up as the value that stands beside it. -/
theorem lookup_eq_some_iff {name : String} {value : α} {entries : List (String × α)}
    (ascending : entries.Pairwise fun left right => left.1 < right.1) :
    lookup name entries = some value ↔ (name, value) ∈ entries := by
  induction entries with
  | nil => simp [lookup]
  | cons head rest ih =>
    obtain ⟨key, old⟩ := head
    obtain ⟨first, others⟩ := List.pairwise_cons.1 ascending
    simp only [lookup, List.mem_cons, Prod.mk.injEq]
    split
    next same =>
      subst same
      constructor
      · intro found
        exact .inl ⟨rfl, (Option.some.inj found).symm⟩
      · rintro (⟨_, same⟩ | member)
        · exact same ▸ rfl
        · exact absurd (first _ member) (String.lt_irrefl _)
    next different =>
      rw [ih others]
      constructor
      · exact .inr
      · rintro (⟨same, _⟩ | member)
        · exact absurd same.symm different
        · exact member

/-- A value is found under a name exactly if the entries have it there. -/
theorem find?_eq_some_iff {map : NameMap α} {name : String} {value : α} :
    map.find? name = some value ↔ (name, value) ∈ map.toList :=
  lookup_eq_some_iff map.ascending

/-- What is left of a map has under a name what the change gave there. -/
@[simp] theorem find?_filterMap (map : NameMap α) (change : String → α → Option β)
    (name : String) : (map.filterMap change).find? name = (map.find? name).bind (change name) := by
  ext result
  rw [find?_eq_some_iff, Option.bind_eq_some_iff]
  simp only [toList, filterMap, List.mem_filterMap, Option.map_eq_some_iff, Prod.mk.injEq]
  constructor
  · rintro ⟨entry, member, _, changed, rfl, rfl⟩
    exact ⟨entry.2, find?_eq_some_iff.2 member, changed⟩
  · rintro ⟨value, found, changed⟩
    exact ⟨(name, value), find?_eq_some_iff.1 found, result, changed, rfl, rfl⟩

/-- Entries in ascending order are told by what is among them. -/
private theorem entries_ext : {left right : List (String × α)} →
    left.Pairwise (fun a b => a.1 < b.1) → right.Pairwise (fun a b => a.1 < b.1) →
    (∀ entry, entry ∈ left ↔ entry ∈ right) → left = right
  | [], [], _, _, _ => rfl
  | [], head :: _, _, _, same => absurd ((same head).2 List.mem_cons_self) (by simp)
  | head :: _, [], _, _, same => absurd ((same head).1 List.mem_cons_self) (by simp)
  | head :: left, head' :: right, ascLeft, ascRight, same => by
    obtain ⟨firstLeft, restLeft⟩ := List.pairwise_cons.1 ascLeft
    obtain ⟨firstRight, restRight⟩ := List.pairwise_cons.1 ascRight
    have heads : head = head' := by
      rcases List.mem_cons.1 ((same head).1 List.mem_cons_self) with found | found
      · exact found
      · rcases List.mem_cons.1 ((same head').2 List.mem_cons_self) with found' | found'
        · exact found'.symm
        · exact absurd (String.lt_trans (firstRight _ found) (firstLeft _ found'))
            (String.lt_irrefl _)
    subst heads
    have rest : ∀ entry, entry ∈ left ↔ entry ∈ right := by
      intro entry
      constructor
      · intro member
        rcases List.mem_cons.1 ((same entry).1 (List.mem_cons_of_mem _ member)) with found | found
        · exact absurd (firstLeft _ member) (found ▸ String.lt_irrefl _)
        · exact found
      · intro member
        rcases List.mem_cons.1 ((same entry).2 (List.mem_cons_of_mem _ member)) with found | found
        · exact absurd (firstRight _ member) (found ▸ String.lt_irrefl _)
        · exact found
    rw [entries_ext restLeft restRight rest]

/-- Maps that find the same under every name are equal. -/
@[ext] theorem ext_find? {left right : NameMap α}
    (same : ∀ name, left.find? name = right.find? name) : left = right := by
  obtain ⟨leftEntries, leftAscending⟩ := left
  obtain ⟨rightEntries, rightAscending⟩ := right
  have : leftEntries = rightEntries := by
    refine entries_ext leftAscending rightAscending fun entry => ?_
    have found : lookup entry.1 leftEntries = lookup entry.1 rightEntries := same entry.1
    rw [← lookup_eq_some_iff leftAscending, ← lookup_eq_some_iff rightAscending, found]
  subst this
  rfl

instance [DecidableEq α] : DecidableEq (NameMap α) := fun left right =>
  decidable_of_iff (left.entries = right.entries)
    ⟨fun same => by cases left; cases right; cases same; rfl, fun same => same ▸ rfl⟩

end NameMap

end AttributeRelease
