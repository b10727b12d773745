import AttributeRelease.NameMap
import Mathlib.Data.List.Nodup
import Mathlib.Data.List.Perm.Basic

/-!
# Maps of lists of entries

What is put into a map one after the other is found under its name unless something later has the
same name. Entries of different names give the same map in every order.
-/

namespace AttributeRelease.NameMap

variable {α β : Type}

/-- Of elements that are put into a map under their names, the last one of a name is found. -/
theorem find?_foldl_insert (name : β → String) (value : β → α) (list : List β) (map : NameMap α)
    (wanted : String) :
    (list.foldl (fun map element => map.insert (name element) (value element)) map).find? wanted =
      ((list.reverse.find? fun element => name element == wanted).map value).or
        (map.find? wanted) := by
  induction list generalizing map with
  | nil => simp
  | cons head rest ih =>
    rw [List.foldl_cons, ih, find?_insert, List.reverse_cons, List.find?_append]
    by_cases same : name head = wanted
    · cases rest.reverse.find? fun element => name element == wanted <;> simp [same]
    · simp [same]

/-- Of entries with one name the last one counts. -/
theorem find?_ofList (entries : List (String × α)) (wanted : String) :
    (ofList entries).find? wanted =
      (entries.reverse.find? fun entry => entry.1 == wanted).map (·.2) := by
  rw [ofList, find?_foldl_insert (fun entry : String × α => entry.1) (fun entry => entry.2)]
  exact Option.or_none

/-- Among entries of different names each one is found under its name. -/
theorem find?_named_iff {entries : List (String × α)} (distinct : (entries.map (·.1)).Nodup)
    {name : String} {entry : String × α} :
    (entries.find? fun entry => entry.1 == name) = some entry ↔
      entry ∈ entries ∧ entry.1 = name := by
  constructor
  · intro found
    exact ⟨List.mem_of_find?_eq_some found, by simpa using List.find?_some found⟩
  · rintro ⟨member, rfl⟩
    cases found : entries.find? fun other => other.1 == entry.1 with
    | none => exact absurd (beq_self_eq_true entry.1) (List.find?_eq_none.1 found entry member)
    | some other =>
      have sameName : other.1 = entry.1 := by simpa using List.find?_some found
      have isMember := List.mem_of_find?_eq_some found
      rw [List.inj_on_of_nodup_map distinct isMember member sameName]

/-- Changing all values changes what is found. -/
theorem find?_map (map : NameMap α) (change : α → β) (name : String) :
    (map.map change).find? name = (map.find? name).map change := by
  rw [NameMap.map, find?_filterMap, Option.map_eq_bind]
  rfl

/-- No name of a map stands twice. -/
theorem nodup_names (map : NameMap α) : (map.toList.map (·.1)).Nodup :=
  List.pairwise_map.2 (map.ascending.imp fun less => String.ne_of_lt less)

/-- The entries of a map, in any order, give the map. -/
theorem ofList_of_perm {map : NameMap α} {entries : List (String × α)}
    (order : entries.Perm map.toList) : ofList entries = map := by
  have backwards : entries.reverse.Perm map.toList := entries.reverse_perm.trans order
  have distinct : (entries.reverse.map (·.1)).Nodup :=
    (backwards.map _).nodup_iff.2 map.nodup_names
  ext name value
  rw [find?_ofList, find?_eq_some_iff, ← backwards.mem_iff, Option.map_eq_some_iff]
  constructor
  · rintro ⟨entry, found, rfl⟩
    obtain ⟨member, rfl⟩ := (find?_named_iff distinct).1 found
    exact member
  · intro member
    exact ⟨(name, value), (find?_named_iff distinct).2 ⟨member, rfl⟩, rfl⟩

/-- A map without entries is the empty one. -/
theorem eq_empty_of_isEmpty {map : NameMap α} (isEmpty : map.isEmpty = true) : map = ∅ := by
  obtain ⟨entries, ascending⟩ := map
  obtain rfl : entries = [] := List.isEmpty_iff.1 isEmpty
  rfl

end AttributeRelease.NameMap
