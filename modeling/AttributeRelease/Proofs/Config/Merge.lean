import AttributeRelease.Config.Merge
import AttributeRelease.Proofs.Compile.Clause
import Mathlib.Data.List.Perm.Basic

/-!
# What merging policy sets gives

A merge goes through the named rules of the set that is added in the order of their ids, and then
through its named matchers. It adds one definition after the other until it comes to a name that is
taken. `PolicySet.merge_of_some` says which definitions are there then, `PolicySet.merge_of_none` what
is there if no name was taken. Sets that share no name can be merged in any order, and give a union
that does not depend on it.
-/

namespace AttributeRelease

namespace NameMap

variable {α : Type} {known other result : NameMap α} {entries : List (String × α)}
  {stop : Option String}

/-- Entries were put into a map in their order, up to the first whose name is known. -/
structure Entered (known : NameMap α) (entries : List (String × α)) (result : NameMap α)
    (stop : Option String) : Prop where
  fresh : ∀ entry ∈ entries, (∀ id ∈ stop, entry.1 < id) → known.contains entry.1 = false
  find?_iff : ∀ name value, result.find? name = some value ↔
    known.find? name = some value ∨ (∀ id ∈ stop, name < id) ∧ (name, value) ∈ entries
  taken : ∀ id ∈ stop, known.contains id = true ∧ ∃ value, (id, value) ∈ entries

/-- Under a name that a map does not have nothing is found. -/
theorem find?_eq_none_of_contains {name : String} (absent : known.contains name = false) :
    known.find? name = none := by
  simpa [contains] using absent

/-- The first name is taken, so nothing is entered. -/
theorem entered_of_taken {key : String} {value : α} (first : ∀ entry ∈ entries, key < entry.1)
    (taken : known.contains key = true) :
    Entered known ((key, value) :: entries) known (some key) := by
  have notReached : ∀ entry ∈ (key, value) :: entries, ¬ ∀ id ∈ some key, entry.1 < id := by
    intro entry member reached
    have before : entry.1 < key := reached key rfl
    rcases List.mem_cons.1 member with rfl | member
    · exact String.lt_irrefl _ before
    · exact String.lt_irrefl _ (String.lt_trans before (first entry member))
  refine ⟨fun entry member reached => absurd reached (notReached entry member), ?_, ?_⟩
  · intro name found
    refine ⟨.inl, ?_⟩
    rintro (isKnown | ⟨reached, member⟩)
    · exact isKnown
    · exact absurd reached (notReached _ member)
  · rintro _ ⟨⟩
    exact ⟨taken, value, List.mem_cons_self⟩

/-- The first entry is put in, and the others after it. -/
theorem Entered.cons {key : String} {value : α} (first : ∀ entry ∈ entries, key < entry.1)
    (isNew : known.contains key = false)
    (entered : Entered (known.insert key value) entries result stop) :
    Entered known ((key, value) :: entries) result stop := by
  have keyReached : ∀ id ∈ stop, key < id := by
    intro id stopped
    obtain ⟨_, _, member⟩ := entered.taken id stopped
    exact first _ member
  have keyOnce : ∀ found, (key, found) ∉ entries :=
    fun found member => String.lt_irrefl _ (first _ member)
  refine ⟨?fresh, ?find, ?taken⟩
  case fresh =>
    intro entry member reached
    rcases List.mem_cons.1 member with rfl | member
    · exact isNew
    · have isFree := entered.fresh entry member reached
      rw [contains_insert, Bool.or_eq_false_iff] at isFree
      exact isFree.2
  case find =>
    intro name found
    rw [entered.find?_iff, find?_insert, List.mem_cons, Prod.mk.injEq]
    by_cases same : key = name
    · -- Ids ascend, so no later entry has this name and its value stays.
      subst same
      have unknown := find?_eq_none_of_contains isNew
      simp only [if_true, Option.some.injEq, unknown, reduceCtorEq, keyOnce found, and_false,
        or_false, true_and, false_or, eq_comm]
      exact (and_iff_right keyReached).symm
    · simp [same, Ne.symm same]
  case taken =>
    intro id stopped
    obtain ⟨isTaken, found, member⟩ := entered.taken id stopped
    have different : key ≠ id := fun same => String.lt_irrefl _ (same ▸ keyReached id stopped)
    rw [contains_insert, decide_eq_false different, Bool.false_or] at isTaken
    exact ⟨isTaken, found, List.mem_cons_of_mem _ member⟩

/-- Named entries in ascending order are entered up to the first known name. -/
theorem addNamed_entered (known : NameMap α)
    (ascending : entries.Pairwise fun left right => left.1 < right.1) :
    Entered known entries (PolicySet.addNamed known entries).1
      (PolicySet.addNamed known entries).2 := by
  induction entries generalizing known with
  | nil => exact ⟨by simp, by simp [PolicySet.addNamed], by simp [PolicySet.addNamed]⟩
  | cons head rest ih =>
    obtain ⟨key, value⟩ := head
    obtain ⟨first, others⟩ := List.pairwise_cons.1 ascending
    rw [PolicySet.addNamed]
    by_cases taken : known.contains key = true
    · rw [if_pos taken]
      exact entered_of_taken first taken
    · rw [if_neg taken]
      exact (ih (known.insert key value) others).cons first (eq_false_of_ne_true taken)

/-- A map has the entries of a known one, and besides those entries of another one that were reached.
None of these has a name that is known. -/
structure Adds (known other result : NameMap α) (reached : String → Prop) : Prop where
  fresh : ∀ name, reached name → known.contains name = true → other.contains name = false
  find?_iff : ∀ name value, result.find? name = some value ↔
    known.find? name = some value ∨ reached name ∧ other.find? name = some value

/-- A map of which nothing is reached adds nothing. -/
theorem adds_nothing (known other : NameMap α) : Adds known other known fun _ => False :=
  ⟨by simp, by simp⟩

/-- Entering the entries of a map adds those before the name at which it stops. -/
theorem Entered.adds (entered : Entered known other.toList result stop) :
    Adds known other result fun name => ∀ id ∈ stop, name < id := by
  refine ⟨fun name reached isKnown => ?_, fun name value => ?_⟩
  · cases found : other.find? name with
    | none => simp [contains, found]
    | some value =>
      have isFree := entered.fresh _ (find?_eq_some_iff.1 found) reached
      rw [isKnown] at isFree
      cases isFree
  · rw [entered.find?_iff, ← @find?_eq_some_iff _ other]

/-- Adding that came to an end has added all entries, and no name was known. -/
theorem adds_of_addNamed_eq_none (ended : PolicySet.addNamed known other.toList = (result, none)) :
    Adds known other result fun _ => True := by
  have entered := addNamed_entered known other.ascending
  rw [← toList, ended] at entered
  simpa using entered.adds

/-- Adding that stopped at a name has added the entries before it. -/
theorem adds_of_addNamed_eq_some {id : String}
    (ended : PolicySet.addNamed known other.toList = (result, some id)) :
    known.contains id = true ∧ other.contains id = true ∧ Adds known other result (· < id) := by
  have entered := addNamed_entered known other.ascending
  rw [← toList, ended] at entered
  obtain ⟨isKnown, value, member⟩ := entered.taken id rfl
  refine ⟨isKnown, ?_, by simpa using entered.adds⟩
  rw [contains, find?_eq_some_iff.2 member]
  rfl

/-- What is found after an addition was known, or was added. -/
theorem Adds.map_eq_some_iff {β : Type} {reached : String → Prop}
    (adds : Adds known other result reached) (wrap : α → β) (name : String) (wrapped : β) :
    (result.find? name).map wrap = some wrapped ↔
      (known.find? name).map wrap = some wrapped ∨
        reached name ∧ (other.find? name).map wrap = some wrapped := by
  simp only [Option.map_eq_some_iff, adds.find?_iff]
  constructor
  · rintro ⟨value, isKnown | ⟨isReached, added⟩, isWrapped⟩
    · exact .inl ⟨value, isKnown, isWrapped⟩
    · exact .inr ⟨isReached, value, added, isWrapped⟩
  · rintro (⟨value, isKnown, isWrapped⟩ | ⟨isReached, value, added, isWrapped⟩)
    · exact ⟨value, .inl isKnown, isWrapped⟩
    · exact ⟨value, .inr ⟨isReached, added⟩, isWrapped⟩

end NameMap

/-- Rules come before matchers, and those of one kind are in the order of their ids. -/
def Reference.Before : Reference → Reference → Prop
  | .rule id, .rule other => id < other
  | .rule _, .matcher _ => True
  | .matcher _, .rule _ => False
  | .matcher id, .matcher other => id < other

/-- What the name of a collision refers to. -/
def Collision.reference : Collision → Reference
  | rule id => .rule id
  | matcher id => .matcher id

/-- Of two references one comes before the other, unless they are the same. -/
theorem Reference.before_or_eq_or_before (left right : Reference) :
    left.Before right ∨ left = right ∨ right.Before left := by
  have names : ∀ first second : String, first < second ∨ first = second ∨ second < first := by
    intro first second
    by_cases same : first = second
    · exact .inr (.inl same)
    · by_cases less : first < second
      · exact .inl less
      · exact .inr (.inr (NameMap.lt_of_not_lt_of_ne less same))
  cases left with
  | rule id =>
    cases right with
    | rule other => simpa [Before] using names id other
    | matcher other => exact .inl trivial
  | matcher id =>
    cases right with
    | rule other => exact .inr (.inr trivial)
    | matcher other => simpa [Before] using names id other

namespace PolicySet

variable {set other result : PolicySet} {sets : List PolicySet}

/-- The definition that a set has for a reference, of its own kind. -/
def definition? (set : PolicySet) : Reference → Option Clause
  | .rule id => (set.rules.find? id).map .rule
  | .matcher id => (set.matchers.find? id).map .matcher

/-- Both sets have a definition for a reference. -/
def Shares (set other : PolicySet) (reference : Reference) : Prop :=
  (set.definition? reference).isSome = true ∧ (other.definition? reference).isSome = true

/-- No name is defined in both sets. A rule and a matcher may have the same id. -/
def Apart (set other : PolicySet) : Prop := ∀ reference, ¬ set.Shares other reference

/-- The first reference for which both sets have a definition. -/
def FirstShared (set other : PolicySet) (reference : Reference) : Prop :=
  set.Shares other reference ∧
    ∀ earlier : Reference, earlier.Before reference → ¬ set.Shares other earlier

/-- Two sets share a rule exactly if both have one of that name. -/
theorem shares_rule_iff {id : String} :
    set.Shares other (.rule id) ↔
      set.rules.contains id = true ∧ other.rules.contains id = true := by
  simp [Shares, definition?, NameMap.contains]

/-- Two sets share a matcher exactly if both have one of that name. -/
theorem shares_matcher_iff {id : String} :
    set.Shares other (.matcher id) ↔
      set.matchers.contains id = true ∧ other.matchers.contains id = true := by
  simp [Shares, definition?, NameMap.contains]

/-- A set has the definitions of a known one, and besides those of another one that were reached. The
two share no name among these. -/
structure Gains (set other result : PolicySet) (reached : Reference → Prop) : Prop where
  fresh : ∀ reference, reached reference → ¬ set.Shares other reference
  definition?_iff : ∀ reference clause, result.definition? reference = some clause ↔
    set.definition? reference = some clause ∨
      reached reference ∧ other.definition? reference = some clause

/-- A set gains what its rules and its matchers gain. -/
theorem gains_of_adds {reached : Reference → Prop}
    (rules : NameMap.Adds set.rules other.rules result.rules fun id => reached (.rule id))
    (matchers :
      NameMap.Adds set.matchers other.matchers result.matchers fun id => reached (.matcher id)) :
    Gains set other result reached where
  fresh reference isReached shares := by
    cases reference with
    | rule id =>
      obtain ⟨isKnown, isAdded⟩ := shares_rule_iff.1 shares
      cases isAdded.symm.trans (rules.fresh id isReached isKnown)
    | matcher id =>
      obtain ⟨isKnown, isAdded⟩ := shares_matcher_iff.1 shares
      cases isAdded.symm.trans (matchers.fresh id isReached isKnown)
  definition?_iff reference clause := by
    cases reference with
    | rule id => exact rules.map_eq_some_iff .rule id clause
    | matcher id => exact matchers.map_eq_some_iff .matcher id clause

/-- All that a merge can come to: it stops at a name that both sets define, with the definitions that
come before it, or it adds all definitions and policies. -/
inductive Merging (set other : PolicySet) : PolicySet × Option Collision → Prop where
  | stopped {result : PolicySet} {collision : Collision}
      (shares : set.Shares other collision.reference)
      (gains : Gains set other result (·.Before collision.reference))
      (policies : result.policies = set.policies) : Merging set other (result, some collision)
  | completed {result : PolicySet} (gains : Gains set other result fun _ => True)
      (policies : result.policies = set.policies ++ other.policies) :
      Merging set other (result, none)

/-- Every merge comes to one of the two. -/
theorem merging (set other : PolicySet) : Merging set other (set.merge other) := by
  rw [merge]
  rcases rulesEnded : addNamed set.rules other.rules.toList with ⟨rules, _ | id⟩
  · have rulesAdded := NameMap.adds_of_addNamed_eq_none rulesEnded
    rcases matchersEnded : addNamed set.matchers other.matchers.toList with ⟨matchers, _ | id⟩
    · have matchersAdded := NameMap.adds_of_addNamed_eq_none matchersEnded
      exact .completed (gains_of_adds rulesAdded matchersAdded) rfl
    · obtain ⟨isKnown, isAdded, matchersAdded⟩ := NameMap.adds_of_addNamed_eq_some matchersEnded
      exact .stopped (shares_matcher_iff.2 ⟨isKnown, isAdded⟩)
        (gains_of_adds rulesAdded matchersAdded) rfl
  · obtain ⟨isKnown, isAdded, rulesAdded⟩ := NameMap.adds_of_addNamed_eq_some rulesEnded
    exact .stopped (shares_rule_iff.2 ⟨isKnown, isAdded⟩)
      (gains_of_adds rulesAdded (NameMap.adds_nothing _ _)) rfl

/-- A merge that stopped names the first reference for which both sets have a definition. -/
theorem merge_of_some {collision : Collision} (stopped : (set.merge other).2 = some collision) :
    set.FirstShared other collision.reference ∧
      Gains set other (set.merge other).1 (·.Before collision.reference) ∧
      (set.merge other).1.policies = set.policies := by
  have merging := set.merging other
  generalize set.merge other = ended at merging stopped ⊢
  cases merging with
  | stopped shares gains policies =>
    cases stopped
    exact ⟨⟨shares, gains.fresh⟩, gains, policies⟩
  | completed => cases stopped

/-- A merge without a collision adds all definitions and all policies. -/
theorem merge_of_none (succeeded : (set.merge other).2 = none) :
    Gains set other (set.merge other).1 (fun _ => True) ∧
      (set.merge other).1.policies = set.policies ++ other.policies := by
  have merging := set.merging other
  generalize set.merge other = ended at merging succeeded ⊢
  cases merging with
  | stopped => cases succeeded
  | completed gains policies => exact ⟨gains, policies⟩

/-- Two sets can be merged if they share no name. -/
theorem merge_eq_none_iff : (set.merge other).2 = none ↔ set.Apart other := by
  constructor
  · intro succeeded reference
    exact (merge_of_none succeeded).1.fresh reference trivial
  · intro apart
    cases ended : (set.merge other).2 with
    | none => rfl
    | some collision => exact absurd (merge_of_some ended).1.1 (apart collision.reference)

/-- Two sets have one first shared reference at most. -/
theorem FirstShared.unique {first second : Reference} (shared : set.FirstShared other first)
    (alsoShared : set.FirstShared other second) : first = second := by
  rcases first.before_or_eq_or_before second with before | same | before
  · exact absurd shared.1 (alsoShared.2 first before)
  · exact same
  · exact absurd alsoShared.1 (shared.2 second before)

/-- A merged set is apart from a third one exactly if both that went into it are. -/
theorem Gains.apart_iff {third : PolicySet} (gains : Gains set other result fun _ => True) :
    result.Apart third ↔ set.Apart third ∧ other.Apart third := by
  have shares_iff : ∀ reference, result.Shares third reference ↔
      set.Shares third reference ∨ other.Shares third reference := by
    intro reference
    simp only [Shares, Option.isSome_iff_exists, gains.definition?_iff, true_and, exists_or,
      or_and_right]
  simp only [Apart, shares_iff, not_or, forall_and]

/-- After a merge without a collision the others are merged into its result. -/
theorem mergeAll_cons_of_none {rest : List PolicySet} (succeeded : (set.merge other).2 = none) :
    set.mergeAll (other :: rest) = (set.merge other).1.mergeAll rest := by
  rw [mergeAll]
  generalize set.merge other = ended at succeeded
  obtain ⟨result, stop⟩ := ended
  cases succeeded
  rfl

/-- The first collision stops the merging. -/
theorem mergeAll_cons_of_some {rest : List PolicySet} {collision : Collision}
    (stopped : (set.merge other).2 = some collision) :
    set.mergeAll (other :: rest) = set.merge other := by
  rw [mergeAll]
  generalize set.merge other = ended at stopped
  obtain ⟨result, stop⟩ := ended
  cases stopped
  rfl

/-- Several sets can be merged into a set if no two of them all share a name. -/
theorem mergeAll_eq_none_iff : (set.mergeAll sets).2 = none ↔ (set :: sets).Pairwise Apart := by
  -- What comes later has to be apart from the set and from all that it has gained.
  induction sets generalizing set with
  | nil => simp [mergeAll]
  | cons head rest ih =>
    cases ended : (set.merge head).2 with
    | none =>
      have apart := merge_eq_none_iff.1 ended
      rw [mergeAll_cons_of_none ended, ih]
      simp only [List.pairwise_cons, List.forall_mem_cons, (merge_of_none ended).1.apart_iff,
        forall_and, apart, true_and, and_assoc]
    | some collision =>
      have shared : ¬ set.Apart head := fun apart =>
        apart collision.reference (merge_of_some ended).1.1
      rw [mergeAll_cons_of_some ended, ended]
      simp [shared]

/-- A set has exactly the definitions of several sets, and their policies one after the other. -/
structure IsUnion (result : PolicySet) (sets : List PolicySet) : Prop where
  definition?_iff : ∀ reference clause, result.definition? reference = some clause ↔
    ∃ set ∈ sets, set.definition? reference = some clause
  policies : result.policies = sets.flatMap (·.policies)

/-- Sets that merge without a collision come to their union. -/
theorem mergeAll_isUnion (succeeded : (set.mergeAll sets).2 = none) :
    (set.mergeAll sets).1.IsUnion (set :: sets) := by
  induction sets generalizing set with
  | nil => exact ⟨by simp [mergeAll], by simp [mergeAll]⟩
  | cons head rest ih =>
    cases ended : (set.merge head).2 with
    | none =>
      rw [mergeAll_cons_of_none ended] at succeeded ⊢
      obtain ⟨gains, joined⟩ := merge_of_none ended
      obtain ⟨definition?_iff, policies⟩ := ih succeeded
      refine ⟨fun reference clause => ?_, ?_⟩
      · simp only [definition?_iff, List.exists_mem_cons_iff, gains.definition?_iff, true_and,
          or_assoc]
      · simp [policies, joined]
    | some collision =>
      rw [mergeAll_cons_of_some ended, ended] at succeeded
      cases succeeded

/-- The empty set defines nothing. -/
theorem definition?_empty (reference : Reference) : empty.definition? reference = none := by
  cases reference <;> rfl

/-- The empty set is apart from every set. -/
theorem apart_empty (set : PolicySet) : empty.Apart set := by
  rintro reference ⟨defined, _⟩
  rw [definition?_empty] at defined
  cases defined

/-- The empty set adds nothing to a union. -/
theorem IsUnion.of_empty_cons (union : result.IsUnion (empty :: sets)) : result.IsUnion sets where
  definition?_iff reference clause := by
    rw [union.definition?_iff, List.exists_mem_cons_iff, definition?_empty]
    simp
  policies := union.policies

/-- Sets that define the same have the same named rules and the same named matchers. -/
theorem eq_of_definition?_eq
    (same : ∀ reference, set.definition? reference = other.definition? reference) :
    set.rules = other.rules ∧ set.matchers = other.matchers := by
  constructor
  · refine NameMap.ext_find? fun id => Option.map_injective ?_ (same (.rule id))
    exact fun _ _ => Clause.rule.inj
  · refine NameMap.ext_find? fun id => Option.map_injective ?_ (same (.matcher id))
    exact fun _ _ => Clause.matcher.inj

/-- Unions of the same sets define the same, whatever the order. -/
theorem IsUnion.definition?_eq {others : List PolicySet} (union : set.IsUnion sets)
    (otherUnion : other.IsUnion others) (rearranged : others.Perm sets) (reference : Reference) :
    set.definition? reference = other.definition? reference := by
  ext clause
  simp only [union.definition?_iff, otherUnion.definition?_iff, rearranged.mem_iff]

/-- To be apart is mutual. -/
theorem Apart.symm (apart : set.Apart other) : other.Apart set :=
  fun reference shares => apart reference ⟨shares.2, shares.1⟩

/-- Merging puts disjoint sets together and never overwrites a definition. Sets can all be merged into
an empty one exactly if no two of them define the same name. The result has the named rules and the
named matchers of all, in whatever order they are merged, and the policies in the order of the sets. A
merge that fails names the first name that is taken, rules before matchers, each in the order of their
ids. It has changed no definition, has added exactly those before that name, and no policy. -/
theorem mergeAll_succeeds_iff_apart :
    (∀ sets : List PolicySet,
      ((empty.mergeAll sets).2 = none ↔ sets.Pairwise Apart) ∧
      ((empty.mergeAll sets).2 = none →
        (empty.mergeAll sets).1.IsUnion sets ∧
        ∀ others : List PolicySet, others.Perm sets →
          (empty.mergeAll others).2 = none ∧
          (empty.mergeAll others).1.rules = (empty.mergeAll sets).1.rules ∧
          (empty.mergeAll others).1.matchers = (empty.mergeAll sets).1.matchers)) ∧
    ∀ (set other : PolicySet) (collision : Collision), (set.merge other).2 = some collision →
      set.FirstShared other collision.reference ∧
      set.Gains other (set.merge other).1 (·.Before collision.reference) ∧
      (set.merge other).1.policies = set.policies := by
  have succeeds_iff : ∀ sets : List PolicySet,
      (empty.mergeAll sets).2 = none ↔ sets.Pairwise Apart := by
    intro sets
    rw [mergeAll_eq_none_iff, List.pairwise_cons]
    exact and_iff_right fun set _ => apart_empty set
  refine ⟨fun sets => ⟨succeeds_iff sets, fun succeeded => ?_⟩, fun _ _ _ => merge_of_some⟩
  have union := (mergeAll_isUnion succeeded).of_empty_cons
  refine ⟨union, fun others rearranged => ?_⟩
  have othersSucceeded : (empty.mergeAll others).2 = none := by
    rw [succeeds_iff] at succeeded ⊢
    exact (rearranged.pairwise_iff Apart.symm).2 succeeded
  have otherUnion := (mergeAll_isUnion othersSucceeded).of_empty_cons
  exact ⟨othersSucceeded, eq_of_definition?_eq (otherUnion.definition?_eq union rearranged.symm)⟩

/-- Defines a rule, with a policy that has it as its requirement. -/
def staffRule : PolicySet :=
  { empty with
    rules := NameMap.ofList [("staff", .entityGroup "staff" .requester)]
    policies := [⟨"staff", none, .reference "staff", []⟩] }

/-- Defines matchers, one of which has the id of that rule. -/
def staffMatchers : PolicySet :=
  { empty with matchers := NameMap.ofList [("all", .any), ("staff", .value (.text "staff" false))] }

/-- Defines two rules and, again, one of these matchers. -/
def guests : PolicySet :=
  { empty with
    rules := NameMap.ofList [("guest", .none), ("visitor", .none)]
    matchers := NameMap.ofList [("guest", .any), ("staff", .any), ("visitor", .any)]
    policies := [⟨"guests", none, .reference "guest", []⟩] }

/-- Two of the sets merge in either order, and the other two collide at a matcher that both
define. -/
theorem staffMatchers_merged :
    (empty.mergeAll [staffRule, staffMatchers]).1.IsUnion [staffRule, staffMatchers] ∧
      (empty.mergeAll [staffMatchers, staffRule]).2 = none ∧
      (staffMatchers.merge guests).2 = some (.matcher "staff") ∧
      staffMatchers.FirstShared guests (.matcher "staff") ∧
      staffMatchers.Gains guests (staffMatchers.merge guests).1 (·.Before (.matcher "staff")) ∧
      (staffMatchers.merge guests).1.policies = [] := by
  obtain ⟨succeeds, stops⟩ := mergeAll_succeeds_iff_apart
  have merged : (empty.mergeAll [staffRule, staffMatchers]).2 = none := by decide
  have stopped : (staffMatchers.merge guests).2 = some (.matcher "staff") := by decide
  obtain ⟨union, anyOrder⟩ := (succeeds [staffRule, staffMatchers]).2 merged
  obtain ⟨swapped, _⟩ := anyOrder [staffMatchers, staffRule] (.swap _ _ [])
  exact ⟨union, swapped, stopped, stops _ _ _ stopped⟩

end PolicySet

end AttributeRelease
