import AttributeRelease.Proofs.Compile.Clause

/-!
# References of a configuration

Named rules and matchers form one graph. `References.get_within_eq_ok_iff` says when a reference can
be had: it names a definition, which is not open and compiles while it is open. A clause that
compiles therefore never leads to a reference that is open, which is how cycles are found.
-/

namespace AttributeRelease

open Relation

/-- The name that a reference gives. -/
def Reference.id : Reference → String
  | rule id => id
  | matcher id => id

namespace Config

variable {config : Config}

/-- The definition that a reference names, of its own kind. -/
def definition? (config : Config) : Reference → Option Clause
  | .rule id => (config.definitions.rules.find? id).map .rule
  | .matcher id => (config.definitions.matchers.find? id).map .matcher

/-- All references that name a definition. -/
def references (config : Config) : List Reference :=
  config.definitions.rules.names.map .rule ++ config.definitions.matchers.names.map .matcher

/-- A reference that names a definition is among those of the configuration. -/
theorem mem_references_of_definition {reference : Reference} {clause : Clause}
    (found : config.definition? reference = some clause) : reference ∈ config.references := by
  cases reference with
  | rule id =>
    obtain ⟨spec, listed, _⟩ := Option.map_eq_some_iff.1 found
    have member := NameMap.find?_eq_some_iff.1 listed
    exact List.mem_append_left _ (List.mem_map_of_mem (List.mem_map_of_mem member))
  | matcher id =>
    obtain ⟨spec, listed, _⟩ := Option.map_eq_some_iff.1 found
    have member := NameMap.find?_eq_some_iff.1 listed
    exact List.mem_append_right _ (List.mem_map_of_mem (List.mem_map_of_mem member))

/-- There are as many references as there are named rules and matchers. -/
theorem length_references :
    config.references.length =
      config.definitions.rules.size + config.definitions.matchers.size := by
  simp [references, NameMap.names, NameMap.size]

/-- The definition of one reference mentions another reference. -/
def Refers (config : Config) (source target : Reference) : Prop :=
  ∃ clause, config.definition? source = some clause ∧ clause.Mentions target

/-- A clause leads to a reference: it mentions it, or it mentions one whose definition leads
there. -/
def LeadsTo (config : Config) (clause : Clause) (target : Reference) : Prop :=
  ∃ first, clause.Mentions first ∧ ReflTransGen config.Refers first target

/-- The definition of a reference leads to whatever can be reached from that reference. -/
theorem leadsTo_of_transGen {source target : Reference} {clause : Clause}
    (found : config.definition? source = some clause)
    (path : TransGen config.Refers source target) : config.LeadsTo clause target := by
  obtain ⟨first, ⟨other, foundOther, mentions⟩, rest⟩ := TransGen.head'_iff.1 path
  cases found.symm.trans foundOther
  exact ⟨first, mentions, rest⟩

end Config

namespace References

variable {config : Config} {host : ScriptHost} {openOnes : List Reference}

/-- When no more references may be opened, all that are defined count as open. -/
theorem get_within_zero {target : Reference} :
    (within config host 0 openOnes).get target =
      match config.definition? target with
      | none => .error (.unknownReference target.id)
      | some _ => .error (.cycle target.id) := by
  cases target with
  | rule id =>
    cases found : config.definitions.rules.find? id <;>
      simp [get, within, Config.definition?, NameMap.contains, found, Except.map, Reference.id]
  | matcher id =>
    cases found : config.definitions.matchers.find? id <;>
      simp [get, within, Config.definition?, NameMap.contains, found, Except.map, Reference.id]

/-- With no definition left to open, no reference can be had. -/
theorem get_within_zero_ne_ok {target : Reference} {compiled : Rule ⊕ Matcher} :
    (within config host 0 openOnes).get target ≠ .ok compiled := by
  rw [get_within_zero]
  split <;> nofun

/-- What a reference stands for while others can be opened. -/
theorem get_within_succ {left : Nat} {target : Reference} :
    (within config host (left + 1) openOnes).get target =
      match config.definition? target with
      | none => .error (.unknownReference target.id)
      | some clause =>
        if target ∈ openOnes then .error (.cycle target.id)
        else
          clause.compile host config.engine.maxScriptLength
            (within config host left (target :: openOnes)) := by
  cases target with
  | rule id =>
    simp only [get, within, Config.definition?]
    cases config.definitions.rules.find? id with
    | none => rfl
    | some spec =>
      simp only [Option.map_some]
      split <;> rfl
  | matcher id =>
    simp only [get, within, Config.definition?]
    cases config.definitions.matchers.find? id with
    | none => rfl
    | some spec =>
      simp only [Option.map_some]
      split <;> rfl

/-- A reference can be had exactly if it names a definition that is not open and that compiles while
it is. -/
theorem get_within_eq_ok_iff {left : Nat} {target : Reference} {compiled : Rule ⊕ Matcher} :
    (within config host left openOnes).get target = .ok compiled ↔
      ∃ clause fewer, config.definition? target = some clause ∧ target ∉ openOnes ∧
        left = fewer + 1 ∧
        clause.compile host config.engine.maxScriptLength
          (within config host fewer (target :: openOnes)) = .ok compiled := by
  cases left with
  | zero => simp [get_within_zero_ne_ok]
  | succ left =>
    rw [get_within_succ]
    cases config.definition? target with
    | none => simp
    | some clause =>
      by_cases isOpen : target ∈ openOnes
      · simp [isOpen]
      · simp [isOpen]

/-- A clause compiles exactly if all clauses within it are sound and what it mentions is defined, not
open, and compiles while it is open. -/
theorem compiles_within_iff {left : Nat} {clause : Clause} :
    clause.Compiles host config.engine.maxScriptLength (within config host left openOnes) ↔
      (∀ inner : Clause, inner.Within clause → inner.Sound host config.engine.maxScriptLength) ∧
        ∀ target, clause.Mentions target →
          ∃ definition fewer, config.definition? target = some definition ∧ target ∉ openOnes ∧
            left = fewer + 1 ∧
            definition.Compiles host config.engine.maxScriptLength
              (within config host fewer (target :: openOnes)) := by
  rw [Clause.compiles_iff_forall_within]
  refine and_congr_right fun _ => forall_congr' fun target => imp_congr_right fun _ => ?_
  simp only [get_within_eq_ok_iff, Clause.Compiles]
  constructor
  · rintro ⟨compiled, definition, fewer, found, closed, more, compiles⟩
    exact ⟨definition, fewer, found, closed, more, compiled, compiles⟩
  · rintro ⟨definition, fewer, found, closed, more, compiled, compiles⟩
    exact ⟨compiled, definition, fewer, found, closed, more, compiles⟩

/-- A clause that compiles leads to none of the references that are open. -/
theorem not_mem_of_leadsTo {left : Nat} {clause : Clause}
    (compiles : clause.Compiles host config.engine.maxScriptLength
      (within config host left openOnes))
    {target : Reference} (leads : config.LeadsTo clause target) : target ∉ openOnes := by
  induction left using Nat.strongRecOn generalizing openOnes clause with
  | ind left ih =>
    obtain ⟨first, mentions, path⟩ := leads
    obtain ⟨definition, fewer, found, closed, rfl, deeper⟩ :=
      (compiles_within_iff.1 compiles).2 first mentions
    rcases ReflTransGen.cases_head path with rfl | ⟨second, ⟨other, foundOther, next⟩, rest⟩
    · exact closed
    · cases found.symm.trans foundOther
      have notMember := ih fewer (Nat.lt_succ_self fewer) deeper ⟨second, next, rest⟩
      exact fun member => notMember (List.mem_cons_of_mem _ member)

end References

end AttributeRelease
