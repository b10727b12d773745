import AttributeRelease.Proofs.Compile.Inlining

/-!
# How clauses fail

A clause that is no reference fails as its parts do, in their order, and then by a check of its own,
which needs to know neither what references stand for nor what the parts compile to.
`Clause.exists_checks` says so for every kind of clause, and everything else follows from it. Whether
and how a clause fails depends on which of its references can be had, and not on what they stand for
(`Clause.compile_failsAlike`). And a failure can be traced to a clause whose parts compile
(`Clause.exists_innermost`).
-/

namespace AttributeRelease

open Outcome

namespace Compile

theorem ok_ne_cycle {id : String} : (.ok () : Except Fault Unit) ≠ .error (.cycle id) := nofun

/-- The check for a blank text fails over a blank one, with the fault that it is given. -/
theorem nonBlank_eq_error_iff {text : String} {fault other : Fault} :
    nonBlank text fault = .error other ↔ Text.isBlank text = true ∧ fault = other := by
  unfold nonBlank
  exact ite_error_eq_error_iff

/-- The check for a blank text does not fail over a cycle. -/
theorem nonBlank_ne_cycle {text id : String} {fault : Fault} (isOther : fault ≠ .cycle id) :
    nonBlank text fault ≠ .error (.cycle id) :=
  fun failed => isOther (nonBlank_eq_error_iff.1 failed).2

/-- A comparison does not fail over a cycle. -/
theorem test_ne_cycle {comparison : TextTest} {id : String} :
    test comparison ≠ .error (.cycle id) := by
  cases comparison <;> simp [test, mapError_eq_error_iff]

/-- A script does not fail over a cycle. -/
theorem script_ne_cycle {host : ScriptHost} {limit : UInt64} {source id : String} :
    script host limit source ≠ .error (.cycle id) := by
  unfold script
  split
  · simp
  · split
    · simp
    · simp [mapError_eq_error_iff]

/-- A value count does not fail over a cycle. -/
theorem valueCount_ne_cycle {attributeId id : String} {least most : Option UInt64} :
    valueCount attributeId least most ≠ .error (.cycle id) := by
  simp only [valueCount, ne_eq, bind_eq_error_iff, not_or]
  refine ⟨nonBlank_ne_cycle (by simp), ?_⟩
  rintro ⟨_, _, failed⟩
  split at failed
  · cases failed
  · split at failed <;> cases failed
  · cases failed

/-- A rule about the values of an attribute does not itself fail over a cycle. -/
theorem attributeValues_ne_cycle {attributeId id : String} {matcher : Matcher} :
    attributeValues attributeId matcher ≠ .error (.cycle id) := by
  simp [attributeValues, bind_eq_error_iff, nonBlank_ne_cycle]

/-- A check for an entity attribute does not fail over a cycle. -/
theorem entityAttribute_ne_cycle {name id : String} {format : Option String} {test : StringMatch}
    {party : Party} : entityAttribute name format test party ≠ .error (.cycle id) := by
  simp [entityAttribute, bind_eq_error_iff, nonBlank_ne_cycle]

/-- A check for registration authorities does not fail over a cycle. -/
theorem registrationAuthority_ne_cycle {authorities : List String} {ifSilent : Bool} {id : String} :
    registrationAuthority authorities ifSilent ≠ .error (.cycle id) := by
  unfold registrationAuthority
  simp [ite_error_eq_error_iff]

end Compile

open Compile

namespace Clause

variable {host : ScriptHost} {limit : UInt64} {references : References} {clause : Clause}

section References

/-- The clause that is nothing but a reference. -/
def ofReference : Reference → Clause
  | .rule id => rule (.reference id)
  | .matcher id => matcher (.reference id)

/-- A clause with a target is nothing but a reference to it. -/
theorem target?_eq_some_iff {target : Reference} :
    clause.target? = some target ↔ clause = ofReference target := by
  constructor
  · intro refers
    unfold target? at refers
    split at refers <;> cases refers <;> rfl
  · rintro rfl
    cases target <;> rfl

/-- A reference has no parts. -/
theorem parts_ofReference (target : Reference) : (ofReference target).parts = [] := by
  cases target <;> rfl

/-- A reference is sound, whatever it refers to. -/
theorem sound_ofReference (target : Reference) : (ofReference target).Sound host limit := by
  cases target <;> trivial

/-- A reference compiles to what it stands for. -/
theorem compile_ofReference (target : Reference) (references : References) :
    (ofReference target).compile host limit references = references.get target := by
  cases target with
  | rule id => simp only [ofReference, compile, compileRule, References.get]
  | matcher id => simp only [ofReference, compile, compileMatcher, References.get]

end References

section Checks

/-- Compiling a clause fails as its parts do, one after the other, and then as a check does to which
references do not matter. The check does not look for cycles. -/
structure Checks (host : ScriptHost) (limit : UInt64) (clause : Clause) (check : Except Fault Unit) :
    Prop where
  not_cycle : ∀ id, check ≠ .error (.cycle id)
  compile_alike : ∀ references, FailsAlike (clause.compile host limit references)
    (clause.parts.mapM (fun part => part.compile host limit references) >>= fun _ => check)

/-- A list of rules fails as its rules do, one after the other. -/
theorem compileRules_failsAlike {rules : List RuleSpec} :
    FailsAlike (compileRules host limit references rules)
      ((rules.map rule).mapM fun part => part.compile host limit references) := by
  induction rules with
  | nil =>
    rw [compileRules]
    exact .succeeded [] []
  | cons spec rest ih =>
    rw [compileRules, List.map_cons, List.mapM_cons]
    exact (FailsAlike.map _ _).symm.bind fun _ _ => ih.bind fun _ _ => .succeeded _ _

/-- A list of matchers fails as its matchers do, one after the other. -/
theorem compileMatchers_failsAlike {matchers : List MatcherSpec} :
    FailsAlike (compileMatchers host limit references matchers)
      ((matchers.map matcher).mapM fun part => part.compile host limit references) := by
  induction matchers with
  | nil =>
    rw [compileMatchers]
    exact .succeeded [] []
  | cons spec rest ih =>
    rw [compileMatchers, List.map_cons, List.mapM_cons]
    exact (FailsAlike.map _ _).symm.bind fun _ _ => ih.bind fun _ _ => .succeeded _ _

/-- A clause without parts is its own check if references do not matter to it and it finds no
cycle. -/
theorem exists_checks_of_leaf (noParts : clause.parts = [])
    (same : ∀ left right, clause.compile host limit left = clause.compile host limit right)
    (notCycle : ∀ references id, clause.compile host limit references ≠ .error (.cycle id)) :
    ∃ check, clause.Checks host limit check := by
  let references : References := ⟨fun _ => .ok .any, fun _ => .ok .any⟩
  refine ⟨(clause.compile host limit references).map fun _ => (), fun id failed => ?_,
    fun others => ?_⟩
  · exact notCycle references id (map_eq_error_iff.1 failed)
  · rw [noParts, same others references]
    exact (FailsAlike.map _ _).symm

/-- What compiles a part and then goes on fails as the part does, and then as it goes on. -/
theorem bind_failsAlike_part {α β : Type} {part : Clause} {first : Except Fault α}
    {next : α → Except Fault β} {check : Except Fault Unit}
    (alike : FailsAlike first (part.compile host limit references))
    (nextAlike : ∀ value, FailsAlike (next value) check) :
    FailsAlike (first >>= next)
      ([part].mapM (fun part => part.compile host limit references) >>= fun _ => check) := by
  rw [List.mapM_cons, bind_assoc]
  exact alike.bind fun value _ => nextAlike value

/-- Whatever is no reference has a check of its own. -/
theorem exists_checks (host : ScriptHost) (limit : UInt64) (notReference : clause.target? = none) :
    ∃ check, clause.Checks host limit check := by
  cases clause with
  | rule spec =>
    cases spec
    case reference id => cases notReference
    case and rules | or rules =>
      cases rules with
      | nil =>
        refine exists_checks_of_leaf rfl (fun _ _ => by simp only [compile, compileRule])
          fun _ _ => ?_
        simp [compile, compileRule, map_eq_error_iff]
      | cons first rest =>
        refine ⟨.ok (), fun _ => ok_ne_cycle, fun references => (FailsAlike.map _ _).trans ?_⟩
        refine .trans ?_ (FailsAlike.bind_ok _ _).symm
        change FailsAlike _ ((rule first :: rest.map rule).mapM _)
        rw [compileRule, List.mapM_cons]
        exact (FailsAlike.map _ _).symm.bind fun _ _ =>
          compileRules_failsAlike.bind fun _ _ => .succeeded _ _
    case not part =>
      refine ⟨.ok (), fun _ => ok_ne_cycle, fun references => (FailsAlike.map _ _).trans ?_⟩
      rw [compileRule]
      exact bind_failsAlike_part (FailsAlike.map _ _).symm fun _ => .succeeded _ _
    case attributeMatcher id part =>
      refine ⟨nonBlank id .emptyAttributeId, fun _ => nonBlank_ne_cycle (by simp),
        fun references => (FailsAlike.map _ _).trans ?_⟩
      rw [compileRule]
      exact bind_failsAlike_part (FailsAlike.map _ _).symm fun _ => .bind_ok _ _
    all_goals
      refine exists_checks_of_leaf rfl (fun _ _ => by simp only [compile, compileRule]) fun _ _ => ?_
      simp [compile, compileRule, map_eq_error_iff, bind_eq_error_iff, nonBlank_ne_cycle,
        test_ne_cycle, script_ne_cycle, valueCount_ne_cycle, attributeValues_ne_cycle,
        entityAttribute_ne_cycle, registrationAuthority_ne_cycle]
  | matcher spec =>
    cases spec
    case reference id => cases notReference
    case and matchers | or matchers =>
      refine ⟨.ok (), fun _ => ok_ne_cycle, fun references => (FailsAlike.map _ _).trans ?_⟩
      rw [compileMatcher]
      exact compileMatchers_failsAlike.bind fun _ _ => .succeeded _ _
    case not part | rule part =>
      refine ⟨.ok (), fun _ => ok_ne_cycle, fun references => (FailsAlike.map _ _).trans ?_⟩
      rw [compileMatcher]
      exact bind_failsAlike_part (FailsAlike.map _ _).symm fun _ => .succeeded _ _
    all_goals
      refine exists_checks_of_leaf rfl (fun _ _ => by simp only [compile, compileMatcher])
        fun _ _ => ?_
      simp [compile, compileMatcher, map_eq_error_iff, bind_eq_error_iff, test_ne_cycle,
        script_ne_cycle]

end Checks

/-- What references stand for does not matter to the failure of a clause, as long as those that it
mentions fail alike themselves. -/
theorem compile_failsAlike {left right : References}
    (alike : ∀ target, clause.Mentions target → FailsAlike (left.get target) (right.get target)) :
    FailsAlike (clause.compile host limit left) (clause.compile host limit right) := by
  induction clause using Clause.induction with
  | step clause ih =>
    cases refers : clause.target? with
    | some target =>
      obtain rfl := target?_eq_some_iff.1 refers
      rw [compile_ofReference, compile_ofReference]
      exact alike target ⟨_, .self, refers⟩
    | none =>
      obtain ⟨check, checks⟩ := exists_checks host limit refers
      have partsAlike : FailsAlike (clause.parts.mapM fun part => part.compile host limit left)
          (clause.parts.mapM fun part => part.compile host limit right) :=
        .mapM fun part member =>
          ih part member fun target mentions => alike target (mentions.of_part member)
      exact (checks.compile_alike left).trans
        ((partsAlike.bind fun _ _ => .refl check).trans (checks.compile_alike right).symm)

/-- If no part of a clause fails as the clause does, then none fails at all: the first one that did
would have ended the compilation. -/
theorem parts_compile_of_error {fault : Fault}
    (failed : clause.compile host limit references = .error fault)
    (notParts : ¬ ∃ part ∈ clause.parts, part.compile host limit references = .error fault) :
    ∀ part ∈ clause.parts, part.Compiles host limit references := by
  cases refers : clause.target? with
  | some target =>
    obtain rfl := target?_eq_some_iff.1 refers
    simp [parts_ofReference]
  | none =>
    obtain ⟨check, checks⟩ := exists_checks host limit refers
    have alike := (checks.compile_alike references).eq_error_iff fault
    rcases bind_eq_error_iff.1 (alike.1 failed) with partsFailed | ⟨compiled, partsCompile, _⟩
    · exact absurd (exists_error_of_mapM_eq_error partsFailed) notParts
    · exact exists_mapM_eq_ok_iff.1 ⟨compiled, partsCompile⟩

/-- A clause that fails has a clause within it that fails in the same way although its parts compile.
-/
theorem exists_innermost {fault : Fault}
    (failed : clause.compile host limit references = .error fault) :
    ∃ inner : Clause, inner.Within clause ∧ inner.compile host limit references = .error fault ∧
      ∀ part ∈ inner.parts, part.Compiles host limit references := by
  induction clause using Clause.induction with
  | step clause ih =>
    by_cases partFails : ∃ part ∈ clause.parts, part.compile host limit references = .error fault
    · obtain ⟨part, member, partFailed⟩ := partFails
      obtain ⟨inner, within, innerFailed⟩ := ih part member partFailed
      exact ⟨inner, .part member within, innerFailed⟩
    · exact ⟨clause, .self, failed, parts_compile_of_error failed partFails⟩

/-- A clause whose parts compile meets a cycle only if it is a reference. -/
theorem ne_cycle_of_parts_compile {id : String} (notReference : clause.target? = none)
    (partsCompile : ∀ part ∈ clause.parts, part.Compiles host limit references) :
    clause.compile host limit references ≠ .error (.cycle id) := by
  intro failed
  obtain ⟨check, checks⟩ := exists_checks host limit notReference
  have alike := (checks.compile_alike references).eq_error_iff (.cycle id)
  rcases bind_eq_error_iff.1 (alike.1 failed) with partsFailed | ⟨_, _, checkFailed⟩
  · obtain ⟨part, member, partFailed⟩ := exists_error_of_mapM_eq_error partsFailed
    obtain ⟨compiled, compiles⟩ := partsCompile part member
    cases compiles.symm.trans partFailed
  · exact checks.not_cycle id checkFailed

end Clause

end AttributeRelease
