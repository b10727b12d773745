import AttributeRelease.Proofs.Compile.Inlining
import Mathlib.Data.Finset.Card
import Mathlib.Data.Prod.Lex

/-!
# Compiling ends

Compiling a reference goes on with its definition, which may be larger than what was compiled before
and may refer back. What keeps this finite are the open references. A call either goes on with a part
of its clause, or opens a reference that was closed, and there are only so many: the number of closed
references and then the size of the clause decrease from call to call (`Config.rank`).

`References.within` counts down how many references can still be opened.
`References.get_within_of_le` says that the count does not matter as long as it is no less than the
number of closed references, so what references stand for satisfies the recursion without it.
-/

namespace AttributeRelease

open Relation

/-- A call of the compiler: the clause that it compiles, and the references that are open. -/
structure Call where
  openOnes : List Reference
  clause : Clause

namespace Config

/-- The calls that compiling a configuration starts with: a named definition while it is open itself,
and what is written in policies while nothing is. -/
inductive Starts (config : Config) : Call → Prop where
  | definition {reference clause} (found : config.definition? reference = some clause) :
      Starts config ⟨[reference], clause⟩
  | policy {policy clause} (listed : policy ∈ config.definitions.policies)
      (member : clause ∈ policy.clauses) : Starts config ⟨[], clause⟩

/-- A call makes another one: for a part of its clause, or for the definition that its clause refers
to, which is opened. -/
inductive Calls (config : Config) : Call → Call → Prop where
  | part {openOnes clause part} (member : part ∈ clause.parts) :
      Calls config ⟨openOnes, clause⟩ ⟨openOnes, part⟩
  | opening {openOnes clause target definition} (refers : clause.target? = some target)
      (found : config.definition? target = some definition) (closed : target ∉ openOnes) :
      Calls config ⟨openOnes, clause⟩ ⟨target :: openOnes, definition⟩

/-- A call is made when the configuration is compiled. -/
def Reaches (config : Config) (call : Call) : Prop :=
  ∃ start, config.Starts start ∧ ReflTransGen config.Calls start call

/-- How many references of a configuration are not open. -/
def closedCount (config : Config) (openOnes : List Reference) : Nat :=
  (config.references.toFinset \ openOnes.toFinset).card

/-- The closed references, and then the size of the clause. -/
noncomputable def rank (config : Config) (call : Call) : Nat ×ₗ Nat :=
  toLex (config.closedCount call.openOnes, sizeOf call.clause)

variable {config : Config}

/-- No more references are closed than there are. -/
theorem closedCount_le (openOnes : List Reference) :
    config.closedCount openOnes ≤ config.references.length :=
  (Finset.card_le_card Finset.sdiff_subset).trans (List.toFinset_card_le _)

/-- One reference less is closed after it was opened. -/
theorem closedCount_cons_lt {openOnes : List Reference} {target : Reference} {definition : Clause}
    (found : config.definition? target = some definition) (closed : target ∉ openOnes) :
    config.closedCount (target :: openOnes) < config.closedCount openOnes := by
  have member : target ∈ config.references.toFinset \ openOnes.toFinset := by
    rw [Finset.mem_sdiff, List.mem_toFinset, List.mem_toFinset]
    exact ⟨mem_references_of_definition found, closed⟩
  rw [closedCount, closedCount, List.toFinset_cons, Finset.sdiff_insert]
  exact Finset.card_erase_lt_of_mem member

/-- Every call makes calls of lower rank only. -/
theorem Calls.rank_lt {call next : Call} (calls : config.Calls call next) :
    config.rank next < config.rank call := by
  rw [rank, rank, Prod.Lex.toLex_lt_toLex]
  cases calls with
  | part member => exact .inr ⟨rfl, Clause.sizeOf_lt_of_mem_parts member⟩
  | opening refers found closed => exact .inl (closedCount_cons_lt found closed)

/-- Calls do not go on for ever. -/
theorem calls_wellFounded (config : Config) :
    WellFounded fun next call => config.Calls call next :=
  Subrelation.wf Calls.rank_lt (InvImage.wf config.rank wellFounded_lt)

/-- The references that are open differ from each other and are defined. -/
structure InOrder (config : Config) (call : Call) : Prop where
  distinct : call.openOnes.Nodup
  known : ∀ reference ∈ call.openOnes, (config.definition? reference).isSome = true

/-- In a call that compiling starts with, what is open is in order. -/
theorem Starts.inOrder {call : Call} (starts : config.Starts call) : config.InOrder call := by
  cases starts with
  | definition found =>
    refine ⟨List.nodup_singleton _, fun reference isOpen => ?_⟩
    cases List.mem_singleton.1 isOpen
    exact Option.isSome_iff_exists.2 ⟨_, found⟩
  | policy listed member => exact ⟨List.nodup_nil, nofun⟩

/-- A call keeps what is open in order for the calls that it makes. -/
theorem Calls.inOrder {call next : Call} (calls : config.Calls call next)
    (inOrder : config.InOrder call) : config.InOrder next := by
  cases calls with
  | part member => exact ⟨inOrder.distinct, inOrder.known⟩
  | opening refers found closed =>
    refine ⟨List.nodup_cons.2 ⟨closed, inOrder.distinct⟩, List.forall_mem_cons.2 ⟨?_, inOrder.known⟩⟩
    exact Option.isSome_iff_exists.2 ⟨_, found⟩

/-- In every call that is made, what is open is in order. -/
theorem Reaches.inOrder {call : Call} (reaches : config.Reaches call) : config.InOrder call := by
  obtain ⟨start, starts, path⟩ := reaches
  induction path with
  | refl => exact starts.inOrder
  | tail _ calls ih => exact calls.inOrder ih

/-- There are no more references open than there are definitions. -/
theorem InOrder.length_le {call : Call} (inOrder : config.InOrder call) :
    call.openOnes.length ≤
      config.definitions.rules.size + config.definitions.matchers.size := by
  rw [← length_references]
  refine inOrder.distinct.length_le_of_subset fun reference isOpen => ?_
  obtain ⟨clause, found⟩ := Option.isSome_iff_exists.1 (inOrder.known reference isOpen)
  exact mem_references_of_definition found

/-- What a reference stands for while some are open, if its definition compiles to an outcome once it
is opened. -/
def expand (config : Config) (openOnes : List Reference) (target : Reference)
    (outcome : Clause → Except Fault (Rule ⊕ Matcher)) : Except Fault (Rule ⊕ Matcher) :=
  match config.definition? target with
  | none => .error (.unknownReference target.id)
  | some definition =>
    if target ∈ openOnes then .error (.cycle target.id) else outcome definition

/-- What a reference stands for depends on the outcome for its definition only, and only while it is
closed. -/
theorem expand_congr {openOnes : List Reference} {target : Reference}
    {left right : Clause → Except Fault (Rule ⊕ Matcher)}
    (same : ∀ definition, config.definition? target = some definition → target ∉ openOnes →
      left definition = right definition) :
    config.expand openOnes target left = config.expand openOnes target right := by
  rw [expand, expand]
  cases found : config.definition? target with
  | none => rfl
  | some definition =>
    by_cases isOpen : target ∈ openOnes
    · simp only [isOpen, if_true]
    · simp only [isOpen, if_false]
      exact same definition found isOpen

end Config

/-- What references stand for matters only where a clause mentions them. -/
theorem Clause.compile_congr {host : ScriptHost} {limit : UInt64} {left right : References}
    {clause : Clause}
    (same : ∀ target, clause.Mentions target → left.get target = right.get target) :
    clause.compile host limit left = clause.compile host limit right := by
  -- Both are what the clause compiles to when each reference is written in its own place.
  have stands : ∀ target, (Inlining.get ⟨.reference, .reference⟩ target).compile host limit left =
      left.get target := by
    intro target
    cases target <;>
      simp only [Inlining.get, Clause.compile, compileRule, compileMatcher, References.get]
  calc clause.compile host limit left
      = (clause.inline ⟨.reference, .reference⟩).compile host limit left :=
        (compile_inline fun target _ => stands target).symm
    _ = clause.compile host limit right :=
        compile_inline fun target mentioned => (stands target).trans (same target mentioned)

namespace References

variable {config : Config} {host : ScriptHost} {openOnes : List Reference}

/-- One level of the recursion, as long as the references that are closed can all be opened. -/
theorem get_within_of_le {left : Nat} (enough : config.closedCount openOnes ≤ left)
    {target : Reference} :
    (within config host left openOnes).get target =
      config.expand openOnes target fun definition =>
        definition.compile host config.engine.maxScriptLength
          (within config host (left - 1) (target :: openOnes)) := by
  cases left with
  | succ left => exact get_within_succ
  | zero =>
    rw [get_within_zero, Config.expand]
    cases found : config.definition? target with
    | none => rfl
    | some definition =>
      have isOpen : target ∈ openOnes := by
        by_contra closed
        have fewer := Config.closedCount_cons_lt found closed
        omega
      simp only [isOpen, if_true]

/-- It does not matter how many references may be opened, if those that are closed can be. -/
theorem get_within_eq {left right : Nat} (leftEnough : config.closedCount openOnes ≤ left)
    (rightEnough : config.closedCount openOnes ≤ right) (target : Reference) :
    (within config host left openOnes).get target =
      (within config host right openOnes).get target := by
  induction closedOnes : config.closedCount openOnes using Nat.strongRecOn
    generalizing openOnes left right target with
  | ind count ih =>
    rw [get_within_of_le leftEnough, get_within_of_le rightEnough]
    refine Config.expand_congr fun definition found closed => Clause.compile_congr fun next _ => ?_
    have fewer := Config.closedCount_cons_lt found closed
    exact ih _ (by omega) (by omega) (by omega) next rfl

/-- What a reference stands for, without a count of those that can be opened. -/
theorem get_ofConfig (target : Reference) :
    (ofConfig config host openOnes).get target =
      config.expand openOnes target fun definition =>
        definition.compile host config.engine.maxScriptLength
          (ofConfig config host (target :: openOnes)) := by
  have enough : ∀ openOnes, config.closedCount openOnes ≤
      config.definitions.rules.size + config.definitions.matchers.size := by
    intro openOnes
    rw [← Config.length_references]
    exact Config.closedCount_le openOnes
  rw [ofConfig, get_within_of_le (enough openOnes)]
  refine Config.expand_congr fun definition found closed => Clause.compile_congr fun next _ => ?_
  have fewer := Config.closedCount_cons_lt found closed
  have atFirst := enough openOnes
  exact get_within_eq (by omega) (enough _) next

end References

namespace Config

variable {config : Config} {host : ScriptHost}

/-- A function answers calls by the recursion of the compiler: a clause is compiled with what its
references stand for, and a reference stands for the answer to the call that opens it, unless it has
no definition or is open already. -/
def AnswersCalls (config : Config) (host : ScriptHost)
    (answer : Call → Except Fault (Rule ⊕ Matcher)) : Prop :=
  ∀ call, ∃ references : References,
    (∀ target, references.get target =
      config.expand call.openOnes target fun definition =>
        answer ⟨target :: call.openOnes, definition⟩) ∧
    answer call = call.clause.compile host config.engine.maxScriptLength references

/-- Compiling is the only function that follows its recursion. -/
theorem answersCalls_iff {answer : Call → Except Fault (Rule ⊕ Matcher)} :
    config.AnswersCalls host answer ↔
      ∀ call, answer call = call.clause.compile host config.engine.maxScriptLength
        (.ofConfig config host call.openOnes) := by
  constructor
  · intro answers call
    -- Opening a reference leaves fewer closed ones, whatever the definition is.
    induction closedOnes : config.closedCount call.openOnes using Nat.strongRecOn
      generalizing call with
    | ind count ih =>
      obtain ⟨references, stand, answered⟩ := answers call
      rw [answered]
      refine Clause.compile_congr fun target _ => ?_
      rw [stand, References.get_ofConfig]
      refine expand_congr fun definition found closed => ?_
      exact ih _ (closedOnes ▸ closedCount_cons_lt found closed) _ rfl
  · intro answers call
    refine ⟨.ofConfig config host call.openOnes, fun target => ?_, answers call⟩
    simp only [References.get_ofConfig, answers]

/-- A configuration compiles if all calls that compiling it starts with succeed, and its policies are
well formed and differ in their ids. -/
theorem exists_compile_iff_starts :
    (∃ engine, config.compile host = .ok engine) ↔
      (∀ call, config.Starts call → config.CompilesOpen host call.openOnes call.clause) ∧
        (∀ policy ∈ config.definitions.policies, policy.WellFormed) ∧
        (config.definitions.policies.map (·.id)).Nodup := by
  rw [exists_compile_eq_ok_iff]
  constructor
  · rintro ⟨definitions, policies, distinct⟩
    refine ⟨fun call starts => ?_, fun policy listed => (policies policy listed).1, distinct⟩
    cases starts with
    | definition found => exact definitions _ _ found
    | policy listed member => exact (policies _ listed).2 _ member
  · rintro ⟨starts, wellFormed, distinct⟩
    refine ⟨fun reference clause found => starts _ (.definition found), ?_, distinct⟩
    intro policy listed
    exact ⟨wellFormed policy listed, fun clause member => starts _ (.policy listed member)⟩

/-- Compiling ends, whatever configuration it is given. There is no endless sequence of calls. In each
call that is made, the references that are open differ from each other and are defined, so there are
never more of them than definitions. The recursion, which is cut short nowhere but at references that
are undefined or open, settles the outcome of every call, and a configuration compiles if the calls
that it starts with succeed and its policies are well formed. -/
theorem compile_ends (config : Config) (host : ScriptHost) :
    (WellFounded fun next call => config.Calls call next) ∧
    (∀ call, config.Reaches call →
      call.openOnes.Nodup ∧
      (∀ reference ∈ call.openOnes, (config.definition? reference).isSome = true) ∧
      call.openOnes.length ≤
        config.definitions.rules.size + config.definitions.matchers.size) ∧
    (∀ answer : Call → Except Fault (Rule ⊕ Matcher), config.AnswersCalls host answer ↔
      ∀ call, answer call = call.clause.compile host config.engine.maxScriptLength
        (.ofConfig config host call.openOnes)) ∧
    ((∃ engine, config.compile host = .ok engine) ↔
      (∀ call, config.Starts call → config.CompilesOpen host call.openOnes call.clause) ∧
        (∀ policy ∈ config.definitions.policies, policy.WellFormed) ∧
        (config.definitions.policies.map (·.id)).Nodup) := by
  refine ⟨config.calls_wellFounded, fun call reaches => ?_, fun answer => answersCalls_iff,
    exists_compile_iff_starts⟩
  have inOrder := reaches.inOrder
  exact ⟨inOrder.distinct, inOrder.known, inOrder.length_le⟩

end Config

end AttributeRelease
