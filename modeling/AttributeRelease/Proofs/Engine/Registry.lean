import AttributeRelease.Engine.Registry
import AttributeRelease.Proofs.Compile.Inlining
import AttributeRelease.Proofs.Engine.Failure
import Mathlib.Data.List.Induction

/-!
# What a registry has in service

A use of a registry shuts it down, offers it an engine, or leaves it as it is: `Registry.use_cases`
says all that a use does. `Registry.Records` is the invariant of every history that follows from it.
The registry is shut down exactly if that was done at some time, and until then it has the engine in
service that was offered last.

What a caller is told does not depend on the registry alone. A reload that compiles is reported as a
success in every state, and an error that comes from the registry itself touches no context.
-/

namespace AttributeRelease

namespace Registry

/-- A use offers an engine: it installs it, or reloads a configuration that compiles to it. -/
inductive Use.Offers : Use → Engine → Prop where
  | install {engine} : Offers (.install engine) engine
  | reload {config host engine} (compiled : config.compile host = .ok engine) :
      Offers (.reload config host) engine

/-- The engine offered last, by the first use that offers one when going back from the end. -/
def LastOffered (uses : List Use) (engine : Engine) : Prop := FirstIn Use.Offers uses.reverse engine

variable {registry : Registry} {uses : List Use} {next : Use} {engine : Engine}
  {config : Config} {host : ScriptHost}

/-- A use offers one engine at most. -/
theorem Use.Offers.unique {other : Engine} (offers : next.Offers engine)
    (offersOther : next.Offers other) : engine = other := by
  cases offers with
  | install =>
    cases offersOther
    rfl
  | reload compiled =>
    cases offersOther with
    | reload otherCompiled => exact Except.ok.inj (compiled.symm.trans otherCompiled)

/-- The engine offered last is that of the last use, or that of the uses before if the last one
offers none. -/
theorem lastOffered_append_singleton_iff :
    LastOffered (uses ++ [next]) engine ↔
      next.Offers engine ∨ (∀ other, ¬ next.Offers other) ∧ LastOffered uses engine := by
  rw [LastOffered, List.reverse_append, List.reverse_singleton, List.singleton_append]
  exact FirstIn.cons_iff

/-- No engine was offered last if no use offers one. -/
theorem exists_lastOffered_iff :
    (∃ engine, LastOffered uses engine) ↔ ∃ use ∈ uses, ∃ engine, use.Offers engine := by
  simp only [LastOffered, FirstIn.exists_iff, List.mem_reverse]

/-- Reloading a configuration that compiles installs its engine. -/
theorem reload_of_ok (registry : Registry) (compiled : config.compile host = .ok engine) :
    registry.reload config host = (registry.install engine, none) := by
  rw [reload, compiled]

/-- Reloading a configuration that does not compile changes nothing and reports the error. -/
theorem reload_of_error (registry : Registry) {error : BuildError}
    (refused : config.compile host = .error error) :
    registry.reload config host = (registry, some error) := by
  rw [reload, refused]

/-- All that a use does to a registry: it shuts it down, installs the engine that it offers, or, if it
offers none, leaves it as it is. -/
theorem use_cases (registry : Registry) (next : Use) :
    (next = .shutdown ∧ registry.use next = shutDown) ∨
      (next ≠ .shutdown ∧ ∃ engine, next.Offers engine ∧ registry.use next = registry.install engine) ∨
      (next ≠ .shutdown ∧ (∀ engine, ¬ next.Offers engine) ∧ registry.use next = registry) := by
  cases next with
  | install engine => exact .inr (.inl ⟨nofun, engine, .install, rfl⟩)
  | reload config host =>
    cases outcome : config.compile host with
    | ok engine =>
      refine .inr (.inl ⟨nofun, engine, .reload outcome, ?_⟩)
      rw [use, reload_of_ok registry outcome]
    | error error =>
      refine .inr (.inr ⟨nofun, ?_, ?_⟩)
      · rintro engine (_ | compiled)
        cases outcome.symm.trans compiled
      · rw [use, reload_of_error registry outcome]
  | shutdown => exact .inl ⟨rfl, rfl⟩
  | filter context => exact .inr (.inr ⟨nofun, nofun, rfl⟩)

@[simp] theorem isShutDown_install (registry : Registry) (engine : Engine) :
    (registry.install engine).isShutDown = registry.isShutDown := by
  cases registry <;> rfl

/-- An installed engine is in service unless the registry was shut down before. -/
theorem current?_install (registry : Registry) (engine : Engine) :
    (registry.install engine).current? = if registry.isShutDown then none else some engine := by
  cases registry <;> rfl

/-- The state of a registry is what its history says. -/
structure Records (registry : Registry) (uses : List Use) : Prop where
  isShutDown_iff : registry.isShutDown = true ↔ .shutdown ∈ uses
  current?_iff : ∀ engine,
    registry.current? = some engine ↔ .shutdown ∉ uses ∧ LastOffered uses engine

/-- A new registry records that it has not been used. -/
theorem records_empty : empty.Records [] where
  isShutDown_iff := by simp [isShutDown]
  current?_iff engine := by simp [current?, LastOffered, FirstIn.not_nil]

/-- A use that is no shutdown does not change whether there was one. -/
theorem shutdown_mem_append_singleton_iff (uses : List Use) (goesOn : next ≠ .shutdown) :
    .shutdown ∈ uses ++ [next] ↔ .shutdown ∈ uses := by
  simp [goesOn.symm]

/-- What is offered now is offered last, whatever was offered before. -/
theorem Use.Offers.lastOffered_iff {other : Engine} (offers : next.Offers engine) :
    LastOffered (uses ++ [next]) other ↔ engine = other := by
  rw [lastOffered_append_singleton_iff]
  constructor
  · rintro (offersOther | ⟨offersNone, _⟩)
    · exact offers.unique offersOther
    · exact absurd offers (offersNone engine)
  · rintro rfl
    exact .inl offers

/-- One more use keeps the state in accordance with the history. -/
theorem Records.use (records : registry.Records uses) (next : Use) :
    (registry.use next).Records (uses ++ [next]) := by
  rcases registry.use_cases next with
    ⟨rfl, shut⟩ | ⟨goesOn, engine, offers, installed⟩ | ⟨goesOn, offersNone, unchanged⟩
  · rw [shut]
    exact ⟨by simp [isShutDown], fun engine => by simp [current?]⟩
  · have mem_iff := shutdown_mem_append_singleton_iff uses goesOn
    rw [installed]
    refine ⟨by rw [isShutDown_install, mem_iff, records.isShutDown_iff], fun other => ?_⟩
    -- The registry itself declines the engine if it was shut down, so its state decides here.
    rw [current?_install, mem_iff, offers.lastOffered_iff, ← records.isShutDown_iff]
    by_cases isShut : registry.isShutDown = true <;> simp [isShut]
  · have mem_iff := shutdown_mem_append_singleton_iff uses goesOn
    rw [unchanged]
    refine ⟨by rw [mem_iff, records.isShutDown_iff], fun other => ?_⟩
    rw [records.current?_iff, mem_iff, lastOffered_append_singleton_iff]
    simp [offersNone]

/-- After every history the state of a new registry is what the history says. -/
theorem after_records (uses : List Use) : (empty.after uses).Records uses := by
  -- The invariant speaks of all uses from the start, so the history grows at its end.
  induction uses using List.reverseRecOn with
  | nil => exact records_empty
  | append_singleton before last ih =>
    rw [after, List.foldl_append]
    exact ih.use last

/-- Going by its history, a registry has no engine in service once it was shut down or if it was
offered none. -/
theorem Records.current?_eq_none_iff (records : registry.Records uses) :
    registry.current? = none ↔
      .shutdown ∈ uses ∨ ∀ use ∈ uses, ∀ engine, ¬ use.Offers engine := by
  rw [Option.eq_none_iff_forall_ne_some]
  simp only [ne_eq, records.current?_iff, not_and]
  by_cases shut : .shutdown ∈ uses
  · simp [shut]
  · simp only [shut, not_false_eq_true, forall_const, false_or]
    rw [← not_exists, exists_lastOffered_iff]
    push Not
    rfl

/-- With an engine in service, a registry does what that engine does. -/
theorem filter_of_current? (inService : registry.current? = some engine)
    (context : FilterContext) : registry.filter context = engine.filter context := by
  cases registry with
  | running installed =>
    cases inService
    rfl
  | empty => cases inService
  | shutDown => cases inService

/-- Without an engine in service, the error tells why there is none, and the context stays as it
is. -/
theorem filter_of_current?_eq_none (noEngine : registry.current? = none)
    (context : FilterContext) :
    registry.filter context =
      (context, some (if registry.isShutDown then .shutDown else .notInstalled)) := by
  cases registry with
  | running installed => cases noEngine
  | empty => rfl
  | shutDown => rfl

/-- A registry goes by its history. After any uses of a new registry it is shut down exactly if that was
done at some time, and otherwise it has the engine in service that was offered last, if any was. A
reload that is refused gives the error of the compilation and changes nothing, and neither does
filtering. With an engine in service, filtering is what that engine does; without one, the error tells
whether the registry was shut down, and the context stays as it is. -/
theorem after_serves_last_offered (uses : List Use) :
    ((empty.after uses).isShutDown = true ↔ .shutdown ∈ uses) ∧
      (∀ engine, (empty.after uses).current? = some engine ↔
        .shutdown ∉ uses ∧ LastOffered uses engine) ∧
      ((empty.after uses).current? = none ↔
        .shutdown ∈ uses ∨ ∀ use ∈ uses, ∀ engine, ¬ use.Offers engine) ∧
      (∀ config host error, config.compile host = .error error →
        (empty.after uses).reload config host = (empty.after uses, some error)) ∧
      (∀ context, empty.after (uses ++ [.filter context]) = empty.after uses) ∧
      (∀ engine, (empty.after uses).current? = some engine →
        ∀ context, (empty.after uses).filter context = engine.filter context) ∧
      ((empty.after uses).current? = none → ∀ context, (empty.after uses).filter context =
        (context, some (if (empty.after uses).isShutDown then .shutDown else .notInstalled))) ∧
      FilterError.shutDown.message ≠ FilterError.notInstalled.message := by
  have records := after_records uses
  refine ⟨records.isShutDown_iff, records.current?_iff, records.current?_eq_none_iff,
    ?refused, ?filtered, ?served, ?unserved, by decide⟩
  case refused => exact fun _ _ _ refused => reload_of_error _ refused
  case filtered =>
    intro context
    rw [after, List.foldl_append]
    rfl
  case served => exact fun _ inService => filter_of_current? inService
  case unserved => exact fun noEngine => filter_of_current?_eq_none noEngine

/-- Permits a name. -/
def permitsName : Engine := ⟨"first", [⟨"permit", .any, [⟨"uid", .permit, .any⟩]⟩]⟩

/-- A configuration with a policy that has no id. -/
def unnamedPolicy : Config :=
  { Config.default with definitions := { PolicySet.empty with policies := [⟨"", none, .any, []⟩] } }

/-- A reload that is refused leaves the first engine in service, and a shutdown takes it out. -/
theorem refusedReload_keeps_first :
    unnamedPolicy.compile .none = .error (.fault "" .emptyPolicyId) ∧
      (empty.after [.install permitsName, .reload unnamedPolicy .none]).current? = some permitsName ∧
      (empty.after [.install permitsName]).reload unnamedPolicy .none =
        (empty.after [.install permitsName], some (.fault "" .emptyPolicyId)) ∧
      (∀ context, (empty.after [.install permitsName, .reload unnamedPolicy .none]).filter context =
        permitsName.filter context) ∧
      ∀ context, (empty.after [.install permitsName, .shutdown]).filter context =
        (context, some .shutDown) := by
  have refused : unnamedPolicy.compile .none = .error (.fault "" .emptyPolicyId) := rfl
  have inService :
      (empty.after [.install permitsName, .reload unnamedPolicy .none]).current? = some permitsName :=
    rfl
  obtain ⟨_, _, _, stays, _⟩ := after_serves_last_offered [.install permitsName]
  obtain ⟨_, _, _, _, _, serves, _⟩ :=
    after_serves_last_offered [.install permitsName, .reload unnamedPolicy .none]
  obtain ⟨_, _, _, _, _, _, unserved, _⟩ :=
    after_serves_last_offered [.install permitsName, .shutdown]
  exact ⟨refused, inService, stays _ _ _ refused, serves _ inService, unserved rfl⟩

/-- An error leaves nothing released if a policy failed. An error that comes from the registry leaves
what an earlier pass released. -/
theorem released_eq_empty_iff_of_failed {registry : Registry} {context : FilterContext}
    {error : FilterError} (failed : (registry.filter context).2 = some error) :
    (registry.filter context).1.released = ∅ ↔
      (∃ policyId attributeId cause, error = .evaluation policyId attributeId cause) ∨
        context.released = ∅ := by
  cases inService : registry.current? with
  | some engine =>
    rw [filter_of_current? inService] at failed ⊢
    obtain ⟨_, policy, _, _, _, fails⟩ := Engine.filter_eq_some_iff.1 failed
    obtain ⟨attributeId, cause, isEvaluation, _⟩ := fails.message_eq
    rw [Engine.filter_eq_ofRequest failed]
    exact iff_of_true rfl (.inl ⟨policy.id, attributeId, cause, isEvaluation⟩)
  | none =>
    rw [filter_of_current?_eq_none inService] at failed ⊢
    have fromRegistry : ¬ ∃ policyId attributeId cause,
        error = .evaluation policyId attributeId cause := by
      rintro ⟨_, _, _, rfl⟩
      split at failed <;> cases failed
    simp only [fromRegistry, false_or]

/-- Through the registry, too, a pass that fails releases nothing. -/
theorem brokenAfterPermit_leaves_nothing :
    ∃ error, ((running Engine.brokenAfterPermit).filter Engine.namedRelease).2 = some error ∧
      ((running Engine.brokenAfterPermit).filter Engine.namedRelease).1.released = ∅ := by
  let error : FilterError := .evaluation "broken" none
    (.unexpectedResult "requirement rule script must return a boolean, got int")
  have failed :
      ((running Engine.brokenAfterPermit).filter Engine.namedRelease).2 = some error := by decide
  exact ⟨error, failed, (released_eq_empty_iff_of_failed failed).2 (.inl ⟨_, _, _, rfl⟩)⟩

/-- A context from which that engine has released a name. -/
def servedName : FilterContext :=
  ((empty.after [.install permitsName]).filter (.ofRequest Engine.namedRelease.request)).1

/-- The name is still released after the registry was shut down and has refused to filter. -/
theorem shutDown_keeps_release :
    ((empty.after [.install permitsName, .shutdown]).filter servedName).2 = some .shutDown ∧
      ((empty.after [.install permitsName, .shutdown]).filter servedName).1.released ≠ ∅ := by
  decide

/-- A reload that is reported as a success has compiled. The engine is in service afterwards unless the
registry was shut down; then none is. -/
theorem current?_reload_of_reported (uses : List Use) {config : Config} {host : ScriptHost}
    (reported : ((empty.after uses).reload config host).2 = none) :
    ∃ engine, config.compile host = .ok engine ∧
      (.shutdown ∉ uses → ((empty.after uses).reload config host).1.current? = some engine) ∧
      (.shutdown ∈ uses → ((empty.after uses).reload config host).1.current? = none) := by
  cases outcome : config.compile host with
  | error error =>
    rw [reload_of_error _ outcome] at reported
    cases reported
  | ok engine =>
    refine ⟨engine, rfl, ?_⟩
    rw [reload_of_ok _ outcome, current?_install, ← (after_records uses).isShutDown_iff]
    exact ⟨fun goesOn => if_neg goesOn, fun isShut => if_pos isShut⟩

/-- After the reload the compiled engine is the current one. -/
theorem sharedStaff_reloaded :
    ∃ engine, Config.sharedStaff.compile .none = .ok engine ∧
      ((empty.after [.install permitsName]).reload Config.sharedStaff .none).1.current? =
        some engine := by
  have reported :
      ((empty.after [.install permitsName]).reload Config.sharedStaff .none).2 = none := rfl
  obtain ⟨engine, compiled, serves, _⟩ := current?_reload_of_reported [.install permitsName] reported
  exact ⟨engine, compiled, serves (by simp)⟩

/-- After a shutdown a reload is reported as a success, and no engine is in service. -/
theorem shutDown_reload_reported :
    ((empty.after [.shutdown]).reload Config.sharedStaff .none).2 = none ∧
      ((empty.after [.shutdown]).reload Config.sharedStaff .none).1.current? = none :=
  ⟨rfl, rfl⟩

end Registry

end AttributeRelease
