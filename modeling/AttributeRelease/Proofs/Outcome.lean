import Mathlib.Data.List.Forall2
import Mathlib.Logic.Function.Basic

/-!
# Outcomes of steps that may fail

When a sequence of steps succeeds and when it fails: each lemma takes one step off. Later modules
take computations apart with these and do not open them.
-/

namespace AttributeRelease.Outcome

variable {ε ε' α β : Type}

@[simp] theorem pure_eq_ok (value : α) : (pure value : Except ε α) = .ok value := rfl

@[simp] theorem ok_bind (value : α) (next : α → Except ε β) :
    (Except.ok value >>= next) = next value := rfl

@[simp] theorem error_bind (e : ε) (next : α → Except ε β) :
    (Except.error e >>= next) = .error e := rfl

/-- Two steps succeed if both do. -/
theorem bind_eq_ok_iff {first : Except ε α} {next : α → Except ε β} {result : β} :
    (first >>= next) = .ok result ↔ ∃ value, first = .ok value ∧ next value = .ok result := by
  cases first with
  | error e => simp
  | ok value => simp

/-- Two steps succeed exactly if the first one does and the second one does on its value. -/
theorem exists_bind_eq_ok_iff {first : Except ε α} {next : α → Except ε β} :
    (∃ result, (first >>= next) = .ok result) ↔
      ∃ value, first = .ok value ∧ ∃ result, next value = .ok result := by
  cases first with
  | error e => simp
  | ok value => simp

/-- Two steps fail if the first does, or the second after it. -/
theorem bind_eq_error_iff {first : Except ε α} {next : α → Except ε β} {e : ε} :
    (first >>= next) = .error e ↔
      first = .error e ∨ ∃ value, first = .ok value ∧ next value = .error e := by
  cases first with
  | error e => simp
  | ok value => simp

/-- A change of the value in the end makes no difference to failure. -/
theorem bind_pure_eq_error_iff {first : Except ε α} {change : α → β} {e : ε} :
    (first >>= fun value => pure (change value)) = .error e ↔ first = .error e := by
  cases first with
  | error cause => simp
  | ok value => simp

/-- What is changed succeeds with the change of a value. -/
theorem map_eq_ok_iff {first : Except ε α} {change : α → β} {result : β} :
    first.map change = .ok result ↔ ∃ value, first = .ok value ∧ change value = result := by
  cases first with
  | error e => simp [Except.map]
  | ok value => simp [Except.map]

/-- A change of the value makes no difference to failure. -/
theorem map_eq_error_iff {first : Except ε α} {change : α → β} {e : ε} :
    first.map change = .error e ↔ first = .error e := by
  cases first with
  | error cause => simp [Except.map]
  | ok value => simp [Except.map]

/-- A change of the value makes no difference to success. -/
theorem exists_map_eq_ok_iff {first : Except ε α} {change : α → β} :
    (∃ result, first.map change = .ok result) ↔ ∃ value, first = .ok value := by
  simp [map_eq_ok_iff]

/-- What passes a test on its value has a value. -/
theorem exists_eq_ok_of_any {first : Except ε α} {passes : α → Bool}
    (passed : first.toOption.any passes = true) : ∃ value, first = .ok value ∧ passes value = true := by
  cases first with
  | error e => cases passed
  | ok value => exact ⟨value, rfl, passed⟩

/-- Outcomes that a change makes the same are the same if it keeps values apart. -/
theorem map_inj {left right : Except ε α} {change : α → β} (injective : Function.Injective change)
    (same : left.map change = right.map change) : left = right := by
  cases left with
  | error e => cases right <;> simp_all [Except.map]
  | ok value => cases right <;> simp_all [Except.map, injective.eq_iff]

/-- A change of the error makes no difference to success. -/
theorem mapError_eq_ok_iff {first : Except ε α} {change : ε → ε'} {result : α} :
    first.mapError change = .ok result ↔ first = .ok result := by
  cases first with
  | error e => exact ⟨nofun, nofun⟩
  | ok value =>
    change Except.ok value = Except.ok result ↔ _
    simp only [Except.ok.injEq]

/-- What has its error changed fails with the change of an error. -/
theorem mapError_eq_error_iff {first : Except ε α} {change : ε → ε'} {e : ε'} :
    first.mapError change = .error e ↔ ∃ cause, first = .error cause ∧ change cause = e := by
  cases first with
  | error cause => simp [Except.mapError]
  | ok value => simp [Except.mapError]

/-- A check fails exactly if something is wrong, with the error for it. -/
theorem ite_error_eq_error_iff {condition : Prop} [Decidable condition] {e other : ε} {value : α} :
    (if condition then Except.error e else .ok value) = .error other ↔
      condition ∧ e = other := by
  split <;> simp_all

/-- A step taken for every element of a list succeeds if it does for each of them. -/
theorem exists_mapM_eq_ok_iff {step : α → Except ε β} {list : List α} :
    (∃ results, list.mapM step = .ok results) ↔
      ∀ element ∈ list, ∃ result, step element = .ok result := by
  induction list with
  | nil => simp
  | cons head rest ih =>
    rw [List.forall_mem_cons, ← ih, List.mapM_cons]
    simp only [bind_eq_ok_iff, pure_eq_ok, Except.ok.injEq]
    constructor
    · rintro ⟨_, first, stepped, others, othersStepped, _⟩
      exact ⟨⟨first, stepped⟩, others, othersStepped⟩
    · rintro ⟨⟨first, stepped⟩, others, othersStepped⟩
      exact ⟨_, first, stepped, others, othersStepped, rfl⟩

/-- A step taken for every element of a list fails with the error of one of them. -/
theorem exists_error_of_mapM_eq_error {step : α → Except ε β} {list : List α} {e : ε}
    (failed : list.mapM step = .error e) : ∃ element ∈ list, step element = .error e := by
  induction list with
  | nil => cases failed
  | cons head rest ih =>
    rw [List.mapM_cons, bind_eq_error_iff] at failed
    rcases failed with headFailed | ⟨_, _, failed⟩
    · exact ⟨head, List.mem_cons_self, headFailed⟩
    · obtain ⟨element, member, elementFailed⟩ := ih (bind_pure_eq_error_iff.1 failed)
      exact ⟨element, List.mem_cons_of_mem head member, elementFailed⟩

/-- A walk through a list fails exactly if a step of it does. -/
theorem exists_mapM_eq_error_iff {step : α → Except ε β} {list : List α} :
    (∃ e, list.mapM step = .error e) ↔ ∃ element ∈ list, ∃ e, step element = .error e := by
  constructor
  · rintro ⟨e, failed⟩
    obtain ⟨element, member, elementFailed⟩ := exists_error_of_mapM_eq_error failed
    exact ⟨element, member, e, elementFailed⟩
  · rintro ⟨element, member, e, elementFailed⟩
    cases stepped : list.mapM step with
    | error cause => exact ⟨cause, rfl⟩
    | ok results =>
      obtain ⟨result, succeeded⟩ := exists_mapM_eq_ok_iff.1 ⟨results, stepped⟩ element member
      cases elementFailed.symm.trans succeeded

/-- The results of a step taken for every element of a list are those of its elements, in order. -/
theorem mapM_eq_ok_iff {step : α → Except ε β} {list : List α} {results : List β} :
    list.mapM step = .ok results ↔
      List.Forall₂ (fun element result => step element = .ok result) list results := by
  induction list generalizing results with
  | nil => simp [eq_comm]
  | cons head rest ih =>
    rw [List.mapM_cons, List.forall₂_cons_left_iff]
    simp only [bind_eq_ok_iff, pure_eq_ok, Except.ok.injEq, ih]
    constructor
    · rintro ⟨first, stepped, others, othersStepped, rfl⟩
      exact ⟨first, others, stepped, othersStepped, rfl⟩
    · rintro ⟨first, others, stepped, othersStepped, rfl⟩
      exact ⟨first, stepped, others, othersStepped, rfl⟩

/-- Each member of a list belongs to a member of a list that is related to it. -/
theorem exists_mem_of_forall₂ {related : α → β → Prop} {left : List α} {right : List β}
    (inStep : List.Forall₂ related left right) :
    ∀ result ∈ right, ∃ element ∈ left, related element result := by
  induction inStep with
  | nil => simp
  | cons headRelated _ ih =>
    refine List.forall_mem_cons.2 ⟨⟨_, List.mem_cons_self, headRelated⟩, fun result member => ?_⟩
    obtain ⟨element, elementMember, isRelated⟩ := ih result member
    exact ⟨element, List.mem_cons_of_mem _ elementMember, isRelated⟩

/-- What holds of each result of a step holds of all results for a list. -/
theorem forall_mem_of_mapM_eq_ok {step : α → Except ε β} {list : List α} {results : List β}
    {property : β → Prop}
    (each : ∀ element ∈ list, ∀ result, step element = .ok result → property result)
    (stepped : list.mapM step = .ok results) : ∀ result ∈ results, property result := by
  intro result member
  obtain ⟨element, elementMember, isResult⟩ :=
    exists_mem_of_forall₂ (mapM_eq_ok_iff.1 stepped) result member
  exact each element elementMember result isResult

/-- The results of a step for several elements are the results for any of them. -/
theorem mem_results_iff {step : α → Except ε β} {list : List α} {results : List β}
    (stepped : list.mapM step = .ok results) (result : β) :
    result ∈ results ↔ ∃ element ∈ list, step element = .ok result := by
  have inStep := mapM_eq_ok_iff.1 stepped
  constructor
  · exact exists_mem_of_forall₂ inStep result
  · rintro ⟨element, member, isResult⟩
    obtain ⟨other, otherMember, isOther⟩ := exists_mem_of_forall₂ inStep.flip element member
    cases isResult.symm.trans isOther
    exact otherMember

/-- There are no results exactly if there are no elements. -/
theorem results_eq_nil_iff {step : α → Except ε β} {list : List α} {results : List β}
    (stepped : list.mapM step = .ok results) : results = [] ↔ list = [] := by
  rw [← List.length_eq_zero_iff, ← List.length_eq_zero_iff, (mapM_eq_ok_iff.1 stepped).length_eq]

/-- Two steps whose results are related for every element of a list have related results for it. -/
theorem exists_mapM_related {step other : α → Except ε β} {related : β → β → Prop} {list : List α}
    (each : ∀ element ∈ list, ∃ first second, step element = .ok first ∧
      other element = .ok second ∧ related first second) :
    ∃ firsts seconds, list.mapM step = .ok firsts ∧ list.mapM other = .ok seconds ∧
      List.Forall₂ related firsts seconds := by
  induction list with
  | nil => exact ⟨[], [], rfl, rfl, .nil⟩
  | cons head rest ih =>
    obtain ⟨⟨first, second, stepped, otherStepped, headRelated⟩, restEach⟩ :=
      List.forall_mem_cons.1 each
    obtain ⟨firsts, seconds, restStepped, restOther, restRelated⟩ := ih restEach
    refine ⟨first :: firsts, second :: seconds, ?_, ?_, .cons headRelated restRelated⟩
    · rw [List.mapM_cons, stepped, restStepped]
      rfl
    · rw [List.mapM_cons, otherStepped, restOther]
      rfl

/-- A change of the elements that changes each result in one way changes all results so. -/
theorem mapM_map_eq {step : α → Except ε β} {change : α → α} {changed : β → β}
    (each : ∀ element, step (change element) = (step element).map changed) (list : List α) :
    (list.map change).mapM step = (list.mapM step).map (List.map changed) := by
  induction list with
  | nil => rfl
  | cons head rest ih =>
    rw [List.map_cons, List.mapM_cons, List.mapM_cons, ih, each]
    cases step head with
    | error e => rfl
    | ok result => cases rest.mapM step <;> rfl

/-- An element that combines others can be replaced by them in a list whose results are combined in
the same way, if results admit this. -/
theorem mapM_splice {step : α → Except ε β} {combine : List β → β} {part : α} {inner : List α}
    (partStep : step part = (inner.mapM step).map combine)
    (law : ∀ first middle last, inner.mapM step = .ok middle →
      combine (first ++ [combine middle] ++ last) = combine (first ++ middle ++ last))
    (before after : List α) :
    ((before ++ [part] ++ after).mapM step).map combine =
      ((before ++ inner ++ after).mapM step).map combine := by
  simp only [List.mapM_append, List.mapM_cons, List.mapM_nil, partStep]
  cases before.mapM step with
  | error e => rfl
  | ok first =>
    cases stepped : inner.mapM step with
    | error e => rfl
    | ok middle =>
      cases after.mapM step with
      | error e => rfl
      | ok last => exact congrArg Except.ok (law first middle last stepped)

/-- What the results for a list come to depends on its members only, if this is so for results. -/
theorem toOption_mapM_congr {step : α → Except ε β} {combine : List β → β} {list others : List α}
    (law : ∀ left right : List β, (∀ result, result ∈ left ↔ result ∈ right) →
      combine left = combine right)
    (same : ∀ element, element ∈ list ↔ element ∈ others) :
    ((list.mapM step).map combine).toOption = ((others.mapM step).map combine).toOption := by
  have succeedsSame : (∃ results, list.mapM step = .ok results) ↔
      ∃ results, others.mapM step = .ok results := by
    simp only [exists_mapM_eq_ok_iff, same]
  cases stepped : list.mapM step with
  | error e =>
    cases othersStepped : others.mapM step with
    | error other => rfl
    | ok results => simp [stepped, othersStepped] at succeedsSame
  | ok results =>
    obtain ⟨otherResults, othersStepped⟩ := succeedsSame.1 ⟨results, stepped⟩
    rw [othersStepped]
    refine congrArg some (law results otherResults fun result => ?_)
    rw [mem_results_iff stepped, mem_results_iff othersStepped]
    simp only [same]

/-- A check made of every element of a list passes if it does for each of them. -/
theorem exists_forM_eq_ok_iff {step : α → Except ε Unit} {list : List α} :
    (∃ done, list.forM step = .ok done) ↔ ∀ element ∈ list, ∃ done, step element = .ok done := by
  induction list with
  | nil => simp
  | cons head rest ih =>
    rw [List.forall_mem_cons, ← ih, List.forM]
    simp only [bind_eq_ok_iff]
    constructor
    · rintro ⟨done, first, passed, others⟩
      exact ⟨⟨first, passed⟩, done, others⟩
    · rintro ⟨⟨first, passed⟩, done, others⟩
      exact ⟨done, first, passed, others⟩

/-- Changing the elements of a list first does not matter if the step after it makes up for that. -/
theorem mapM_map_congr {γ : Type} {left : γ → Except ε β} {right : α → Except ε β} {change : α → γ}
    {list : List α} (same : ∀ element ∈ list, left (change element) = right element) :
    (list.map change).mapM left = list.mapM right := by
  induction list with
  | nil => rfl
  | cons head rest ih =>
    obtain ⟨headSame, restSame⟩ := List.forall_mem_cons.1 same
    rw [List.map_cons, List.mapM_cons, List.mapM_cons, headSame, ih restSame]

/-- Two computations fail alike: with the same error, or not at all. -/
inductive FailsAlike {ε α β : Type} : Except ε α → Except ε β → Prop where
  | failed (e : ε) : FailsAlike (.error e) (.error e)
  | succeeded (value : α) (other : β) : FailsAlike (.ok value) (.ok other)

namespace FailsAlike

variable {γ δ : Type} {left : Except ε α} {right : Except ε β}

/-- Every outcome fails as it does itself. -/
theorem refl (outcome : Except ε α) : FailsAlike outcome outcome := by
  cases outcome with
  | error e => exact .failed e
  | ok value => exact .succeeded value value

/-- To fail alike is mutual. -/
theorem symm (alike : FailsAlike left right) : FailsAlike right left := by
  cases alike with
  | failed e => exact .failed e
  | succeeded value other => exact .succeeded other value

/-- To fail alike carries over. -/
theorem trans {last : Except ε γ} (alike : FailsAlike left right)
    (lastAlike : FailsAlike right last) : FailsAlike left last := by
  cases alike with
  | failed e =>
    cases lastAlike
    exact .failed e
  | succeeded value other =>
    cases lastAlike
    exact .succeeded value _

/-- Outcomes that fail alike fail with the same error. -/
theorem eq_error_iff (alike : FailsAlike left right) (e : ε) : left = .error e ↔ right = .error e := by
  cases alike with
  | failed cause => simp
  | succeeded value other => simp

/-- Outcomes that fail alike succeed together. -/
theorem exists_ok_iff (alike : FailsAlike left right) :
    (∃ value, left = .ok value) ↔ ∃ other, right = .ok other := by
  cases alike with
  | failed cause => simp
  | succeeded value other => simp

/-- Changing a result does not change failures. -/
theorem map (outcome : Except ε α) (change : α → β) : FailsAlike (outcome.map change) outcome := by
  cases outcome with
  | error e => exact .failed e
  | ok value => exact .succeeded (change value) value

/-- Two steps fail alike if the first ones do, and the second ones do on all values. -/
theorem bind {next : α → Except ε γ} {otherNext : β → Except ε δ} (alike : FailsAlike left right)
    (nextAlike : ∀ value other, FailsAlike (next value) (otherNext other)) :
    FailsAlike (left >>= next) (right >>= otherNext) := by
  cases alike with
  | failed e => exact .failed e
  | succeeded value other => exact nextAlike value other

/-- A step that succeeds adds no failure. -/
theorem bind_ok (outcome : Except ε α) (change : α → β) :
    FailsAlike (outcome >>= fun value => .ok (change value)) outcome := by
  cases outcome with
  | error e => exact .failed e
  | ok value => exact .succeeded (change value) value

/-- Outcomes that fail alike do so with their errors reported otherwise. -/
theorem mapError (alike : FailsAlike left right) (report : ε → ε') :
    FailsAlike (left.mapError report) (right.mapError report) := by
  cases alike with
  | failed e => exact .failed (report e)
  | succeeded value other => exact .succeeded value other

/-- Walks through a list fail alike if their steps do. -/
theorem mapM {step : α → Except ε β} {other : α → Except ε γ} {list : List α}
    (alike : ∀ element ∈ list, FailsAlike (step element) (other element)) :
    FailsAlike (list.mapM step) (list.mapM other) := by
  induction list with
  | nil => exact .succeeded [] []
  | cons head rest ih =>
    obtain ⟨headAlike, restAlike⟩ := List.forall_mem_cons.1 alike
    rw [List.mapM_cons, List.mapM_cons]
    exact headAlike.bind fun _ _ => (ih restAlike).bind fun _ _ => .succeeded _ _

end FailsAlike

section Effectless

/-! Computations that could have effects, without any. -/

@[simp] theorem run_bind (first : ExceptT ε Id α) (next : α → ExceptT ε Id β) :
    (first >>= next).run.run = first.run.run >>= fun value => (next value).run.run := by
  change (ExceptT.bindCont next first.run.run).run = _
  cases first.run.run <;> rfl

/-- A step without effects just hands on its value. -/
theorem run_lift_bind (task : Id α) (next : α → ExceptT ε Id β) :
    ((liftM task : ExceptT ε Id α) >>= next).run.run = (next task.run).run.run := rfl

@[simp] theorem run_adapt (task : ExceptT ε Id α) (report : ε → ε') :
    (task.adapt report).run.run = task.run.run.mapError report := rfl

@[simp] theorem run_mapM (step : α → ExceptT ε Id β) (list : List α) :
    (list.mapM step).run.run = list.mapM fun element => (step element).run.run := by
  induction list with
  | nil => rfl
  | cons head rest ih =>
    simp only [List.mapM_cons, run_bind, ih]
    rfl

end Effectless

end AttributeRelease.Outcome
