import AttributeRelease.Proofs.Rule.Connective

/-!
# The algebra of rules

Rules can be nested, reordered and negated much as formulas can, but failures and errors set limits to
this. A failure stays under a negation and beats everything in a conjunction, so the laws of De Morgan
need rules that are decided. An empty conjunction is false, so it cannot be spliced. The order of rules
decides which errors of a disjunction happen. `Rule.evaluate_algebra` collects the laws.
-/

namespace AttributeRelease

open Outcome

namespace Tristate

variable {outcomes others : List Tristate}

/-- A conjunction can be spliced into a conjunction that it stands in, unless it is empty: then it is
false, where the empty list of its parts asks for nothing. -/
theorem conjunction_splice (before after : List Tristate) {inner : List Tristate}
    (notNil : inner ≠ []) :
    conjunction (before ++ [conjunction inner] ++ after) =
      conjunction (before ++ inner ++ after) := by
  apply ext_true_fail
  · simp only [conjunction_eq_true_iff, List.forall_mem_append, List.forall_mem_singleton]
    simp [notNil]
  · simp only [conjunction_eq_fail_iff, List.mem_append, List.mem_singleton,
      eq_comm (a := Tristate.fail)]

/-- The conjunction of outcomes depends only on which of them there are. -/
theorem conjunction_congr (same : ∀ outcome, outcome ∈ outcomes ↔ outcome ∈ others) :
    conjunction outcomes = conjunction others := by
  have nilSame : outcomes = [] ↔ others = [] := by
    simp only [List.eq_nil_iff_forall_not_mem, same]
  apply ext_true_fail
  · simp only [conjunction_eq_true_iff, same, ne_eq, nilSame]
  · rw [conjunction_eq_fail_iff, conjunction_eq_fail_iff, same]

section DeMorgan

variable (notNil : outcomes ≠ []) (noFail : .fail ∉ outcomes)
include noFail

/-- Without a failure, an outcome is negated into truth if it is not truth. -/
theorem true_mem_map_not_iff :
    Tristate.true ∈ outcomes.map Tristate.not ↔ ∃ outcome ∈ outcomes, outcome ≠ .true := by
  simp only [List.mem_map, not_eq_true_iff]
  refine exists_congr fun outcome => and_congr_right fun member => and_iff_left ?_
  rintro rfl
  exact noFail member

/-- Negation makes no outcome fail that did not. -/
theorem fail_notMem_map_not : Tristate.fail ∉ outcomes.map Tristate.not := by
  simp only [List.mem_map, not_eq_fail_iff]
  rintro ⟨_, member, rfl⟩
  exact noFail member

include notNil

/-- The negation of a conjunction is the disjunction of the negations, if there are outcomes and
none fails. -/
theorem not_conjunction : (conjunction outcomes).not = disjunction (outcomes.map .not) := by
  have decided : conjunction outcomes ≠ .fail := mt conjunction_eq_fail_iff.1 noFail
  apply ext_true_fail
  · rw [disjunction_eq_true_iff, true_mem_map_not_iff noFail, not_eq_true_iff,
      and_iff_left decided, Ne, conjunction_eq_true_iff, and_iff_right notNil]
    push Not
    exact Iff.rfl
  · rw [not_eq_fail_iff, disjunction_eq_fail_iff]
    exact iff_of_false decided fun failed => fail_notMem_map_not noFail failed.2

/-- The other law of De Morgan, by double negation. -/
theorem not_disjunction : (disjunction outcomes).not = conjunction (outcomes.map .not) := by
  have negatedNotNil : outcomes.map Tristate.not ≠ [] := by simpa using notNil
  calc (disjunction outcomes).not
      = (disjunction ((outcomes.map .not).map .not)).not := by simp [Function.comp_def, not_not]
    _ = (conjunction (outcomes.map .not)).not.not := by
        rw [not_conjunction negatedNotNil (fail_notMem_map_not noFail)]
    _ = conjunction (outcomes.map .not) := not_not

end DeMorgan

end Tristate

namespace Rule

variable {request : Request} {rules others : List Rule}

/-- A negation comes to the negation of the outcome. -/
theorem evaluate_not (rule : Rule) :
    (not rule).evaluate request = (rule.evaluate request).map Tristate.not := by
  rw [evaluate]
  cases rule.evaluate request <;> rfl

/-- A disjunction in a disjunction may be replaced by its rules, also where there are errors. -/
theorem evaluate_or_splice (before inner after : List Rule) :
    (or (before ++ [or inner] ++ after)).evaluate request =
      (or (before ++ inner ++ after)).evaluate request := by
  have innerSame : ∀ found : Tristate, found ≠ .true →
      evaluateOr request found [or inner] = evaluateOr request found inner := by
    intro found undecided
    rw [evaluateOr_eq_or undecided inner, evaluateOr, evaluate]
    cases evaluateOr request .false inner with
    | error e => rfl
    | ok outcome => exact ite_self _
  rw [evaluate, evaluate, List.append_assoc, List.append_assoc,
    evaluateOr_append Tristate.false_ne_true, evaluateOr_append Tristate.false_ne_true]
  refine bind_congr fun outcome => ?_
  -- A true rule before the nested ones keeps both forms from reaching them.
  split
  next => rfl
  next undecided =>
    rw [evaluateOr_append undecided, evaluateOr_append undecided, innerSame outcome undecided]

/-- A conjunction in a conjunction may be replaced by its rules, if it has any. -/
theorem evaluate_and_splice (before after : List Rule) {inner : List Rule} (notNil : inner ≠ []) :
    (and (before ++ [and inner] ++ after)).evaluate request =
      (and (before ++ inner ++ after)).evaluate request := by
  rw [evaluate_and, evaluate_and]
  refine mapM_splice (evaluate_and inner) (fun first middle last evaluated => ?_) before after
  exact Tristate.conjunction_splice first last (mt (results_eq_nil_iff evaluated).1 notNil)

/-- Order and repetition of its rules make no difference to what a conjunction comes to. -/
theorem toOption_evaluate_and_congr (same : ∀ rule, rule ∈ rules ↔ rule ∈ others) :
    ((and rules).evaluate request).toOption = ((and others).evaluate request).toOption := by
  rw [evaluate_and, evaluate_and]
  exact toOption_mapM_congr (fun _ _ => Tristate.conjunction_congr) same

/-- In which order the rules of a disjunction stand matters only for failures. -/
theorem evaluate_or_congr {first second : Tristate}
    (same : ∀ rule, rule ∈ rules ↔ rule ∈ others)
    (evaluated : (or rules).evaluate request = .ok first)
    (othersEvaluated : (or others).evaluate request = .ok second) : first = second := by
  rw [evaluate] at evaluated othersEvaluated
  obtain ⟨trueIff, failIff⟩ := evaluateOr_outcome Tristate.false_ne_true evaluated
  obtain ⟨othersTrueIff, othersFailIff⟩ := evaluateOr_outcome Tristate.false_ne_true othersEvaluated
  apply Tristate.ext_true_fail
  · simp only [trueIff, othersTrueIff, same]
  · simp only [failIff, othersFailIff, same]

/-- The negations of rules have the negations of their outcomes. -/
theorem mapM_map_not (rules : List Rule) :
    (rules.map not).mapM (evaluate request) =
      (rules.mapM (evaluate request)).map (List.map Tristate.not) :=
  mapM_map_eq evaluate_not rules

section DeMorgan

variable (notNil : rules ≠ [])
  (decided : ∀ rule ∈ rules, ∃ outcome, rule.evaluate request = .ok outcome ∧ outcome ≠ .fail)
include notNil decided

/-- Rules that are decided have outcomes, their negations have the negations, and none fails. -/
theorem exists_outcomes_of_decided :
    ∃ outcomes, rules.mapM (evaluate request) = .ok outcomes ∧
      (rules.map not).mapM (evaluate request) = .ok (outcomes.map .not) ∧
      outcomes ≠ [] ∧ .fail ∉ outcomes := by
  have succeeds : ∀ rule ∈ rules, ∃ outcome, rule.evaluate request = .ok outcome :=
    fun rule member => (decided rule member).imp fun _ => And.left
  obtain ⟨outcomes, evaluated⟩ := exists_mapM_eq_ok_iff.2 succeeds
  refine ⟨outcomes, evaluated, ?_, mt (results_eq_nil_iff evaluated).1 notNil, ?_⟩
  · rw [mapM_map_not, evaluated]
    rfl
  · intro failMember
    obtain ⟨rule, member, failed⟩ := (mem_results_iff evaluated _).1 failMember
    obtain ⟨outcome, isOutcome, notFail⟩ := decided rule member
    cases isOutcome.symm.trans failed
    exact notFail rfl

/-- The negation of a conjunction comes to the disjunction of the negations, if there are rules and
all of them are decided. -/
theorem evaluate_not_and :
    (not (and rules)).evaluate request = (or (rules.map not)).evaluate request := by
  obtain ⟨outcomes, evaluated, negated, outcomesNotNil, noFail⟩ :=
    exists_outcomes_of_decided notNil decided
  rw [evaluate_not, evaluate_and, evaluate_or_of_outcomes negated, evaluated]
  exact congrArg Except.ok (Tristate.not_conjunction outcomesNotNil noFail)

/-- The negation of a disjunction comes to the conjunction of the negations, if there are rules and
all of them are decided. -/
theorem evaluate_not_or :
    (not (or rules)).evaluate request = (and (rules.map not)).evaluate request := by
  obtain ⟨outcomes, evaluated, negated, outcomesNotNil, noFail⟩ :=
    exists_outcomes_of_decided notNil decided
  rw [evaluate_not, evaluate_or_of_outcomes evaluated, evaluate_and, negated]
  exact congrArg Except.ok (Tristate.not_disjunction outcomesNotNil noFail)

end DeMorgan

/-- The laws of rules, for every request. A disjunction fails if one of its rules does and none before
that one is true; else it is the disjunction of the rules that are evaluated, and that of all rules if
none of them is an error. A conjunction fails if one of its rules does. A disjunction can be spliced
into a disjunction, and a conjunction, unless it is empty, into a conjunction. Conjunctions of the
same rules in any order and any number of times come to the same and fail together, and disjunctions
come to the same if none of them fails. Negations go into lists of rules all of which are decided. -/
theorem evaluate_algebra (request : Request) :
    (∀ rules : List Rule,
      ((∃ e, (or rules).evaluate request = .error e) ↔
        ∃ before rule after, rules = before ++ rule :: after ∧
          (∃ e, rule.evaluate request = .error e) ∧
          ∀ earlier ∈ before, earlier.evaluate request ≠ .ok .true) ∧
      (or rules).evaluate request =
        ((reached request rules).mapM (evaluate request)).map Tristate.disjunction ∧
      ((∀ rule ∈ rules, ∃ outcome, rule.evaluate request = .ok outcome) →
        (or rules).evaluate request =
          (rules.mapM (evaluate request)).map Tristate.disjunction) ∧
      ((∃ e, (and rules).evaluate request = .error e) ↔
        ∃ rule ∈ rules, ∃ e, rule.evaluate request = .error e)) ∧
    (∀ outcomes : List Tristate, Tristate.disjunction outcomes =
      if .true ∈ outcomes then .true else if .fail ∈ outcomes then .fail else .false) ∧
    (∀ before inner after : List Rule,
      (or (before ++ [or inner] ++ after)).evaluate request =
          (or (before ++ inner ++ after)).evaluate request ∧
        (inner ≠ [] →
          (and (before ++ [and inner] ++ after)).evaluate request =
            (and (before ++ inner ++ after)).evaluate request)) ∧
    (∀ rules others : List Rule, (∀ rule, rule ∈ rules ↔ rule ∈ others) →
      ((and rules).evaluate request).toOption = ((and others).evaluate request).toOption ∧
        ∀ first second, (or rules).evaluate request = .ok first →
          (or others).evaluate request = .ok second → first = second) ∧
    ∀ rules : List Rule, rules ≠ [] →
      (∀ rule ∈ rules, ∃ outcome, rule.evaluate request = .ok outcome ∧ outcome ≠ .fail) →
        (not (and rules)).evaluate request = (or (rules.map not)).evaluate request ∧
          (not (or rules)).evaluate request = (and (rules.map not)).evaluate request := by
  refine ⟨fun rules => ⟨?_, evaluate_or_reached rules, evaluate_or_of_decided,
    exists_evaluate_and_eq_error_iff rules⟩, fun _ => Tristate.disjunction_eq, ?_, ?_, ?_⟩
  · rw [evaluate]
    exact exists_evaluateOr_eq_error_iff Tristate.false_ne_true
  · intro before inner after
    exact ⟨evaluate_or_splice before inner after, evaluate_and_splice before after⟩
  · intro rules others same
    exact ⟨toOption_evaluate_and_congr same, fun _ _ => evaluate_or_congr same⟩
  · intro rules notNil decided
    exact ⟨evaluate_not_and notNil decided, evaluate_not_or notNil decided⟩

/-- Someone has a mail address, or no user name. -/
def mailOrUnnamed : List Rule :=
  [.valueCount ⟨"mail", some 1, .none⟩, .not (.valueCount ⟨"uid", some 1, .none⟩)]

/-- The laws hold for two rules that are decided. -/
theorem mailOrUnnamed_laws :
    mailOrUnnamed ≠ [] ∧
      (∀ rule ∈ mailOrUnnamed,
        ∃ outcome, rule.evaluate .blank = .ok outcome ∧ outcome ≠ .fail) ∧
      (∀ rule ∈ mailOrUnnamed, ∃ outcome, rule.evaluate .blank = .ok outcome) ∧
      (or mailOrUnnamed).evaluate .blank =
        (mailOrUnnamed.mapM (evaluate .blank)).map Tristate.disjunction ∧
      (and ([any] ++ [and mailOrUnnamed] ++ [])).evaluate .blank =
        (and ([any] ++ mailOrUnnamed ++ [])).evaluate .blank ∧
      (∀ rule, rule ∈ mailOrUnnamed.reverse ↔ rule ∈ mailOrUnnamed) ∧
      ((and mailOrUnnamed.reverse).evaluate .blank).toOption =
        ((and mailOrUnnamed).evaluate .blank).toOption ∧
      (∃ first second, (or mailOrUnnamed.reverse).evaluate .blank = .ok first ∧
        (or mailOrUnnamed).evaluate .blank = .ok second ∧ first = second) ∧
      (not (and mailOrUnnamed)).evaluate .blank =
        (or (mailOrUnnamed.map not)).evaluate .blank ∧
      (not (or mailOrUnnamed)).evaluate .blank =
        (and (mailOrUnnamed.map not)).evaluate .blank := by
  have notNil : mailOrUnnamed ≠ [] := List.cons_ne_nil _ _
  have decided : ∀ rule ∈ mailOrUnnamed,
      ∃ outcome, rule.evaluate .blank = .ok outcome ∧ outcome ≠ .fail :=
    List.forall_mem_cons.2 ⟨⟨.false, rfl, nofun⟩, List.forall_mem_singleton.2 ⟨.true, rfl, nofun⟩⟩
  have evaluated : ∀ rule ∈ mailOrUnnamed, ∃ outcome, rule.evaluate .blank = .ok outcome :=
    fun rule member => (decided rule member).imp fun _ => And.left
  have same : ∀ rule, rule ∈ mailOrUnnamed.reverse ↔ rule ∈ mailOrUnnamed :=
    fun _ => List.mem_reverse
  obtain ⟨outcomes, _, splice, congr, deMorgan⟩ := evaluate_algebra .blank
  obtain ⟨conjunctions, disjunctions⟩ := congr mailOrUnnamed.reverse mailOrUnnamed same
  exact ⟨notNil, decided, evaluated, (outcomes mailOrUnnamed).2.2.1 evaluated,
    (splice [any] mailOrUnnamed []).2 notNil, same, conjunctions,
    ⟨.true, .true, rfl, rfl, disjunctions .true .true rfl rfl⟩,
    deMorgan mailOrUnnamed notNil decided⟩

/-- A script that cannot be run fails a disjunction only if no rule before it is true. -/
example :
    let broken : Rule := .script ⟨"?", fun _ => .error (.execution "syntax")⟩
    (or [any, broken]).evaluate .blank = .ok .true ∧
      (or [broken, any]).evaluate .blank = .error (.execution "syntax") :=
  ⟨rfl, rfl⟩

end Rule

end AttributeRelease
