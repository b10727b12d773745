import AttributeRelease.Proofs.Outcome
import AttributeRelease.Rule.Evaluation

/-!
# Conjunctions and disjunctions of rules

A conjunction evaluates all its rules, and a disjunction those up to the first true one. Over outcomes
both are folds: a conjunction fails if one outcome is a failure, and a disjunction is true if one
outcome is truth. What stops a disjunction early is truth, which no later outcome can change, so the
stop can be noticed only by an error that does not happen.
-/

namespace AttributeRelease

open Outcome

namespace Tristate

/-- Outcomes are equal if both are truth or neither is, and both are failures or neither is. -/
theorem ext_true_fail {left right : Tristate} (isTrue : left = .true ↔ right = .true)
    (isFail : left = .fail ↔ right = .fail) : left = right := by
  cases left <;> cases right <;> simp_all

variable {left right : Tristate} {outcomes : List Tristate}

/-- Falsity is not truth. -/
theorem false_ne_true : Tristate.false ≠ .true := nofun

/-- A negation is true exactly of what is neither true nor a failure. -/
theorem not_eq_true_iff : left.not = .true ↔ left ≠ .true ∧ left ≠ .fail := by
  cases left <;> decide

/-- A negation fails exactly if what it negates does. -/
theorem not_eq_fail_iff : left.not = .fail ↔ left = .fail := by
  cases left <;> decide

/-- Negating twice changes nothing. -/
theorem not_not : left.not.not = left := by
  cases left <;> rfl

/-- A disjunction is true exactly if one side is. -/
theorem or_eq_true_iff : left.or right = .true ↔ left = .true ∨ right = .true := by
  cases left <;> cases right <;> decide

/-- A disjunction fails exactly if it is not true and one side fails. -/
theorem or_eq_fail_iff :
    left.or right = .fail ↔ left.or right ≠ .true ∧ (left = .fail ∨ right = .fail) := by
  cases left <;> cases right <;> decide

/-- A conjunction is true exactly if both sides are. -/
theorem and_eq_true_iff : left.and right = .true ↔ left = .true ∧ right = .true := by
  cases left <;> cases right <;> decide

/-- A conjunction fails exactly if one side does. -/
theorem and_eq_fail_iff : left.and right = .fail ↔ left = .fail ∨ right = .fail := by
  cases left <;> cases right <;> decide

/-- The disjunction of several outcomes, all of which are looked at. -/
def disjunction (outcomes : List Tristate) : Tristate := outcomes.foldl .or .false

/-- The conjunction of several outcomes: falsity if there is none. -/
def conjunction : List Tristate → Tristate
  | [] => .false
  | first :: rest => rest.foldl .and first

/-- A disjunction that is under way becomes true exactly if it is so or one outcome is. -/
theorem foldl_or_eq_true_iff {found : Tristate} :
    outcomes.foldl .or found = .true ↔ found = .true ∨ .true ∈ outcomes := by
  induction outcomes generalizing found with
  | nil => simp
  | cons outcome rest ih =>
    rw [List.foldl_cons, ih, or_eq_true_iff, List.mem_cons, or_assoc, eq_comm (a := outcome)]

/-- A disjunction that is under way fails exactly if nothing is true and something fails. -/
theorem foldl_or_eq_fail_iff {found : Tristate} :
    outcomes.foldl .or found = .fail ↔
      (found ≠ .true ∧ .true ∉ outcomes) ∧ (found = .fail ∨ .fail ∈ outcomes) := by
  induction outcomes generalizing found with
  | nil => cases found <;> simp
  | cons outcome rest ih =>
    rw [List.foldl_cons, ih, Ne, or_eq_true_iff, or_eq_fail_iff, Ne, or_eq_true_iff]
    simp only [List.mem_cons, eq_comm (b := outcome)]
    tauto

instance : Std.Associative Tristate.or where
  assoc first second third := by cases first <;> cases second <;> cases third <;> rfl

/-- A disjunction that is under way is what was found or the disjunction of the others. -/
theorem foldl_or_eq_or {found : Tristate} :
    outcomes.foldl .or found = found.or (disjunction outcomes) := by
  have foundFalse : found.or .false = found := by cases found <;> rfl
  have folded : outcomes.foldl or (found.or .false) = found.or (disjunction outcomes) :=
    List.foldl_assoc
  rwa [foundFalse] at folded

/-- The disjunction of outcomes is true exactly if one of them is. -/
theorem disjunction_eq_true_iff : disjunction outcomes = .true ↔ .true ∈ outcomes := by
  simp [disjunction, foldl_or_eq_true_iff]

/-- The disjunction of outcomes fails exactly if none is true and one fails. -/
theorem disjunction_eq_fail_iff :
    disjunction outcomes = .fail ↔ .true ∉ outcomes ∧ .fail ∈ outcomes := by
  simp [disjunction, foldl_or_eq_fail_iff]

/-- Truth beats failure, and failure beats falsity. -/
theorem disjunction_eq :
    disjunction outcomes =
      if .true ∈ outcomes then .true else if .fail ∈ outcomes then .fail else .false := by
  apply ext_true_fail
  · rw [disjunction_eq_true_iff]
    split_ifs <;> simp_all
  · rw [disjunction_eq_fail_iff]
    split_ifs <;> simp_all

/-- A conjunction that is under way becomes true exactly if it is so and all outcomes are. -/
theorem foldl_and_eq_true_iff {found : Tristate} :
    outcomes.foldl .and found = .true ↔ found = .true ∧ ∀ outcome ∈ outcomes, outcome = .true := by
  induction outcomes generalizing found with
  | nil => simp
  | cons outcome rest ih =>
    rw [List.foldl_cons, ih, and_eq_true_iff, List.forall_mem_cons, and_assoc]

/-- A conjunction that is under way fails exactly if it does so already or one outcome fails. -/
theorem foldl_and_eq_fail_iff {found : Tristate} :
    outcomes.foldl .and found = .fail ↔ found = .fail ∨ .fail ∈ outcomes := by
  induction outcomes generalizing found with
  | nil => simp
  | cons outcome rest ih =>
    rw [List.foldl_cons, ih, and_eq_fail_iff, List.mem_cons, or_assoc, eq_comm (a := outcome)]

/-- The conjunction of outcomes is true exactly if there are some and all are true. -/
theorem conjunction_eq_true_iff :
    conjunction outcomes = .true ↔ outcomes ≠ [] ∧ ∀ outcome ∈ outcomes, outcome = .true := by
  cases outcomes with
  | nil => simp [conjunction]
  | cons first rest => simp [conjunction, foldl_and_eq_true_iff]

/-- The conjunction of outcomes fails exactly if one of them does. -/
theorem conjunction_eq_fail_iff : conjunction outcomes = .fail ↔ .fail ∈ outcomes := by
  cases outcomes with
  | nil => simp [conjunction]
  | cons first rest =>
    rw [conjunction, foldl_and_eq_fail_iff, List.mem_cons, eq_comm (a := first)]

end Tristate

variable {request : Request} {rules : List Rule} {found : Tristate}

section EvaluateAnd

/-- A conjunction that is under way evaluates all of its rules and then combines the outcomes. -/
theorem evaluateAndWith_eq (found : Tristate) (rules : List Rule) :
    evaluateAndWith request found rules =
      (rules.mapM (Rule.evaluate request)).map (List.foldl .and found) := by
  induction rules generalizing found with
  | nil => rfl
  | cons rule rest ih =>
    rw [evaluateAndWith, List.mapM_cons]
    simp only [ih]
    cases rule.evaluate request with
    | error e => rfl
    | ok outcome => cases rest.mapM (Rule.evaluate request) <;> rfl

/-- A conjunction evaluates all its rules. -/
theorem evaluateAnd_eq (rules : List Rule) :
    evaluateAnd request rules =
      (rules.mapM (Rule.evaluate request)).map Tristate.conjunction := by
  cases rules with
  | nil => rfl
  | cons rule rest =>
    rw [evaluateAnd, List.mapM_cons]
    simp only [evaluateAndWith_eq]
    cases rule.evaluate request with
    | error e => rfl
    | ok outcome => cases rest.mapM (Rule.evaluate request) <;> rfl

end EvaluateAnd

section EvaluateOr

variable {rule : Rule} {rest : List Rule} {outcome : Tristate} {e : ScriptError}

/-- The rules of a disjunction that are evaluated: up to the first that is true or is an error. -/
def Rule.reached (request : Request) : List Rule → List Rule
  | [] => []
  | rule :: rest =>
    match rule.evaluate request with
    | .ok .true | .error _ => [rule]
    | .ok _ => rule :: Rule.reached request rest

/-- What a disjunction makes of one of its rules depends on which of these is the case. -/
theorem Rule.evaluate_cases (request : Request) (rule : Rule) :
    (∃ e, rule.evaluate request = .error e) ∨ rule.evaluate request = .ok .true ∨
      ∃ outcome, rule.evaluate request = .ok outcome ∧ outcome ≠ .true := by
  cases rule.evaluate request with
  | error e => exact .inl ⟨e, rfl⟩
  | ok outcome =>
    by_cases isTrue : outcome = .true
    · exact .inr (.inl (congrArg Except.ok isTrue))
    · exact .inr (.inr ⟨outcome, rfl, isTrue⟩)

/-- A disjunction stops at an error. -/
theorem evaluateOr_cons_of_error (failed : rule.evaluate request = .error e) :
    evaluateOr request found (rule :: rest) = .error e := by
  rw [evaluateOr, failed, error_bind]

/-- A disjunction stops at a rule that is true. -/
theorem evaluateOr_cons_of_true (isTrue : rule.evaluate request = .ok .true) :
    evaluateOr request found (rule :: rest) = .ok .true := by
  rw [evaluateOr, isTrue, ok_bind]
  cases found <;> rfl

/-- A disjunction goes on with what it found while that is not true. -/
theorem evaluateOr_cons_of_undecided (evaluated : rule.evaluate request = .ok outcome)
    (undecided : found.or outcome ≠ .true) :
    evaluateOr request found (rule :: rest) = evaluateOr request (found.or outcome) rest := by
  rw [evaluateOr, evaluated, ok_bind]
  exact if_neg (by simpa [Tristate.isTrue] using undecided)

/-- Behind a rule that is not true the next ones are reached. -/
theorem reached_cons_of_undecided (evaluated : rule.evaluate request = .ok outcome)
    (notTrue : outcome ≠ .true) :
    Rule.reached request (rule :: rest) = rule :: Rule.reached request rest := by
  cases outcome with
  | true => exact absurd rfl notTrue
  | false | fail => simp [Rule.reached, evaluated]

/-- Two outcomes of which none is true have no true disjunction. -/
theorem or_ne_true (undecided : found ≠ .true) (notTrue : outcome ≠ .true) :
    found.or outcome ≠ .true := by
  rw [Ne, Tristate.or_eq_true_iff]
  exact not_or.2 ⟨undecided, notTrue⟩

/-- A disjunction is the disjunction of the outcomes of its rules that are evaluated. -/
theorem evaluateOr_eq_reached (undecided : found ≠ .true) :
    evaluateOr request found rules =
      ((Rule.reached request rules).mapM (Rule.evaluate request)).map (List.foldl .or found) := by
  induction rules generalizing found with
  | nil => rfl
  | cons rule rest ih =>
    rcases rule.evaluate_cases request with ⟨e, failed⟩ | isTrue | ⟨outcome, evaluated, notTrue⟩
    · simp [evaluateOr_cons_of_error, Rule.reached, failed, Except.map]
    · have together : found.or .true = .true := Tristate.or_eq_true_iff.2 (.inr rfl)
      simp [evaluateOr_cons_of_true, Rule.reached, isTrue, Except.map, together]
    · have together := or_ne_true undecided notTrue
      rw [evaluateOr_cons_of_undecided evaluated together, ih together,
        reached_cons_of_undecided evaluated notTrue, List.mapM_cons, evaluated, ok_bind]
      cases (Rule.reached request rest).mapM (Rule.evaluate request) <;> rfl

/-- What was found before comes in at the end of a disjunction. -/
theorem evaluateOr_eq_or (undecided : found ≠ .true) (rules : List Rule) :
    evaluateOr request found rules = (evaluateOr request .false rules).map found.or := by
  rw [evaluateOr_eq_reached undecided, evaluateOr_eq_reached Tristate.false_ne_true]
  cases (Rule.reached request rules).mapM (Rule.evaluate request) with
  | error e => rfl
  | ok outcomes => exact congrArg Except.ok Tristate.foldl_or_eq_or

/-- The rules of a second list are evaluated if none of the first list is true. -/
theorem evaluateOr_append (undecided : found ≠ .true) (before after : List Rule) :
    evaluateOr request found (before ++ after) =
      evaluateOr request found before >>= fun outcome =>
        if outcome = .true then .ok outcome else evaluateOr request outcome after := by
  induction before generalizing found with
  | nil => exact (if_neg undecided).symm
  | cons rule rest ih =>
    rw [List.cons_append]
    rcases rule.evaluate_cases request with ⟨e, failed⟩ | isTrue | ⟨outcome, evaluated, notTrue⟩
    · rw [evaluateOr_cons_of_error failed, evaluateOr_cons_of_error failed, error_bind]
    · rw [evaluateOr_cons_of_true isTrue, evaluateOr_cons_of_true isTrue, ok_bind, if_pos rfl]
    · have together := or_ne_true undecided notTrue
      rw [evaluateOr_cons_of_undecided evaluated together,
        evaluateOr_cons_of_undecided evaluated together, ih together]

/-- Where a disjunction has an outcome, it is true if one of its rules is, and else a failure if one
of them is, though rules after a true one are not evaluated. -/
theorem evaluateOr_outcome (undecided : found ≠ .true)
    (evaluatedAll : evaluateOr request found rules = .ok outcome) :
    (outcome = .true ↔ ∃ rule ∈ rules, rule.evaluate request = .ok .true) ∧
      (outcome = .fail ↔ (∀ rule ∈ rules, rule.evaluate request ≠ .ok .true) ∧
        (found = .fail ∨ ∃ rule ∈ rules, rule.evaluate request = .ok .fail)) := by
  induction rules generalizing found with
  | nil =>
    rw [evaluateOr, Except.ok.injEq] at evaluatedAll
    subst evaluatedAll
    simp [undecided]
  | cons rule rest ih =>
    rcases rule.evaluate_cases request with ⟨e, failed⟩ | isTrue | ⟨first, evaluated, notTrue⟩
    · rw [evaluateOr_cons_of_error failed] at evaluatedAll
      cases evaluatedAll
    · rw [evaluateOr_cons_of_true isTrue, Except.ok.injEq] at evaluatedAll
      simp [← evaluatedAll, isTrue]
    · have together := or_ne_true undecided notTrue
      rw [evaluateOr_cons_of_undecided evaluated together] at evaluatedAll
      obtain ⟨trueIff, failIff⟩ := ih together evaluatedAll
      rw [trueIff, failIff, Tristate.or_eq_fail_iff, and_iff_right together]
      simp [evaluated, notTrue, or_assoc]

/-- No rule before one that is evaluated is true. -/
theorem exists_append_of_mem_reached (member : rule ∈ Rule.reached request rules) :
    ∃ before after, rules = before ++ rule :: after ∧
      ∀ earlier ∈ before, earlier.evaluate request ≠ .ok .true := by
  induction rules with
  | nil => cases member
  | cons head rest ih =>
    by_cases isHead : rule = head
    · exact ⟨[], rest, by simp [isHead], by simp⟩
    · -- A rule after the first is evaluated only if that one leaves it open.
      rcases head.evaluate_cases request with ⟨e, failed⟩ | isTrue | ⟨outcome, evaluated, notTrue⟩
      · simp [Rule.reached, failed, isHead] at member
      · simp [Rule.reached, isTrue, isHead] at member
      · rw [reached_cons_of_undecided evaluated notTrue] at member
        obtain ⟨before, after, split, noneTrue⟩ :=
          ih ((List.mem_cons.1 member).resolve_left isHead)
        refine ⟨head :: before, after, by rw [split, List.cons_append], ?_⟩
        exact List.forall_mem_cons.2 ⟨by simpa [evaluated] using notTrue, noneTrue⟩

/-- A disjunction fails if one of its rules does and none before that one is true. -/
theorem exists_evaluateOr_eq_error_iff (undecided : found ≠ .true) :
    (∃ e, evaluateOr request found rules = .error e) ↔
      ∃ before rule after, rules = before ++ rule :: after ∧
        (∃ e, rule.evaluate request = .error e) ∧
        ∀ earlier ∈ before, earlier.evaluate request ≠ .ok .true := by
  constructor
  · rintro ⟨e, failed⟩
    rw [evaluateOr_eq_reached undecided, map_eq_error_iff] at failed
    obtain ⟨rule, member, ruleFailed⟩ := exists_error_of_mapM_eq_error failed
    obtain ⟨before, after, split, noneTrue⟩ := exists_append_of_mem_reached member
    exact ⟨before, rule, after, split, ⟨e, ruleFailed⟩, noneTrue⟩
  · rintro ⟨before, rule, after, rfl, ⟨e, ruleFailed⟩, noneTrue⟩
    rw [evaluateOr_append undecided]
    cases evaluated : evaluateOr request found before with
    | error cause => exact ⟨cause, rfl⟩
    | ok outcome =>
      have notTrue : outcome ≠ .true := by
        rw [Ne, (evaluateOr_outcome undecided evaluated).1]
        push Not
        exact noneTrue
      rw [ok_bind, if_neg notTrue, evaluateOr_cons_of_error ruleFailed]
      exact ⟨e, rfl⟩

end EvaluateOr

namespace Rule

/-- A conjunction comes to the conjunction of the outcomes of its rules. -/
theorem evaluate_and (rules : List Rule) :
    (and rules).evaluate request = (rules.mapM (evaluate request)).map Tristate.conjunction := by
  rw [evaluate, evaluateAnd_eq]

/-- A conjunction whose rules have outcomes has the conjunction of these. -/
theorem evaluate_and_of_outcomes {outcomes : List Tristate}
    (evaluated : rules.mapM (evaluate request) = .ok outcomes) :
    (and rules).evaluate request = .ok (Tristate.conjunction outcomes) := by
  rw [evaluate_and, evaluated]
  rfl

/-- A disjunction comes to the disjunction of the outcomes of those rules that are reached. -/
theorem evaluate_or_reached (rules : List Rule) :
    (or rules).evaluate request =
      ((reached request rules).mapM (evaluate request)).map Tristate.disjunction := by
  rw [evaluate, evaluateOr_eq_reached Tristate.false_ne_true]
  rfl

/-- A conjunction is an error exactly if one of its rules is. -/
theorem exists_evaluate_and_eq_error_iff (rules : List Rule) :
    (∃ e, (and rules).evaluate request = .error e) ↔
      ∃ rule ∈ rules, ∃ e, rule.evaluate request = .error e := by
  simp only [evaluate_and, map_eq_error_iff, exists_mapM_eq_error_iff]

/-- Rules that are not evaluated can be noticed only by an error. -/
theorem evaluate_or_of_outcomes {outcomes : List Tristate}
    (evaluated : rules.mapM (evaluate request) = .ok outcomes) :
    (or rules).evaluate request = .ok (Tristate.disjunction outcomes) := by
  rw [evaluate]
  cases evaluatedOr : evaluateOr request .false rules with
  | error e =>
    obtain ⟨before, rule, after, rfl, failed, _⟩ :=
      (exists_evaluateOr_eq_error_iff Tristate.false_ne_true).1 ⟨e, evaluatedOr⟩
    have member : rule ∈ before ++ rule :: after := by simp
    obtain ⟨cause, allFailed⟩ := exists_mapM_eq_error_iff.2 ⟨rule, member, failed⟩
    cases allFailed.symm.trans evaluated
  | ok outcome =>
    obtain ⟨trueIff, failIff⟩ := evaluateOr_outcome Tristate.false_ne_true evaluatedOr
    refine congrArg Except.ok (Tristate.ext_true_fail ?_ ?_)
    · rw [trueIff, Tristate.disjunction_eq_true_iff, mem_results_iff evaluated]
    · rw [failIff, Tristate.disjunction_eq_fail_iff, mem_results_iff evaluated,
        mem_results_iff evaluated]
      simp

/-- Where no rule is an error a disjunction may look at all of them. -/
theorem evaluate_or_of_decided
    (decided : ∀ rule ∈ rules, ∃ outcome, rule.evaluate request = .ok outcome) :
    (or rules).evaluate request = (rules.mapM (evaluate request)).map Tristate.disjunction := by
  obtain ⟨outcomes, evaluated⟩ := exists_mapM_eq_ok_iff.2 decided
  rw [evaluate_or_of_outcomes evaluated, evaluated]
  rfl

end Rule

end AttributeRelease
