import AttributeRelease.Text.Digit
import AttributeRelease.Text.Reader
import Mathlib.Algebra.Group.Nat.Defs
import Mathlib.Data.List.TakeWhile

/-!
# Reading what was written

A number that is padded with zeros is spelled by its digits. A reader that takes a written text off
the front of a list leaves what stands behind it: `Reader.bind_eq` puts such readers one after the
other.
-/

namespace AttributeRelease.Text

section Digits

variable {chars : List Char} {width number : Nat}

/-- A digit is read as its distance from zero. -/
theorem digit?_of_isDigit {c : Char} (isDigit : c.isDigit = true) :
    digit? c = some (c.toNat - '0'.toNat) := by
  rw [Char.isDigit, Bool.and_eq_true, decide_eq_true_eq, decide_eq_true_eq] at isDigit
  exact if_pos isDigit

/-- A digit stands for less than ten. -/
theorem digit?_lt {c : Char} {digit : Nat} (isDigit : digit? c = some digit) : digit < 10 := by
  rw [digit?] at isDigit
  split at isDigit
  next within =>
    cases isDigit
    have code : c.toNat ≤ 57 := within.2
    change c.toNat - 48 < 10
    omega
  next => cases isDigit

/-- Digits spell the number that they are the digits of. -/
theorem decimal_eq_ofDigitChars (areDigits : ∀ c ∈ chars, c.isDigit = true) :
    decimal chars = Nat.ofDigitChars 10 chars 0 := by
  have numbers : chars.filterMap digit? = chars.map fun c => c.toNat - '0'.toNat := by
    induction chars with
    | nil => rfl
    | cons c rest ih =>
      obtain ⟨isDigit, restDigits⟩ := List.forall_mem_cons.1 areDigits
      rw [List.filterMap_cons_some (digit?_of_isDigit isDigit), ih restDigits, List.map_cons]
  rw [decimal, numbers, ofDigits, List.foldl_map, Nat.ofDigitChars]
  simp only [Nat.mul_comm]

/-- A padded number has nothing but digits. -/
theorem isDigit_of_mem_padded {c : Char} (member : c ∈ padded width number) : c.isDigit = true := by
  rw [padded, List.mem_append, List.mem_replicate] at member
  rcases member with ⟨_, rfl⟩ | isDigit
  · rfl
  · exact Nat.isDigit_of_mem_toDigits (by decide) (by decide) isDigit

/-- A number that is not zero is written without a zero in front. -/
theorem head?_toDigits_ne_zero (notZero : number ≠ 0) :
    (Nat.toDigits 10 number).head? ≠ some '0' := by
  induction number using Nat.strongRecOn with
  | ind number ih =>
    rw [Nat.toDigits_eq_if (by decide)]
    split
    next small =>
      have digits : ∀ digit < 10, digit ≠ 0 → [Nat.digitChar digit].head? ≠ some '0' := by decide
      exact digits number small notZero
    next large =>
      rw [List.head?_append, List.head?_eq_some_head Nat.toDigits_ne_nil, Option.some_or,
        ← List.head?_eq_some_head]
      exact ih (number / 10) (by omega) (by omega)

/-- A padded number is not empty. -/
theorem padded_ne_nil (width number : Nat) : padded width number ≠ [] :=
  List.append_ne_nil_of_right_ne_nil _ Nat.toDigits_ne_nil

/-- A number below a power of ten has as many digits as it is padded to. -/
theorem length_padded (positive : 0 < width) (small : number < 10 ^ width) :
    (padded width number).length = width := by
  have fits := (Nat.length_toDigits_le_iff (by decide) positive).2 small
  rw [padded, List.length_append, List.length_replicate]
  omega

/-- Some characters spell a number with no more digits than there are characters. -/
theorem decimal_lt (chars : List Char) : decimal chars < 10 ^ chars.length := by
  have bound (digits : List Nat) (areDigits : ∀ digit ∈ digits, digit < 10) (start : Nat) :
      digits.foldl (fun number digit => number * 10 + digit) start <
        (start + 1) * 10 ^ digits.length := by
    induction digits generalizing start with
    | nil => simp
    | cons digit rest ih =>
      obtain ⟨isDigit, restDigits⟩ := List.forall_mem_cons.1 areDigits
      refine (ih restDigits _).trans_le ?_
      rw [List.length_cons, Nat.pow_succ', ← Nat.mul_assoc]
      exact Nat.mul_le_mul_right _ (show start * 10 + digit + 1 ≤ (start + 1) * 10 by omega)
  have areDigits : ∀ digit ∈ chars.filterMap digit?, digit < 10 := by
    intro digit member
    obtain ⟨c, -, isDigit⟩ := List.mem_filterMap.1 member
    exact digit?_lt isDigit
  calc decimal chars < (0 + 1) * 10 ^ (chars.filterMap digit?).length := bound _ areDigits 0
    _ ≤ 10 ^ chars.length := by
      rw [Nat.zero_add, Nat.one_mul]
      exact Nat.pow_le_pow_right (by decide) (List.length_filterMap_le _ _)

/-- A padded number is read back. -/
theorem decimal_padded (width number : Nat) : decimal (padded width number) = number := by
  rw [decimal_eq_ofDigitChars fun c => isDigit_of_mem_padded, padded, Nat.ofDigitChars_append,
    Nat.ofDigitChars_replicate_zero, Nat.mul_zero, Nat.ofDigitChars_toDigits (by decide) (by decide)]

end Digits

namespace Reader

variable {τ σ α β : Type} {input rest taken : List τ}

/-- The second of two readers starts where the first one ends. -/
theorem bind_eq {first : ReaderOf τ α} {next : α → ReaderOf τ β} {value : α}
    (isTaken : first input = some (value, rest)) : (first >>= next) input = next value rest := by
  change (first input).bind _ = _
  rw [isTaken]
  rfl

/-- Two readers take what the first takes and then the second. -/
theorem bind_eq_some_iff {first : ReaderOf τ α} {next : α → ReaderOf τ β} {result : β × List τ} :
    (first >>= next) input = some result ↔
      ∃ value rest, first input = some (value, rest) ∧ next value rest = some result :=
  Option.bind_eq_some_iff.trans Prod.exists

/-- A look ahead shows the first symbol and reads nothing. -/
theorem peek?_eq (input : List τ) : peek? input = some (input.head?, input) := rfl

theorem next_eq (symbol : τ) (rest : List τ) : next (symbol :: rest) = some (symbol, rest) := rfl

theorem accept_eq [DecidableEq τ] (wanted : τ) (rest : List τ) :
    accept wanted (wanted :: rest) = some (true, rest) := if_pos rfl

/-- A symbol other than the wanted one is left to be read. -/
theorem accept_of_head?_ne [DecidableEq τ] {wanted : τ} (differs : input.head? ≠ some wanted) :
    accept wanted input = some (false, input) := by
  cases input with
  | nil => rfl
  | cons symbol others => exact if_neg fun same => differs (congrArg some same)

/-- A condition that holds passes its check. -/
theorem check_eq {condition : Bool} (holds : condition = true) (input : List τ) :
    check condition input = some ((), input) := by
  rw [holds]
  rfl

theorem expect_eq [BEq τ] [ReflBEq τ] (expected : τ) (rest : List τ) :
    expect expected (expected :: rest) = some ((), rest) := by
  rw [expect, bind_eq (next_eq expected rest),
    beq_self_eq_true]
  rfl

/-- A run of symbols of a class is taken as a whole if no such symbol follows it. -/
theorem takeWhile_eq {belongs : τ → Bool} (all : ∀ symbol ∈ taken, belongs symbol = true)
    (ends : rest.head?.any belongs = false) :
    takeWhile belongs (taken ++ rest) = some (taken, rest) := by
  have none : rest.takeWhile belongs = [] ∧ rest.dropWhile belongs = rest := by
    cases rest with
    | nil => exact ⟨rfl, rfl⟩
    | cons symbol others => simp_all
  rw [takeWhile, List.takeWhile_append_of_pos all, List.dropWhile_append_of_pos all, none.1, none.2,
    List.append_nil]

/-- Nothing is taken where the first symbol does not belong. -/
theorem takeWhile_eq_nil {belongs : τ → Bool} (ends : input.head?.any belongs = false) :
    takeWhile belongs input = some ([], input) :=
  takeWhile_eq (List.forall_mem_nil _) ends

section Iterate

variable {step : σ → ReaderOf τ (σ ⊕ α)} {state : σ}

/-- A step that goes on takes a symbol off the list that bounds the steps. -/
theorem go_of_inl (after : σ) (rest : List τ)
    (goesOn : step state input = some (.inl after, rest)) (symbol : τ) (bound : List τ) :
    iterate.go step (symbol :: bound) state input = iterate.go step bound after rest := by
  rw [iterate.go, bind_eq goesOn]

/-- A step that gives a result ends a repetition, whatever bounds it. -/
theorem go_of_inr (result : α) (rest : List τ)
    (ends : step state input = some (.inr result, rest)) (bound : List τ) :
    iterate.go step bound state input = some (result, rest) := by
  cases bound <;> rw [iterate.go, bind_eq ends] <;> rfl

/-- An iteration goes on from the state that its first step gives. -/
theorem iterate_of_inl {symbol : τ} {others : List τ} (after : σ) (rest : List τ)
    (goesOn : step state (symbol :: others) = some (.inl after, rest)) :
    iterate step state (symbol :: others) = iterate.go step others after rest :=
  go_of_inl after rest goesOn symbol others

/-- An iteration ends with the result that its first step gives. -/
theorem iterate_of_inr (result : α) (rest : List τ)
    (ends : step state input = some (.inr result, rest)) :
    iterate step state input = some (result, rest) :=
  go_of_inr result rest ends input

/-- There are no more items than symbols in their chunks if no chunk is empty. -/
theorem length_le_flatMap {γ : Type} {chunk : γ → List τ} {items : List γ}
    (notEmpty : ∀ item ∈ items, chunk item ≠ []) : items.length ≤ (items.flatMap chunk).length := by
  induction items with
  | nil => exact Nat.zero_le _
  | cons item items ih =>
    obtain ⟨first, notEmpty⟩ := List.forall_mem_cons.1 notEmpty
    have restEnough := ih notEmpty
    have some := List.length_pos_iff.2 first
    rw [List.flatMap_cons, List.length_append, List.length_cons]
    omega

/-- There is at most one item more than symbols if a mark stands between any two. -/
theorem length_le_intercalate (mark : τ) (before : List τ) (texts : List (List τ)) :
    texts.length ≤ ((mark :: before).intercalate texts).length + 1 := by
  induction texts with
  | nil => exact Nat.zero_le _
  | cons text texts ih =>
    cases texts with
    | nil => simp
    | cons second others =>
      rw [List.intercalate_cons_cons]
      simp only [List.length_append, List.length_cons] at ih ⊢
      omega

/-- A repetition that collects an item a step, each from the chunk of symbols for it, goes on behind
the chunks. -/
theorem iterate_of_chunks {γ κ : Type} {step : List κ → ReaderOf τ (List κ ⊕ α)} {items : List γ}
    (chunk : γ → List τ) (collected : γ → κ) {start : List κ} {behind : List τ} (result : α)
    (rest : List τ)
    (collects : ∀ item ∈ items, ∀ reversed others,
      step reversed (chunk item ++ others) = some (.inl (collected item :: reversed), others))
    (notEmpty : ∀ item ∈ items, chunk item ≠ [])
    (ends : step ((items.map collected).reverse ++ start) behind = some (.inr result, rest)) :
    iterate step start (items.flatMap chunk ++ behind) = some (result, rest) := by
  have goes (bound : List τ) (enough : items.length ≤ bound.length) :
      iterate.go step bound start (items.flatMap chunk ++ behind) = some (result, rest) := by
    induction items generalizing start bound with
    | nil => exact go_of_inr result rest ends bound
    | cons item items ih =>
      obtain ⟨first, collects⟩ := List.forall_mem_cons.1 collects
      cases bound with
      | nil => cases enough
      | cons symbol bound =>
        rw [List.flatMap_cons, List.append_assoc, go_of_inl _ _ (first start _)]
        exact ih collects (List.forall_mem_cons.1 notEmpty).2 (by simpa using ends) bound
          (Nat.le_of_succ_le_succ enough)
  have enough := length_le_flatMap notEmpty
  exact goes _ (by rw [List.length_append]; omega)

/-- A repetition that collects the symbols of a list, one a step, goes on behind the list. -/
theorem iterate_of_collects {step : List τ → ReaderOf τ (List τ ⊕ α)} {start behind : List τ}
    (result : α) (rest : List τ)
    (collects : ∀ symbol ∈ taken, ∀ reversed others,
      step reversed (symbol :: others) = some (.inl (symbol :: reversed), others))
    (ends : step (taken.reverse ++ start) behind = some (.inr result, rest)) :
    iterate step start (taken ++ behind) = some (result, rest) := by
  have chunks := iterate_of_chunks ([·]) id result rest collects
    (fun _ _ => List.cons_ne_nil _ _) (by rwa [List.map_id])
  rwa [List.flatMap_singleton'] at chunks

/-- A repetition that takes items with a mark between them ends behind the last one, if it does not
matter to a step what else stands between two items. -/
theorem iterate_of_separated {γ κ : Type} {step : List κ → ReaderOf τ (List κ ⊕ List κ)}
    (text : γ → List τ) (collected : γ → κ) {mark : τ} {before behind : List τ} {items : List γ}
    (notEmpty : items ≠ []) (rest : List τ)
    (goesOn : ∀ item ∈ items, ∀ lead ∈ [[], before], ∀ reversed others,
      step reversed (lead ++ (text item ++ mark :: others)) =
        some (.inl (collected item :: reversed), others))
    (ends : ∀ item ∈ items, ∀ lead ∈ [[], before], ∀ reversed,
      step reversed (lead ++ (text item ++ behind)) =
        some (.inr (collected item :: reversed), rest)) :
    iterate step [] ((mark :: before).intercalate (items.map text) ++ behind) =
      some ((items.map collected).reverse, rest) := by
  have goes (lead : List τ) (isLead : lead ∈ [[], before]) (reversed : List κ) (bound : List τ)
      (enough : items.length ≤ bound.length + 1) :
      iterate.go step bound reversed
          (lead ++ ((mark :: before).intercalate (items.map text) ++ behind)) =
        some ((items.map collected).reverse ++ reversed, rest) := by
    induction items generalizing lead reversed bound with
    | nil => exact absurd rfl notEmpty
    | cons item items ih =>
      obtain ⟨itemGoesOn, goesOn⟩ := List.forall_mem_cons.1 goesOn
      obtain ⟨itemEnds, ends⟩ := List.forall_mem_cons.1 ends
      cases items with
      | nil =>
        rw [List.map_singleton, List.intercalate_singleton]
        exact go_of_inr _ rest (itemEnds lead isLead reversed) bound
      | cons second others =>
        cases bound with
        | nil => simp at enough
        | cons symbol bound =>
          have goesOnBehind := ih (List.cons_ne_nil _ _) goesOn ends before (by simp)
            (collected item :: reversed) bound (by simpa using enough)
          rw [List.map_cons, List.map_cons, List.intercalate_cons_cons, ← List.map_cons,
            List.append_assoc, List.append_assoc, List.cons_append,
            go_of_inl _ _ (itemGoesOn lead isLead reversed _), goesOnBehind]
          simp
  have enough := length_le_intercalate mark before (items.map text)
  rw [List.length_map] at enough
  rw [← List.append_nil (List.reverse _)]
  refine goes [] (by simp) [] _ ?_
  rw [List.length_append]
  omega

end Iterate

end Reader

end AttributeRelease.Text
