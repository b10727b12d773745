import AttributeRelease.Regex.Atom
import Mathlib.Data.Nat.Bitwise

/-!
# Searching finds what expressions span

`Regex.Spans` says which stretches of a text an expression matches; the search works on sets of
positions, as binary numbers. `testBit_reach_iff` says that it goes from a set of positions to just
those where a match ends that begins in the set, and `isIn_iff` that it finds a match exactly if there
is one.

Repetitions without an upper bound are searched for a bounded number of steps. That is enough
because a step either stays where it is or moves forward within the text (`Steps.shorten`).
-/

namespace AttributeRelease.Regex

variable {α β : Type}

/-- Of three parts in a row, the first two or the last two can be taken together. -/
theorem exists_between_assoc {first : α → Prop} {second : α → β → Prop} {third : β → Prop} :
    (∃ middle, (∃ start, first start ∧ second start middle) ∧ third middle) ↔
      ∃ start, first start ∧ ∃ middle, second start middle ∧ third middle := by
  constructor
  · rintro ⟨middle, ⟨start, before, between⟩, after⟩
    exact ⟨start, before, middle, between, after⟩
  · rintro ⟨start, before, middle, between, after⟩
    exact ⟨middle, ⟨start, before, between⟩, after⟩

namespace Steps

variable {step : Nat → Nat → Prop}

/-- No steps lead nowhere else. -/
theorem zero_iff {start stop : Nat} : Steps step 0 start stop ↔ start = stop := by
  constructor
  · rintro ⟨⟩
    rfl
  · rintro rfl
    exact .none

/-- Steps lead somewhere by a first one and the others. -/
theorem succ_iff {count start stop : Nat} :
    Steps step (count + 1) start stop ↔
      ∃ middle, step start middle ∧ Steps step count middle stop := by
  constructor
  · rintro (_ | ⟨first, rest⟩)
    exact ⟨_, first, rest⟩
  · rintro ⟨middle, first, rest⟩
    exact .more first rest

/-- Steps lead somewhere by the first ones and the second ones. -/
theorem add_iff {first second start stop : Nat} :
    Steps step (first + second) start stop ↔
      ∃ middle, Steps step first start middle ∧ Steps step second middle stop := by
  induction first generalizing start with
  | zero => simp [zero_iff]
  | succ first ih =>
    rw [Nat.add_right_comm, succ_iff]
    simp only [ih, succ_iff]
    exact exists_between_assoc.symm

/-- If steps stay or move forward up to a bound, then as many of them are enough as there are
positions up to it: those that stay can be left out. -/
theorem shorten {bound : Nat}
    (forward : ∀ start stop, step start stop → start = stop ∨ start < stop ∧ stop ≤ bound)
    {count start stop : Nat} (steps : Steps step count start stop) :
    ∃ fewer ≤ bound - start, Steps step fewer start stop := by
  induction steps with
  | none => exact ⟨0, Nat.zero_le _, .none⟩
  | more first rest ih =>
    obtain ⟨fewer, few, shorter⟩ := ih
    rcases forward _ _ first with rfl | ⟨further, within⟩
    · exact ⟨fewer, few, shorter⟩
    · exact ⟨fewer + 1, by omega, .more first shorter⟩

/-- A property that a step keeps is kept by any number of steps. -/
theorem keeps {property : Nat → Prop}
    (kept : ∀ start stop, property start → step start stop → property stop)
    {count start stop : Nat} (steps : Steps step count start stop) (holds : property start) :
    property stop := by
  induction steps with
  | none => exact holds
  | more first _ ih => exact ih (kept _ _ holds first)

/-- Steps that stay or move forward up to a bound do so together. -/
theorem forward {bound : Nat}
    (forward : ∀ start stop, step start stop → start = stop ∨ start < stop ∧ stop ≤ bound)
    {count start stop : Nat} (steps : Steps step count start stop) :
    start = stop ∨ start < stop ∧ stop ≤ bound := by
  induction steps with
  | none => exact .inl rfl
  | more first rest ih =>
    have := forward _ _ first
    omega

end Steps

/-! ## Sets of positions -/

/-- A function on sets of positions goes along a relation: from a set it gets to all positions that
are related to a member. -/
def GoesAlong (step : Nat → Nat → Prop) (go : Positions → Positions) : Prop :=
  ∀ set stop, (go set).testBit stop = true ↔ ∃ start, set.testBit start = true ∧ step start stop

/-- A position is in the set if the test passed there. -/
theorem positions_testBit {passes : List Bool} {position : Nat} :
    (positions passes).testBit position = true ↔ passes[position]? = some true := by
  induction passes generalizing position with
  | nil => simp [positions]
  | cons head rest ih =>
    cases position with
    | zero => cases head <;> simp [positions, Nat.testBit_zero, Nat.add_mod]
    | succ position =>
      have half : (2 * positions rest + head.toNat) / 2 = positions rest := by
        have := Bool.toNat_lt head
        rw [Nat.mul_add_div (by decide), Nat.div_eq_of_lt this, Nat.add_zero]
      rw [positions, Nat.testBit_succ, half, ih, List.getElem?_cons_succ]

/-- The positions up to a last one are those that are not behind it. -/
theorem upTo_testBit {last position : Nat} :
    (upTo last).testBit position = true ↔ position ≤ last := by
  unfold upTo
  rw [show Nat.pow 2 (last + 1) = 2 ^ (last + 1) from rfl, Nat.testBit_two_pow_sub_one,
    decide_eq_true_iff, Nat.lt_succ_iff]

/-- A set is not empty exactly if it has a position. -/
theorem ne_zero_iff {set : Positions} :
    (set != 0) = true ↔ ∃ position, set.testBit position = true := by
  rw [bne_iff_ne]
  exact ⟨Nat.exists_testBit_of_ne_zero, by rintro ⟨position, found⟩ rfl; simp at found⟩

namespace GoesAlong

variable {step : Nat → Nat → Prop} {go : Positions → Positions}

/-- To go some times goes along as many steps. -/
theorem stepTimes (along : GoesAlong step go) (count : Nat) :
    GoesAlong (Steps step count) (stepTimes go count) := by
  induction count with
  | zero =>
    intro set stop
    simp [Regex.stepTimes, Steps.zero_iff]
  | succ count ih =>
    intro set stop
    have goes : (Regex.stepTimes go count (go set)).testBit stop = true ↔
        ∃ start, set.testBit start = true ∧ Steps step (count + 1) start stop := by
      rw [ih]
      simp only [along set, Steps.succ_iff]
      exact exists_between_assoc
    have stays : ∀ more, go set = set → Regex.stepTimes go more set = set := by
      intro more same
      cases more with
      | zero => rfl
      | succ more => simp only [Regex.stepTimes, same, if_true]
    simp only [Regex.stepTimes]
    split
    next same => rw [← goes, same, stays count same]
    next => exact goes

/-- Going on from fresh positions only gets to all that is within a number of steps, if what can be
reached in one step from the other positions was found before. -/
theorem closure (along : GoesAlong step go) (count : Nat) {found fresh : Positions}
    (freshFound : ∀ position, fresh.testBit position = true → found.testBit position = true)
    (settled : ∀ start stop, found.testBit start = true → fresh.testBit start = false →
      step start stop → found.testBit stop = true) (stop : Nat) :
    (closure go count found fresh).testBit stop = true ↔
      ∃ start, found.testBit start = true ∧ ∃ fewer ≤ count, Steps step fewer start stop := by
  induction count generalizing found fresh with
  | zero => simp [Regex.closure, Steps.zero_iff]
  | succ count ih =>
    let unseen := go fresh ^^^ (go fresh &&& found)
    have mem_unseen (position : Nat) : unseen.testBit position = true ↔
        (go fresh).testBit position = true ∧ found.testBit position = false := by
      simp only [unseen, Nat.testBit_xor, Nat.testBit_and]
      cases (go fresh).testBit position <;> cases found.testBit position <;> simp
    have mem_both (position : Nat) : (found ||| unseen).testBit position = true ↔
        found.testBit position = true ∨ unseen.testBit position = true := by
      rw [Nat.testBit_or, Bool.or_eq_true]
    -- One step from a position that was found leads to one that is found now.
    have next_found (start stop : Nat) (member : found.testBit start = true)
        (stepped : step start stop) :
        found.testBit stop = true ∨ unseen.testBit stop = true := by
      cases isFresh : fresh.testBit start with
      | false => exact .inl (settled start stop member isFresh stepped)
      | true =>
        cases known : found.testBit stop with
        | true => exact .inl rfl
        | false =>
          have reached := (along fresh stop).2 ⟨start, isFresh, stepped⟩
          exact .inr ((mem_unseen stop).2 ⟨reached, known⟩)
    simp only [Regex.closure]
    split
    next none =>
      have closed (start stop : Nat) (member : found.testBit start = true)
          (stepped : step start stop) : found.testBit stop = true := by
        refine (next_found start stop member stepped).resolve_right ?_
        rw [show unseen = 0 from none, Nat.zero_testBit]
        exact Bool.false_ne_true
      constructor
      · intro member
        exact ⟨stop, member, 0, Nat.zero_le _, .none⟩
      · rintro ⟨start, member, fewer, _, steps⟩
        exact steps.keeps closed member
    next some =>
      rw [ih (fun position member => (mem_both position).2 (.inr member)) ?_]
      · constructor
        · rintro ⟨start, member, fewer, few, steps⟩
          rcases (mem_both start).1 member with known | new
          · exact ⟨start, known, fewer, by omega, steps⟩
          · obtain ⟨origin, isFresh, stepped⟩ := (along fresh start).1 ((mem_unseen start).1 new).1
            exact ⟨origin, freshFound origin isFresh, fewer + 1, by omega, .more stepped steps⟩
        · rintro ⟨start, member, fewer, few, steps⟩
          cases steps with
          | none => exact ⟨stop, (mem_both stop).2 (.inl member), 0, Nat.zero_le _, .none⟩
          | more first rest =>
            exact ⟨_, (mem_both _).2 (next_found _ _ member first), _, by omega, rest⟩
      · intro start stop member notNew stepped
        rcases (mem_both start).1 member with known | new
        · exact (mem_both stop).2 (next_found start stop known stepped)
        · rw [show unseen.testBit start = true from new] at notNew
          cases notNew

end GoesAlong

/-! ## Expressions -/

/-- The character before a position of a text. -/
def before? (text : List Char) : Nat → Option Char
  | 0 => none
  | position + 1 => text[position]?

/-- An atom spans a stretch of a text: one character of its set, or a place where its condition
holds. -/
def Atom.Spans (text : List Char) : Atom → Nat → Nat → Prop
  | one set, start, stop => stop = start + 1 ∧ ∃ c, text[start]? = some c ∧ set.contains c = true
  | look isWord condition, start, stop =>
    stop = start ∧ start ≤ text.length ∧
      condition.holds isWord (before? text start) text[start]? = true

/-- The place at a position has the characters before and behind it. -/
theorem getElem?_places {before : Option Char} {text : List Char} {position : Nat}
    (within : position ≤ text.length) :
    (places before text)[position]? =
      some (if position = 0 then before else before? text position, text[position]?) := by
  induction text generalizing before position with
  | nil =>
    cases Nat.le_zero.1 within
    rfl
  | cons c rest ih =>
    cases position with
    | zero => rfl
    | succ position =>
      rw [places, List.getElem?_cons_succ, ih (Nat.le_of_succ_le_succ within)]
      cases position <;> rfl

/-- A text has one place more than characters. -/
theorem length_places {before : Option Char} {text : List Char} :
    (places before text).length = text.length + 1 := by
  induction text generalizing before with
  | nil => rfl
  | cons c rest ih => rw [places, List.length_cons, ih, List.length_cons]

/-- A set of characters moves from the positions of its characters. -/
theorem Atom.one_move_iff {text : List Char} {set : AttributeRelease.Unicode.CharSet}
    {position : Nat} :
    (positions (text.map set.contains)).testBit position = true ↔
      ∃ c, text[position]? = some c ∧ set.contains c = true := by
  rw [positions_testBit, List.getElem?_map, Option.map_eq_some_iff]

/-- A condition moves from the positions where it holds. -/
theorem Atom.look_move_iff {text : List Char} {isWord : AttributeRelease.Unicode.CharSet}
    {condition : Look} {position : Nat} :
    (positions ((places none text).map fun place =>
      condition.holds isWord place.1 place.2)).testBit position = true ↔
      position ≤ text.length ∧
        condition.holds isWord (before? text position) text[position]? = true := by
  rw [positions_testBit, List.getElem?_map, Option.map_eq_some_iff]
  by_cases within : position ≤ text.length
  · rw [getElem?_places within]
    cases position <;> simp [before?, within]
  · have outside : (places none text)[position]? = none := by
      rw [List.getElem?_eq_none_iff, length_places]
      omega
    simp [outside, within]

variable {text : List Char}

/-- A stretch that is spanned is empty or lies within the text. -/
theorem Spans.forward {regex : Regex Atom} {start stop : Nat}
    (spans : regex.Spans (Atom.Spans text) start stop) :
    start = stop ∨ start < stop ∧ stop ≤ text.length := by
  induction regex generalizing start stop with
  | empty => exact .inl spans
  | atom atom =>
    cases atom with
    | one set =>
      obtain ⟨rfl, c, found, _⟩ := spans
      have := (List.getElem?_eq_some_iff.1 found).1
      omega
    | look isWord condition => exact .inl spans.1.symm
  | seq first second firstIh secondIh =>
    obtain ⟨middle, before, after⟩ := spans
    have := firstIh before
    have := secondIh after
    omega
  | alt left right leftIh rightIh => exact spans.elim leftIh rightIh
  | loop body least most ih =>
    obtain ⟨count, _, _, steps⟩ := spans
    exact Steps.forward (fun _ _ => ih) steps

/-- From a set of positions the search gets to those where matches end that begin in the set. -/
theorem reach_goesAlong (regex : Regex Atom) :
    GoesAlong (regex.Spans (Atom.Spans text)) (reach text.length (regex.map (Atom.move text))) := by
  induction regex with
  | empty =>
    intro set stop
    simp [map, reach, Spans]
  | atom atom =>
    intro set stop
    cases atom with
    | one members =>
      simp only [map, Atom.move, reach, Spans, Atom.Spans, Nat.testBit_shiftLeft, Nat.testBit_and,
        Bool.and_eq_true, decide_eq_true_iff, Atom.one_move_iff]
      constructor
      · rintro ⟨positive, member, passes⟩
        exact ⟨stop - 1, member, by omega, passes⟩
      · rintro ⟨start, member, rfl, passes⟩
        exact ⟨by omega, member, passes⟩
    | look isWord condition =>
      simp only [map, Atom.move, reach, Spans, Atom.Spans, Nat.testBit_and, Bool.and_eq_true,
        Atom.look_move_iff]
      constructor
      · rintro ⟨member, holds⟩
        exact ⟨stop, member, rfl, holds⟩
      · rintro ⟨start, member, rfl, holds⟩
        exact ⟨member, holds⟩
  | seq first second firstIh secondIh =>
    intro set stop
    simp only [map, reach, Spans, secondIh _ stop, firstIh set]
    exact exists_between_assoc
  | alt left right leftIh rightIh =>
    intro set stop
    simp only [map, reach, Spans, Nat.testBit_or, Bool.or_eq_true, leftIh set stop,
      rightIh set stop, and_or_left, exists_or]
  | loop body least most ih =>
    intro set stop
    simp only [map, reach, Spans]
    by_cases reversed : ∃ bound, most = some bound ∧ bound < least
    · obtain ⟨bound, rfl, below⟩ := reversed
      simp only [Option.any_some, below, decide_true, if_true, Nat.zero_testBit,
        Bool.false_eq_true, false_iff]
      rintro ⟨_, _, count, enough, bounded, _⟩
      have := bounded bound rfl
      omega
    · have ordered : ¬ most.any (· < least) = true := by
        simpa [Option.any_eq_true] using reversed
      rw [if_neg ordered, ih.closure _ (fun _ => id)
        (fun _ _ isIn notIn => absurd isIn (by simp [notIn]))]
      simp only [ih.stepTimes least set]
      constructor
      · rintro ⟨middle, ⟨start, member, first⟩, fewer, few, rest⟩
        refine ⟨start, member, least + fewer, Nat.le_add_right _ _, ?_,
          Steps.add_iff.2 ⟨_, first, rest⟩⟩
        rintro bound rfl
        have : ¬ bound < least := fun below => reversed ⟨bound, rfl, below⟩
        dsimp only at few
        omega
      · rintro ⟨start, member, count, enough, bounded, steps⟩
        obtain ⟨more, rfl⟩ := Nat.exists_eq_add_of_le enough
        obtain ⟨middle, first, rest⟩ := Steps.add_iff.1 steps
        refine ⟨middle, ⟨start, member, first⟩, ?_⟩
        cases most with
        | none =>
          obtain ⟨fewer, few, shorter⟩ := rest.shorten fun _ _ => Spans.forward
          exact ⟨fewer, by dsimp only; omega, shorter⟩
        | some bound =>
          have := bounded bound rfl
          exact ⟨more, by dsimp only; omega, rest⟩

/-- Searching finds a match exactly if some stretch of the text is one. -/
theorem isIn_iff {regex : Regex Atom} :
    isIn regex text = true ↔
      ∃ start ≤ text.length, ∃ stop, regex.Spans (Atom.Spans text) start stop := by
  unfold isIn occurs
  rw [ne_zero_iff]
  simp only [reach_goesAlong regex _, upTo_testBit]
  constructor
  · rintro ⟨stop, start, within, spans⟩
    exact ⟨start, within, stop, spans⟩
  · rintro ⟨start, within, stop, spans⟩
    exact ⟨stop, start, within, spans⟩

end AttributeRelease.Regex
