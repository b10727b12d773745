import AttributeRelease.Proofs.Regex.Lockstep
import AttributeRelease.Regex.Parser

/-!
# Patterns between marks

Every reader of a part of a pattern reads the same on the pattern alone and on the pattern before
the closing marks, if it can read both. There is one lemma for each reader. Groups are compared for
any two limits on how deep they are nested.
-/

namespace AttributeRelease.Regex.Parser

open Text.Reader

variable {α : Type}

/-- Blanks and comments are skipped alike. -/
theorem skip_alike (extended : Bool) : Alike (skip extended) (skip extended) := by
  unfold skip
  split
  · refine .iterate (fun _ => ?_) ()
    refine .peek (fun found => ?_) ?_
    · split
      · exact .skipWhile (by decide) (.bind (.accept (by decide)) fun _ => .pure _)
      · split
        · exact .bind .next fun _ => .pure _
        · exact .pure _
      · exact .pure _
    · simp [Text.isSpace]
  · exact .pure ()

/-- Blanks and comments within something are skipped alike. -/
theorem skipWithin_alike (extended : Bool) : Alike (skipWithin extended) (skipWithin extended) :=
  (skip_alike extended).bind fun _ => .checkAhead

/-- A value that is given after a check, with what may be skipped before the next part. -/
theorem checkThenSkip_alike (extended condition : Bool) (value : α) :
    Alike (do check condition; skip extended; return value)
      (do check condition; skip extended; return value) :=
  (Alike.check _).bind fun _ => (skip_alike extended).bind fun _ => .pure _

/-- The number of a character is read alike. -/
theorem character_alike (digits : List Char) (isByte : Bool) :
    Alike (character digits isByte) (character digits isByte) := by
  unfold character
  split
  · exact .pure _
  · exact .fail _

/-- A hexadecimal character is read alike. -/
theorem hexadecimal_alike (extended : Bool) (count : Nat) :
    Alike (hexadecimal extended count) (hexadecimal extended count) := by
  unfold hexadecimal
  refine (skipWithin_alike extended).bind fun _ => ?_
  refine (Alike.accept (by decide)).bind fun braced => ?_
  split
  · refine (skip_alike extended).bind fun _ => ?_
    refine (Alike.iterate (fun reversed => ?_) []).bind fun digits => ?_
    · refine Alike.next.bind fun c => ?_
      split
      · exact .pure _
      · exact checkThenSkip_alike _ _ _
    · exact (skip_alike extended).bind fun _ => (Alike.check _).bind fun _ => character_alike _ _
  · refine (Alike.mapM (fun _ => ?_) _).bind fun digits => character_alike _ _
    exact Alike.next.bind fun c => checkThenSkip_alike _ _ _

/-- A set of characters with a property is read alike. -/
theorem propertySet_alike (extended negated : Bool) :
    Alike (propertySet extended negated) (propertySet extended negated) := by
  unfold propertySet
  refine (skipWithin_alike extended).bind fun _ => ?_
  refine (Alike.accept (by decide)).bind fun braced => ?_
  split
  · refine (skip_alike extended).bind fun _ => ?_
    refine (Alike.iterate (fun reversed => ?_) []).bind fun spelling => ?_
    · refine Alike.next.bind fun c => ?_
      split
      · exact .pure _
      · exact (skip_alike extended).bind fun _ => .pure _
    · exact .pure _
  · exact Alike.next.bind fun c => checkThenSkip_alike _ _ _

/-- The boundary of a word is read alike. -/
theorem boundary_alike (extended : Bool) : Alike (boundary extended) (boundary extended) := by
  unfold boundary
  refine .peek (fun found => ?_) rfl
  split
  · refine Alike.bind ?_ fun isWord => ?_
    · refine .ahead ((Alike.expect _).bind fun _ => ?_)
      exact (skipWithin_alike extended).bind fun _ => Alike.next.bind fun _ => .pure _
    · split
      · refine Alike.next.bind fun _ => (skip_alike extended).bind fun _ => ?_
        refine (Alike.iterate (fun reversed => ?_) []).bind fun word => ?_
        · refine Alike.next.bind fun c => ?_
          split
          · exact .pure _
          · exact checkThenSkip_alike _ _ _
        · split
          · exact .pure _
          · exact .fail _
      · exact .pure _
  · exact .pure _

/-- An escape is read alike. -/
theorem escape_alike (extended : Bool) : Alike (escape extended) (escape extended) := by
  unfold escape
  refine Alike.next.bind fun c => ?_
  split
  case h_1 | h_2 | h_3 => exact (hexadecimal_alike _ _).bind fun _ => .pure _
  case h_4 | h_5 => exact propertySet_alike _ _
  case h_20 => exact (boundary_alike _).bind fun _ => .pure _
  case h_24 => exact (Alike.check _).bind fun _ => .pure _
  all_goals exact .pure _

/-- How a named set of ASCII characters is spelled. -/
def asciiSpelling (negated : Bool) (name : String) : List Char :=
  '[' :: ':' :: ((if negated then ['^'] else []) ++ (name.toList ++ [':', ']']))

/-- The names hold neither the signs around them nor a closing mark. -/
theorem asciiNames_plain {name : String} (known : name ∈ asciiNames) {c : Char}
    (member : c ∈ name.toList) : c ≠ '^' ∧ c ≠ ':' ∧ c ≠ ')' := by
  have plain : asciiNames.all (fun name => name.toList.all fun c =>
      c != '^' && (c != ':' && c != ')')) = true := by decide +kernel
  simp only [List.all_eq_true, Bool.and_eq_true, bne_iff_ne] at plain
  exact plain name known c member

/-- What a sign that may negate a set is followed by. -/
theorem pastSign_eq_iff {text rest : List Char} {negated : Bool} :
    pastSign text = (negated, rest) ↔
      text = (if negated then ['^'] else []) ++ rest ∧
        (negated = false → rest.head? ≠ some '^') := by
  unfold pastSign
  split
  next after =>
    cases negated with
    | true => simp
    | false => simp +contextual [eq_comm]
  next unsigned =>
    cases negated with
    | true => simpa using unsigned rest
    | false =>
      rw [Prod.mk.injEq, eq_self, true_and, if_neg Bool.false_ne_true, List.nil_append]
      refine (and_iff_left_of_imp ?_).symm
      rintro rfl - sign
      obtain ⟨after, rfl⟩ := List.head?_eq_some_iff.1 sign
      exact unsigned after rfl

/-- Whether there is a named set of ASCII characters. -/
theorem asciiSet_eq_some_iff {input after : List Char} {item : SetForm} :
    asciiSet input = some (some item, after) ↔ ∃ negated, ∃ name ∈ asciiNames,
      item = .named negated (.ascii name) ∧ input = asciiSpelling negated name ++ after := by
  constructor
  · intro read
    unfold asciiSet at read
    split at read
    next rest =>
      rcases sign : pastSign rest with ⟨negated, text⟩
      obtain ⟨rfl, -⟩ := pastSign_eq_iff.1 sign
      rw [sign] at read
      dsimp only at read
      split at read
      next left =>
        split at read
        next known =>
          cases read
          refine ⟨negated, _, List.contains_iff_mem.1 known, rfl, ?_⟩
          have whole : _ ++ text.dropWhile (· != ':') = text := List.takeWhile_append_dropWhile
          rw [left] at whole
          simp [asciiSpelling, whole]
        next => cases read
      next => cases read
    next => cases read
  · rintro ⟨negated, name, known, rfl, rfl⟩
    have noColon : ∀ c ∈ name.toList, (c != ':') = true := fun c member =>
      bne_iff_ne.2 (asciiNames_plain known member).2.1
    have taken : (name.toList ++ ':' :: ']' :: after).takeWhile (· != ':') = name.toList := by
      rw [List.takeWhile_append_of_pos noColon]
      simp
    have left :
        (name.toList ++ ':' :: ']' :: after).dropWhile (· != ':') = ':' :: ']' :: after := by
      rw [List.dropWhile_append_of_pos noColon]
      simp
    have signed :
        pastSign ((if negated then ['^'] else []) ++ (name.toList ++ ':' :: ']' :: after)) =
          (negated, name.toList ++ ':' :: ']' :: after) := by
      refine pastSign_eq_iff.2 ⟨rfl, fun _ first => ?_⟩
      cases letters : name.toList with
      | nil => simp [letters] at first
      | cons c others =>
        rw [letters, List.cons_append, List.head?_cons, Option.some.injEq] at first
        exact (asciiNames_plain known (letters ▸ List.mem_cons_self)).1 first
    simp [asciiSet, asciiSpelling, signed, taken, left, known]

/-- If no named set of ASCII characters is found, nothing is taken. -/
theorem asciiSet_eq_none {input rest : List Char} (read : asciiSet input = some (none, rest)) :
    rest = input := by
  unfold asciiSet at read
  split at read
  next after =>
    rcases sign : pastSign after with ⟨negated, text⟩
    rw [sign] at read
    dsimp only at read
    split at read
    next =>
      split at read <;> cases read
      rfl
    next =>
      cases read
      rfl
  next =>
    cases read
    rfl

/-- No named set of ASCII characters has the closing mark in its spelling. -/
theorem asciiSpelling_noMark (negated : Bool) {name : String} (known : name ∈ asciiNames) :
    ')' ∉ asciiSpelling negated name := by
  have noMark : ')' ∉ name.toList := fun member => (asciiNames_plain known member).2.2 rfl
  cases negated <;> simp [asciiSpelling, noMark]

/-- Whether there is a named set does not depend on the marks. -/
theorem asciiSet_closed {input closed after : List Char} {item : SetForm}
    (inStep : Closed input closed) (read : asciiSet closed = some (some item, after)) :
    ∃ rest, asciiSet input = some (some item, rest) ∧ Closed rest after := by
  simp only [asciiSet_eq_some_iff] at read ⊢
  obtain ⟨negated, name, known, rfl, rfl⟩ := read
  have spelled := inStep.isPrefixOf_eq (asciiSpelling_noMark negated known)
  rw [List.isPrefixOf_iff_prefix.2 (List.prefix_append _ _), eq_comm,
    List.isPrefixOf_iff_prefix] at spelled
  obtain ⟨rest, rfl⟩ := spelled
  refine ⟨rest, ⟨negated, name, known, rfl, rfl⟩, ?_⟩
  rcases inStep with same | same
  · rw [List.append_assoc, List.append_cancel_left_eq] at same
    exact .inl same
  · exact .inr (List.append_cancel_left same)

/-- A named set of ASCII characters is read alike. -/
theorem asciiSet_alike : Alike asciiSet asciiSet := by
  intro input closed inStep found rest found' rest' read otherRead
  cases found' with
  | some item =>
    obtain ⟨_, alone, restInStep⟩ := asciiSet_closed inStep otherRead
    rw [read] at alone
    cases alone
    exact ⟨rfl, restInStep⟩
  | none =>
    cases asciiSet_eq_none otherRead
    cases found with
    | none =>
      cases asciiSet_eq_none read
      exact ⟨rfl, inStep⟩
    | some item =>
      obtain ⟨negated, name, known, rfl, rfl⟩ := asciiSet_eq_some_iff.1 read
      have here (after : List Char) :=
        asciiSet_eq_some_iff.2 ⟨negated, name, known, rfl, (rfl : _ = _ ++ after)⟩
      rcases inStep with rfl | rfl
      · rw [List.append_assoc, here] at otherRead
        cases otherRead
      · rw [here] at otherRead
        cases otherRead

/-- A single item of a set is read alike. -/
theorem setPrimitive_alike (extended : Bool) :
    Alike (setPrimitive extended) (setPrimitive extended) := by
  unfold setPrimitive
  refine Alike.next.bind fun c => ?_
  split
  · exact escape_alike extended
  · exact .pure _

/-- Behind blanks an input still is as the other one before the closing marks. -/
theorem pastBlanks_closed {text closed : List Char} (inStep : Closed text closed) :
    Closed (pastBlanks text) (pastBlanks closed) := by
  have found : Closed (text.dropWhile Text.isSpace) (closed.dropWhile Text.isSpace) :=
    inStep.dropWhile (by decide)
  unfold pastBlanks
  generalize text.dropWhile Text.isSpace = left, closed.dropWhile Text.isSpace = closedLeft
    at found ⊢
  cases left with
  | nil =>
    rcases found with rfl | rfl
    · exact .inl rfl
    · exact .self []
  | cons c rest =>
    obtain ⟨closedRest, rfl, inside⟩ := Closed.cons_iff.1 found
    by_cases comment : c = '#'
    · subst comment
      exact inside.dropWhile (by decide)
    · simpa [comment] using found

/-- Whether a symbol decides that a hyphen before it stands for itself. -/
def endsRange (found : Option Char) : Bool := found == some ']' || found == some '-'

/-- If nothing is left past the blanks, what comes first is a blank or begins a comment. -/
theorem endsRange_of_pastBlanks {text : List Char} (nothing : pastBlanks text = []) :
    endsRange text.head? = false := by
  cases text with
  | nil => rfl
  | cons c rest =>
    rw [List.head?_cons, endsRange, Bool.or_eq_false_iff, beq_eq_false_iff_ne, beq_eq_false_iff_ne]
    constructor <;>
    · rintro ⟨⟩
      cases nothing

/-- Whether a hyphen stands for itself is decided alike. -/
theorem endsRange_afterHyphen (extended : Bool) {input closed : List Char}
    (inStep : Closed input closed) :
    endsRange (afterHyphen extended closed) = endsRange (afterHyphen extended input) := by
  cases input with
  | nil => rcases inStep with rfl | rfl <;> rfl
  | cons c rest =>
    obtain ⟨closedRest, rfl, inside⟩ := Closed.cons_iff.1 inStep
    by_cases hyphen : c = '-'
    · subst hyphen
      have next : endsRange closedRest.head? = endsRange rest.head? := inside.head?_eq rfl
      cases extended with
      | false => exact next
      | true =>
        have past := pastBlanks_closed inside
        simp only [afterHyphen, if_true]
        cases left : pastBlanks rest with
        | cons d after =>
          rw [left, Closed.cons_iff] at past
          obtain ⟨closedAfter, closedLeft, _⟩ := past
          rw [closedLeft]
          rfl
        | nil =>
          rw [left] at past
          rcases past with closedLeft | closedLeft
          -- The first mark decides here, and without it the blank or sign that led here.
          · rw [closedLeft]
            exact (endsRange_of_pastBlanks left).symm
          · rw [closedLeft]
            exact next
    · simp [afterHyphen, hyphen]

/-- An item of a set is read alike. -/
theorem setItem_alike (extended : Bool) : Alike (setItem extended) (setItem extended) := by
  unfold setItem
  refine (setPrimitive_alike extended).bind fun first => ?_
  refine (skipWithin_alike extended).bind fun _ => ?_
  refine .lookAhead (fun seen => ?_) fun input closed inStep => ?_
  rotate_left
  · have same := endsRange_afterHyphen extended inStep
    rw [endsRange, endsRange] at same
    simp only [same]
  split
  · split
    · exact .pure _
    · exact .pure _
    · exact .fail _
  · refine (Alike.expect _).bind fun _ => (skipWithin_alike extended).bind fun _ => ?_
    refine (setPrimitive_alike extended).bind fun last => ?_
    split
    · exact (Alike.check _).bind fun _ => .pure _
    · exact .fail _

/-- The start of a set is read alike. -/
theorem setStart_alike (extended : Bool) : Alike (setStart extended) (setStart extended) := by
  unfold setStart
  refine (skipWithin_alike extended).bind fun _ => (Alike.accept (by decide)).bind fun negated => ?_
  extract_lets finish
  have finish_alike (started : Unit) : Alike (finish started) (finish started) := by
    refine (Alike.iterate (fun hyphens => ?_) []).bind fun hyphens => ?_
    · refine (Alike.accept (by decide)).bind fun isHyphen => ?_
      split
      · exact (skipWithin_alike extended).bind fun _ => .pure _
      · exact .pure _
    · extract_lets alone
      split
      · refine (Alike.accept (by decide)).bind fun isBracket => ?_
        split
        · exact (skipWithin_alike extended).bind fun _ => .pure _
        · exact .pure _
      · exact .pure _
  split
  · exact (skipWithin_alike extended).bind finish_alike
  · exact finish_alike ()

/-- A count is read alike. -/
theorem count_alike (extended : Bool) : Alike (count extended) (count extended) := by
  unfold count
  refine (Alike.takeWhile (by decide)).bind fun _ => ?_
  refine (Alike.iterate (fun reversed => ?_) []).bind fun digits => ?_
  · refine .peek (fun found => ?_) ?_
    · split
      · split
        · exact Alike.next.bind fun _ => (skip_alike extended).bind fun _ => .pure _
        · exact .pure _
      · exact .pure _
    · simp
  · refine (Alike.takeWhile (by decide)).bind fun _ => (skip_alike extended).bind fun _ => ?_
    exact (Alike.check _).bind fun _ => .pure _

/-- The bounds of a repetition are read alike. -/
theorem bounds_alike (extended : Bool) : Alike (bounds extended) (bounds extended) := by
  unfold bounds
  refine (skipWithin_alike extended).bind fun _ => (count_alike extended).bind fun least => ?_
  refine (Alike.accept (by decide)).bind fun hasMost => ?_
  extract_lets finish
  have finish_alike (most : Option Nat) : Alike (finish most) (finish most) :=
    (Alike.expect _).bind fun _ => checkThenSkip_alike _ _ _
  split
  · refine (skipWithin_alike extended).bind fun _ => .peek (fun found => ?_) rfl
    split
    · exact (Alike.pure _).bind finish_alike
    · exact ((count_alike extended).map some).bind finish_alike
  · exact (Alike.pure _).bind finish_alike

/-- A repetition is read alike. -/
theorem repetition_alike (progress : Progress) (bounds : Nat × Option Nat) :
    Alike (repetition progress bounds) (repetition progress bounds) := by
  unfold repetition
  refine (Alike.accept (by decide)).bind fun isLazy => ?_
  split
  · exact .pure _
  · exact .fail _

/-- The name of a group is read alike. -/
theorem groupName_alike : Alike groupName groupName := by
  unfold groupName
  refine .takeUntil (by decide) fun name => ?_
  split
  · exact (Alike.check _).bind fun _ => .pure _
  · exact .fail _

/-- The switches of a group are read alike. -/
theorem switches_alike : Alike switches switches := by
  unfold switches
  refine (Alike.takeWhile (by decide)).bind fun letters => .checkAheadThen ?_
  extract_lets on off
  split
  · exact (Alike.check _).bind fun _ => .pure _
  · exact .fail _

/-- Switches end at a mark, which is left to be read. -/
theorem ne_nil_of_switches {input : List Char} {value : Switches} {rest : List Char}
    (read : switches input = some (value, rest)) : rest ≠ [] := by
  obtain ⟨letters, after, ⟨⟩, read⟩ := bind_eq_some_iff.1 read
  obtain ⟨_, _, ⟨⟩, read⟩ := bind_eq_some_iff.1 read
  obtain ⟨_, _, checked, read⟩ := bind_eq_some_iff.1 read
  obtain ⟨passed, ⟨⟩⟩ := check_eq_some_iff.1 checked
  generalize List.mapM flag? (List.takeWhile _ _) = on, List.mapM flag? (List.drop 1 _) = off
    at read
  match on, off with
  | some on, some off =>
    obtain ⟨_, _, checked, ⟨⟩⟩ := bind_eq_some_iff.1 read
    obtain ⟨-, ⟨⟩⟩ := check_eq_some_iff.1 checked
    simpa using (Bool.and_eq_true_iff.1 passed).1
  | none, _ | some _, none => cases read

/-- The opening of a group is read alike. -/
theorem opening_alike (extended : Bool) : Alike (opening extended) (opening extended) := by
  unfold opening
  refine (skip_alike extended).bind fun _ => .checkAheadThen ?_
  refine (Alike.acceptAll (by decide)).bind fun isNamed => ?_
  split
  · exact groupName_alike.bind fun _ => .pure _
  refine (Alike.acceptAll (by decide)).bind fun isNamed => ?_
  split
  · exact groupName_alike.bind fun _ => .pure _
  refine (Alike.accept (by decide)).bind fun isSpecial => ?_
  split
  · intro input
    refine Alike.bindAt (switches_alike input) fun switched rest read => ?_
    cases rest with
    | nil => exact absurd rfl (ne_nil_of_switches read)
    | cons c rest =>
    refine Alike.bindAt (Alike.acceptAt _ _ _) fun ends left _ => ?_
    split
    · exact ((Alike.check _).bind fun _ => .pure _) left
    · exact ((Alike.expect _).bind fun _ => .pure _) left
  · exact .pure _

/-- No operation begins with a closing mark. -/
theorem operation?_take_eq {input closed : List Char} (inStep : Closed input closed) :
    operation? (closed.take 2) = operation? (input.take 2) := by
  match input with
  | [] => rcases inStep with rfl | rfl <;> rfl
  | [c] =>
    rcases inStep with rfl | rfl
    · simp [closing, operation?]
    · rfl
  | first :: second :: rest =>
    obtain ⟨closedRest, rfl, restInStep⟩ := Closed.cons_iff.1 inStep
    obtain ⟨_, rfl, _⟩ := Closed.cons_iff.1 restInStep
    rfl

/-- A set is read alike. -/
theorem set_alike (extended : Bool) (depth : Nat) :
    Alike (set extended depth) (set extended depth) := by
  induction depth with
  | zero => exact .fail _
  | succ depth ih =>
    rw [set]
    refine (setStart_alike extended).bind fun ⟨negated, first⟩ => ?_
    refine (Alike.iterate (fun ⟨pending, items⟩ => ?_) _).bind fun inner => .pure _
    refine (skipWithin_alike extended).bind fun _ => .peek (fun found => ?_) rfl
    split
    · refine asciiSet_alike.bind fun found => ?_
      split
      · exact .pure _
      · exact Alike.next.bind fun _ => ih.bind fun _ => .pure _
    · refine (Alike.accept (by decide)).bind fun ends => ?_
      split
      · exact .pure _
      · refine .lookAhead (fun seen => ?_) fun input closed inStep => ?_
        · split
          · exact (Alike.takeExactly 2).bind fun _ => .pure _
          · exact (setItem_alike extended).bind fun _ => .pure _
        · simp only [operation?_take_eq inStep]

/-- A part of an expression is read alike if the bodies of its groups are. -/
theorem part_alike {inner otherInner : Bool → Text.Reader Form}
    (alike : ∀ extended, Alike (inner extended) (otherInner extended)) (progress : Progress) :
    Alike (part inner progress) (part otherInner progress) := by
  unfold part
  refine (skip_alike _).bind fun _ => .peek (fun found => ?_) rfl
  split
  case h_1 | h_2 => exact .pure _
  case h_4 =>
    refine Alike.next.bind fun _ => (opening_alike _).bind fun opened => ?_
    split
    · exact .pure _
    · exact (alike _).bind fun body => (Alike.expect _).bind fun _ => .pure _
  case h_5 => exact Alike.next.bind fun _ => (set_alike _ _).bind fun _ => .pure _
  case h_6 | h_7 | h_8 =>
    exact Alike.next.bind fun _ => (repetition_alike _ _).bind fun _ => .pure _
  case h_9 =>
    refine Alike.next.bind fun _ => (bounds_alike _).bind fun _ => ?_
    exact (repetition_alike _ _).bind fun _ => .pure _
  case h_10 =>
    refine Alike.next.bind fun _ => (escape_alike _).bind fun part => ?_
    split <;> exact .pure _
  all_goals exact Alike.next.bind fun _ => .pure _

/-- The body of a group is read alike, whatever the depths. -/
theorem group_alike (depth otherDepth : Nat) (extended : Bool) :
    Alike (group depth extended) (group otherDepth extended) := by
  induction depth generalizing otherDepth extended with
  | zero => exact .fail _
  | succ depth ih =>
    cases otherDepth with
    | zero => exact .toFail _
    | succ otherDepth =>
      rw [group, group]
      exact (Alike.iterate (part_alike (ih otherDepth)) _).bind fun progress => .pure _

end AttributeRelease.Regex.Parser
