import AttributeRelease.Proofs.Regex.Search
import AttributeRelease.Regex.Normal

/-!
# Sequences of patterns

Putting patterns one after the other joins texts and takes nested sequences apart, so the result
looks different from its parts. `Normal.spans_inSequence_iff` says that it matches the same stretches.
-/

namespace AttributeRelease.Regex

/-- A sequence in two pieces spans what the pieces span one after the other. -/
theorem spans_sequence_append_iff {α : Type} {spans : α → Nat → Nat → Prop}
    {left right : List (Regex α)} {start stop : Nat} :
    (sequence (left ++ right)).Spans spans start stop ↔
      ∃ middle, (sequence left).Spans spans start middle ∧
        (sequence right).Spans spans middle stop := by
  induction left generalizing start with
  | nil => simp [sequence, Spans]
  | cons part rest ih =>
    have cons (others : List (Regex α)) :
        sequence (part :: others) = seq part (sequence others) := rfl
    simp only [List.cons_append, cons, Spans, ih]
    exact exists_between_assoc.symm

namespace Normal

variable {spans : Atom → Nat → Nat → Prop} {start stop : Nat}

/-- Patterns in turn span what the first one and the others span one after the other. -/
theorem spans_inTurn_cons_iff {part : Normal} {rest : List Normal} :
    (regex.inTurn (part :: rest)).Spans spans start stop ↔
      ∃ middle, part.regex.Spans spans start middle ∧
        (regex.inTurn rest).Spans spans middle stop := by
  cases rest with
  | nil => simp [regex.inTurn, Spans]
  | cons => exact Iff.rfl

/-- Patterns in turn may be cut into two pieces. -/
theorem spans_inTurn_append_iff {left right : List Normal} :
    (regex.inTurn (left ++ right)).Spans spans start stop ↔
      ∃ middle, (regex.inTurn left).Spans spans start middle ∧
        (regex.inTurn right).Spans spans middle stop := by
  induction left generalizing start with
  | nil => simp [regex.inTurn, Spans]
  | cons part rest ih =>
    simp only [List.cons_append, spans_inTurn_cons_iff, ih]
    exact exists_between_assoc.symm

/-- A pattern that is put first spans what comes before the others. -/
theorem spans_inTurn_addFirst_iff {part : Normal} {rest : List Normal} :
    (regex.inTurn (addFirst part rest)).Spans spans start stop ↔
      ∃ middle, part.regex.Spans spans start middle ∧
        (regex.inTurn rest).Spans spans middle stop := by
  unfold addFirst
  split
  case h_1 => simp [regex, Spans]
  case h_2 chars others rest =>
    simp only [spans_inTurn_cons_iff, regex, List.map_append, spans_sequence_append_iff]
    exact exists_between_assoc
  case h_3 => exact spans_inTurn_cons_iff

/-- Patterns that are joined span what they do in turn. -/
theorem spans_inTurn_joined_iff {parts : List Normal} :
    (regex.inTurn (parts.foldr addFirst [])).Spans spans start stop ↔
      (regex.inTurn parts).Spans spans start stop := by
  induction parts generalizing start with
  | nil => exact Iff.rfl
  | cons part rest ih =>
    simp only [List.foldr_cons, spans_inTurn_addFirst_iff, spans_inTurn_cons_iff, ih]

/-- A pattern spans what its parts do in turn. -/
theorem spans_inTurn_parts_iff {pattern : Normal} :
    (regex.inTurn pattern.parts).Spans spans start stop ↔ pattern.regex.Spans spans start stop := by
  cases pattern <;> exact Iff.rfl

/-- Patterns in turn span what all of their parts do in turn. -/
theorem spans_inTurn_flatMap_iff {patterns : List Normal} :
    (regex.inTurn (patterns.flatMap parts)).Spans spans start stop ↔
      (regex.inTurn patterns).Spans spans start stop := by
  induction patterns generalizing start with
  | nil => exact Iff.rfl
  | cons pattern rest ih =>
    simp only [List.flatMap_cons, spans_inTurn_append_iff, spans_inTurn_parts_iff,
      spans_inTurn_cons_iff, ih]

/-- A sequence of patterns matches the stretches that they match one after the other. -/
theorem spans_inSequence_iff {patterns : List Normal} :
    (inSequence patterns).regex.Spans spans start stop ↔
      (regex.inTurn patterns).Spans spans start stop := by
  rw [← spans_inTurn_flatMap_iff, ← spans_inTurn_joined_iff]
  unfold inSequence
  split
  next none => rw [none]; exact Iff.rfl
  next part one => rw [one]; exact Iff.rfl
  next => exact Iff.rfl

end Normal

end AttributeRelease.Regex
