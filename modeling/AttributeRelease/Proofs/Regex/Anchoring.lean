import AttributeRelease.Proofs.Outcome
import AttributeRelease.Proofs.Regex.Enclosure
import AttributeRelease.Proofs.Regex.Search
import AttributeRelease.Proofs.Regex.Sequence
import AttributeRelease.Rule.StringMatch

/-!
# Patterns that have to match all of a candidate

The text of a pattern is put between marks for the start and the end of a candidate, and the whole
is read as one pattern. A pattern that can be read without the marks is one group between them, so it
has to match all of a candidate. A pattern that cannot may close that group itself, and then the
marks do not hold for all of it.
-/

namespace AttributeRelease

namespace Regex

open Text.Reader

namespace Parser

variable {inner : Bool → Text.Reader Form}

/-- A circumflex is read as the start of a line. -/
theorem part_lineStart {parts : List Form} {branches : List Form} {rest : List Char} :
    part inner ⟨false, parts, branches⟩ ('^' :: rest) =
      some (.inl ⟨false, .assertion .lineStart :: parts, branches⟩, rest) := rfl

/-- A dollar sign is read as the end of a line. -/
theorem part_lineEnd {parts : List Form} {branches : List Form} {rest : List Char} :
    part inner ⟨false, parts, branches⟩ ('$' :: rest) =
      some (.inl ⟨false, .assertion .lineEnd :: parts, branches⟩, rest) := rfl

/-- A plain group is read as its body up to the closing mark. -/
theorem part_plainGroup {parts : List Form} {branches : List Form} {rest : List Char} :
    part inner ⟨false, parts, branches⟩ ('(' :: '?' :: ':' :: rest) =
      (inner false >>= fun body => expect ')' >>= fun _ =>
        pure (.inl ⟨false, .group (.plain []) body :: parts, branches⟩)) rest := rfl

/-- A pattern that can be read alone is one group when it is read between the marks. -/
theorem group_anchored {text : List Char} {body form : Form} {ownDepth depth : Nat}
    (alone : group ownDepth false text = some (body, []))
    (read : group (depth + 1) false (['^', '(', '?', ':'] ++ text ++ closing) = some (form, [])) :
    form = .concatenation
      [.assertion .lineStart, .group (.plain []) body, .assertion .lineEnd] := by
  rw [group] at read
  obtain ⟨progress, _, steps, ⟨⟩⟩ := bind_eq_some_iff.1 read
  obtain ⟨_, _, stepped, steps⟩ | stepped := go_cons_eq_some_iff.1 steps
  case inr => cases stepped
  cases part_lineStart.symm.trans stepped
  obtain ⟨_, _, stepped, steps⟩ | stepped := go_cons_eq_some_iff.1 steps
  case inr =>
    obtain ⟨_, _, _, stepped⟩ := bind_eq_some_iff.1 (part_plainGroup.symm.trans stepped)
    obtain ⟨_, _, _, ⟨⟩⟩ := bind_eq_some_iff.1 stepped
  obtain ⟨_, _, inside, stepped⟩ := bind_eq_some_iff.1 (part_plainGroup.symm.trans stepped)
  obtain ⟨rfl, left⟩ := group_alike ownDepth depth false _ _ (.inl rfl) _ _ _ _ alone inside
  -- A comment that runs over the marks leaves no parenthesis.
  rcases left with rfl | rfl
  case inr => cases stepped
  cases stepped
  obtain ⟨_, _, stepped, steps⟩ | stepped := go_cons_eq_some_iff.1 steps
  case inr => cases stepped
  cases part_lineEnd.symm.trans stepped
  obtain ⟨_, _, stepped, steps⟩ | stepped := go_cons_eq_some_iff.1 steps
  case inl => cases stepped
  cases stepped
  rfl

/-- A text that is read as an expression is read as the body of a group one level deeper. -/
theorem group_of_read? {text : String} {form : Form} (read : read? text = some form) :
    group (depthLimit + 1) false text.toList = some (form, []) := by
  simp only [read?, Option.bind_eq_bind, Option.bind_eq_some_iff] at read
  obtain ⟨form', whole, read⟩ := read
  have taken : group (depthLimit + 1) false text.toList = some (form', []) := by
    unfold whole? wholeOf? at whole
    split at whole
    next taken =>
      cases whole
      exact taken
    next => cases whole
  split at read
  next =>
    cases read
    exact taken
  next => cases read

/-- A pattern that is one alone is one group between the marks. -/
theorem read?_anchored {text : String} {form whole : Form} (alone : read? text = some form)
    (read : read? (StringMatch.anchored text) = some whole) :
    whole =
      .concatenation [.assertion .lineStart, .group (.plain []) form, .assertion .lineEnd] := by
  have marked :
      (StringMatch.anchored text).toList = ['^', '(', '?', ':'] ++ text.toList ++ closing := by
    rw [StringMatch.anchored, String.toList_append, String.toList_append]
    rfl
  have together := group_of_read? read
  rw [marked] at together
  exact group_anchored (group_of_read? alone) together

end Parser

/-- The expression that the text of a pattern denotes, however large its automata are. -/
def denoted? (text : String) : Option (Regex Atom) := do
  let form ← Parser.read? text
  let (normal, _) ← form.meaning? Settings.initial
  return normal.regex

/-- A text denotes an expression exactly if it is read as a form that means this one. -/
theorem denoted?_eq_some_iff {text : String} {regex : Regex Atom} :
    denoted? text = some regex ↔ ∃ form normal settings, Parser.read? text = some form ∧
      form.meaning? Settings.initial = some (normal, settings) ∧ regex = normal.regex := by
  simp only [denoted?, Option.bind_eq_bind, Option.bind_eq_some_iff, Prod.exists, Option.pure_def,
    Option.some.injEq]
  constructor
  · rintro ⟨form, read, normal, settings, meant, rfl⟩
    exact ⟨form, normal, settings, read, meant, rfl⟩
  · rintro ⟨form, normal, settings, read, meant, rfl⟩
    exact ⟨form, read, normal, settings, meant, rfl⟩

namespace Pattern

/-- A pattern keeps the text that it comes from. -/
theorem text_of_ofText? {text : String} {pattern : Pattern}
    (found : ofText? text = some pattern) : pattern.text = text := by
  unfold ofText? at found
  split at found <;> cases found
  rfl

end Pattern

/-- A text that becomes an expression denotes it. -/
theorem denoted?_of_ofText? {text : String} {regex : Regex Atom}
    (known : ofText? text = some regex) : denoted? text = some regex := by
  simp only [ofText?, Option.bind_eq_bind, Option.bind_eq_some_iff] at known
  obtain ⟨form, read, ⟨normal, settings⟩, meant, known⟩ := known
  split at known
  next =>
    cases known
    exact denoted?_eq_some_iff.2 ⟨form, normal, settings, read, meant, rfl⟩
  next => cases known

/-- The group between the marks means what the form alone does, and does not change the settings
for what follows. -/
theorem meaning?_anchored {form : Form} :
    (Form.concatenation [.assertion .lineStart, .group (.plain []) form,
      .assertion .lineEnd]).meaning? Settings.initial =
        (form.meaning? Settings.initial).map fun (normal, _) =>
          (.inSequence [.look true .textStart, normal, .look true .textEnd], Settings.initial) := by
  cases meant : form.meaning? Settings.initial with
  | none =>
    simp [Form.meaning?, Form.meaning?.meanings?, GroupKind.switches, Settings.switchAll, meant]
  | some result =>
    simp [Form.meaning?, Form.meaning?.meanings?, GroupKind.switches, Settings.switchAll, meant]
    rfl

variable {text : List Char} {isWord : Unicode.CharSet} {start stop : Nat}

/-- The start of the text is spanned at the first position. -/
theorem spans_textStart_iff :
    Atom.Spans text (.look isWord .textStart) start stop ↔ stop = start ∧ start = 0 := by
  cases start with
  | zero => simp [Atom.Spans, Look.holds, before?]
  | succ position =>
    simp only [Atom.Spans, Look.holds, before?, Option.isNone_iff_eq_none, Nat.add_one_ne_zero,
      and_false, iff_false, not_and, List.getElem?_eq_none_iff]
    omega

/-- The end of the text is spanned at the last position. -/
theorem spans_textEnd_iff :
    Atom.Spans text (.look isWord .textEnd) start stop ↔ stop = start ∧ start = text.length := by
  simp only [Atom.Spans, Look.holds, Option.isNone_iff_eq_none, List.getElem?_eq_none_iff]
  omega

/-- Between conditions on the start and on the end of a text, an expression is found in the text if
it matches all of it. -/
theorem isIn_anchored_iff {normal : Normal} :
    isIn (Normal.inSequence [.look true .textStart, normal, .look true .textEnd]).regex text = true ↔
      normal.regex.Spans (Atom.Spans text) 0 text.length := by
  simp only [isIn_iff, Normal.spans_inSequence_iff, Normal.regex.inTurn, Spans, Normal.regex,
    spans_textStart_iff, spans_textEnd_iff]
  constructor
  · rintro ⟨_, _, _, _, ⟨rfl, rfl⟩, _, spans, rfl, rfl⟩
    exact spans
  · intro spans
    exact ⟨0, Nat.zero_le _, _, 0, ⟨rfl, rfl⟩, _, spans, rfl, rfl⟩

end Regex

namespace StringMatch

open Regex (Atom)

/-- A compiled comparison has the pattern of the trimmed text between anchors. -/
theorem exists_known_of_ofPattern {text : String} {test : StringMatch}
    (compiled : ofPattern text = .ok test) :
    ∃ known, Regex.Pattern.ofText? (anchored (Text.trim text)) = some known ∧
      test = .pattern known := by
  unfold ofPattern at compiled
  dsimp only at compiled
  split at compiled
  next => cases compiled
  next =>
    split at compiled
    next known found =>
      cases compiled
      exact ⟨known, found, rfl⟩
    next => cases compiled

/-- A comparison with a pattern that can be read without the marks passes a candidate exactly if the
pattern matches all of the candidate. -/
theorem accepts_iff_spans_all {text : String} {form : Regex.Form} {test : StringMatch}
    (compiled : ofPattern text = .ok test)
    (read : Regex.Parser.read? (Text.trim text) = some form) :
    ∃ regex, Regex.denoted? (Text.trim text) = some regex ∧ ∀ candidate,
      test.accepts candidate = true ↔
        regex.Spans (Atom.Spans candidate.toList) 0 candidate.toList.length := by
  obtain ⟨known, found, rfl⟩ := exists_known_of_ofPattern compiled
  have denotes := known.denotes
  rw [Regex.Pattern.text_of_ofText? found] at denotes
  obtain ⟨whole, _, _, readWhole, meant, meansKnown⟩ :=
    Regex.denoted?_eq_some_iff.1 (Regex.denoted?_of_ofText? denotes)
  cases Regex.Parser.read?_anchored read readWhole
  rw [Regex.meaning?_anchored, Option.map_eq_some_iff] at meant
  obtain ⟨⟨normal, settings⟩, meantAlone, ⟨⟩⟩ := meant
  refine ⟨normal.regex, Regex.denoted?_eq_some_iff.2 ⟨_, _, _, read, meantAlone, rfl⟩, ?_⟩
  intro candidate
  rw [accepts, Regex.Pattern.isIn, meansKnown]
  exact Regex.isIn_anchored_iff

/-- Of two words side by side each passes, but not with anything after it. -/
theorem staffOrStudent_accepts_iff : ∃ test regex, ofPattern " staff|student " = .ok test ∧
    Regex.denoted? (Text.trim " staff|student ") = some regex ∧
    (test.accepts "staff" && test.accepts "student" && !test.accepts "staffing") = true ∧
    ∀ candidate, test.accepts candidate = true ↔
      regex.Spans (Atom.Spans candidate.toList) 0 candidate.toList.length := by
  obtain ⟨test, compiled, passes⟩ : ∃ test, ofPattern " staff|student " = .ok test ∧
      (test.accepts "staff" && test.accepts "student" && !test.accepts "staffing") = true :=
    Outcome.exists_eq_ok_of_any (by decide +kernel)
  obtain ⟨form, read⟩ : ∃ form, Regex.Parser.read? (Text.trim " staff|student ") = some form :=
    Option.isSome_iff_exists.1 (by decide +kernel)
  obtain ⟨regex, denotes, accepts_iff⟩ := accepts_iff_spans_all compiled read
  exact ⟨test, regex, compiled, denotes, passes, accepts_iff⟩

/-- A pattern that closes the group around it is none alone, and between the marks it passes
candidates that only begin with what it asks for. -/
theorem unbalanced_accepts_beginning : Regex.ofText? (Text.trim "a)|(?:b") = none ∧
    ∃ test, ofPattern "a)|(?:b" = .ok test ∧ test.accepts "axx" = true := by
  exact ⟨Option.isNone_iff_eq_none.1 (by decide +kernel),
    Outcome.exists_eq_ok_of_any (by decide +kernel)⟩

end StringMatch

end AttributeRelease
