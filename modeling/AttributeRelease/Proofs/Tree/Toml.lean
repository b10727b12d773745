import AttributeRelease.Proofs.Text.Reader
import AttributeRelease.Tree.Toml

/-!
# Reading a setting

A setting is a line that gives a text to a bare key. It is read back as the key and that text,
whatever the text has in it: a hash sign between the quotes begins no comment.
-/

namespace AttributeRelease.Toml

open AttributeRelease.Text (Reader)
open AttributeRelease.Text.Reader

/-- Whether a character stands for itself between quotes. -/
def isUnescaped (c : Char) : Bool := isPlain c && c != '"' && c != '\\'

/-- What stands for itself between quotes is plain, no quote and no backslash. -/
theorem isUnescaped_iff {c : Char} :
    isUnescaped c = true ↔ isPlain c = true ∧ c ≠ '"' ∧ c ≠ '\\' := by
  simp [isUnescaped, and_assoc]

/-- A line with a bare key and a text in quotes, in which nothing is escaped. -/
structure Setting where
  key : List Char
  content : List Char
  named : key ≠ []
  bare : ∀ c ∈ key, isBare c = true
  unescaped : ∀ c ∈ content, isUnescaped c = true

namespace Setting

/-- What stands before the text. -/
def opening (setting : Setting) : List Char := setting.key ++ [' ', '=', ' ', '"']

/-- The line, with another text between the quotes. -/
def lineWith (setting : Setting) (content : List Char) : List Char :=
  setting.opening ++ content ++ ['"']

def line (setting : Setting) : List Char := setting.lineWith setting.content

end Setting

section Parts

variable {input rest key content : List Char} {c other : Char}

/-- Whether a character is a blank. -/
def isBlank (c : Char) : Bool := c == ' ' || c == '\t'

/-- Nothing is skipped where there is no blank. -/
theorem skipBlank_eq (notBlank : input.head?.any isBlank = false) :
    skipBlank input = some ((), input) :=
  bind_eq (takeWhile_eq_nil notBlank)

/-- A single blank is skipped. -/
theorem skipBlank_space (notBlank : input.head?.any isBlank = false) :
    skipBlank (' ' :: input) = some ((), input) :=
  bind_eq (show takeWhile isBlank ([' '] ++ input) = some ([' '], input) from
    takeWhile_eq (by simp [isBlank]) notBlank)

/-- Where no comment begins none is skipped. -/
theorem skipComment_eq (notComment : input.head? ≠ some '#') :
    skipComment input = some ((), input) := by
  rw [skipComment, bind_eq (accept_of_head?_ne notComment)]
  rfl

/-- A mark is not accepted where another character stands. -/
theorem acceptAll_of_head?_ne {first : Char} {others : List Char}
    (differs : input.head? ≠ some first) :
    acceptAll (first :: others) input = some (false, input) := by
  have notNext : (first :: others).isPrefixOf input = false := by
    cases input with
    | nil => rfl
    | cons c rest =>
      have firstDiffers : (first == c) = false :=
        beq_false_of_ne fun same => differs (congrArg some same.symm)
      rw [List.isPrefixOf, firstDiffers, Bool.false_and]
  rw [acceptAll, notNext]
  rfl

/-- A line does not end where no line break stands. -/
theorem acceptLineEnd_eq (noFeed : input.head? ≠ some '\n') (noReturn : input.head? ≠ some '\r') :
    acceptLineEnd input = some (false, input) := by
  rw [acceptLineEnd, bind_eq (accept_of_head?_ne noFeed)]
  exact acceptAll_of_head?_ne noReturn

/-- What is skipped before an assignment begins with one of a few characters. -/
theorem skipLines_eq (begins : ∀ c ∈ input.head?, c ∉ [' ', '\t', '#', '\n', '\r']) :
    skipLines input = some ((), input) := by
  have differs {c : Char} (skipped : c ∈ [' ', '\t', '#', '\n', '\r']) : input.head? ≠ some c :=
    fun isHead => begins c isHead skipped
  have notBlank : input.head?.any isBlank = false := by
    rw [Option.any_eq_false]
    intro c isHead
    have notSkipped := begins c isHead
    simp only [List.mem_cons, not_or] at notSkipped
    rw [isBlank, beq_false_of_ne notSkipped.1, beq_false_of_ne notSkipped.2.1, Bool.false_or]
  refine iterate_of_inr () input ?_
  rw [bind_eq (skipBlank_eq notBlank), bind_eq (skipComment_eq (differs (by simp))),
    bind_eq (acceptLineEnd_eq (differs (by simp)) (differs (by simp)))]
  rfl

/-- A character of a bare key is none that stands in no bare key. -/
theorem ne_of_isBare (isBare : isBare c = true) (otherIsNot : Toml.isBare other = false) :
    c ≠ other := by
  rintro rfl
  cases isBare.symm.trans otherIsNot

/-- A bare key ends where no more such characters follow. -/
theorem name_eq (named : key ≠ []) (bare : ∀ c ∈ key, isBare c = true)
    (ends : rest.head?.any isBare = false) :
    name (key ++ rest) = some (String.ofList key, rest) := by
  obtain ⟨c, others, rfl⟩ := List.exists_cons_of_ne_nil named
  have isBare := bare c List.mem_cons_self
  have differs {quote : Char} (isQuote : Toml.isBare quote = false) :
      (c :: others ++ rest).head? ≠ some quote := by
    simpa using ne_of_isBare isBare isQuote
  rw [name, bind_eq (accept_of_head?_ne (differs rfl)), if_neg Bool.false_ne_true,
    bind_eq (accept_of_head?_ne (differs rfl)), if_neg Bool.false_ne_true,
    bind_eq (takeWhile_eq bare ends)]
  rfl

/-- A bare key before an equals sign is read as a path of one name. -/
theorem path_eq (named : key ≠ []) (bare : ∀ c ∈ key, isBare c = true) :
    path (key ++ ' ' :: '=' :: rest) = some (([], String.ofList key), '=' :: rest) := by
  have notBlank : (key ++ ' ' :: '=' :: rest).head?.any isBlank = false := by
    obtain ⟨c, others, rfl⟩ := List.exists_cons_of_ne_nil named
    have isBare := bare c List.mem_cons_self
    have notSpace := ne_of_isBare isBare (show Toml.isBare ' ' = false from rfl)
    have notTab := ne_of_isBare isBare (show Toml.isBare '\t' = false from rfl)
    simp [isBlank, notSpace, notTab]
  refine (bind_eq (iterate_of_inr [String.ofList key] ('=' :: rest) ?_)).trans rfl
  rw [bind_eq (skipBlank_eq notBlank), bind_eq (name_eq named bare rfl),
    bind_eq (skipBlank_space rfl), bind_eq (accept_of_head?_ne (by simp))]
  rfl

/-- No character between the quotes is more than itself. -/
theorem lineString_eq (unescaped : ∀ c ∈ content, isUnescaped c = true) :
    lineString '"' true (content ++ '"' :: rest) = some (String.ofList content, rest) := by
  refine (bind_eq (iterate_of_collects content.reverse rest ?collects ?ends)).trans ?result
  case collects =>
    intro c member reversed behind
    obtain ⟨isPlain, notQuote, notBackslash⟩ := isUnescaped_iff.1 (unescaped c member)
    rw [bind_eq (next_eq c behind), if_neg (by simpa using notQuote),
      if_neg (by simpa using notBackslash), bind_eq (check_eq isPlain behind)]
    rfl
  case ends => rw [List.append_nil]; rfl
  case result => rw [List.reverse_reverse]; rfl

/-- A text in quotes is no block, which would begin with three of them. -/
theorem string_eq (unescaped : ∀ c ∈ content, isUnescaped c = true)
    (ends : rest.head? ≠ some '"') :
    string ('"' :: (content ++ '"' :: rest)) = some (String.ofList content, rest) := by
  have noBlock : ['"', '"', '"'].isPrefixOf ('"' :: (content ++ '"' :: rest)) = false := by
    cases content with
    | nil =>
      cases rest with
      | nil => rfl
      | cons c others =>
        have notQuote : c ≠ '"' := by simpa using ends
        simp [List.isPrefixOf, notQuote.symm]
    | cons c others =>
      have notQuote := (isUnescaped_iff.1 (unescaped c List.mem_cons_self)).2.1
      simp [List.isPrefixOf, notQuote.symm]
  have notTaken : acceptAll ['"', '"', '"'] ('"' :: (content ++ '"' :: rest)) =
      some (false, '"' :: (content ++ '"' :: rest)) := by
    rw [acceptAll, noBlock]
    rfl
  rw [string, bind_eq notTaken, if_neg Bool.false_ne_true,
    bind_eq (acceptAll_of_head?_ne (by simp)), if_neg Bool.false_ne_true,
    bind_eq (accept_eq _ _), if_pos rfl, lineString_eq unescaped]

/-- A text in quotes in which nothing is escaped is read as it stands. -/
theorem value_eq (unescaped : ∀ c ∈ content, isUnescaped c = true)
    (ends : rest.head? ≠ some '"') (depth : Nat) :
    value depth ('"' :: (content ++ '"' :: rest)) =
      some (.text (String.ofList content), rest) := by
  have isScalar : scalar ('"' :: (content ++ '"' :: rest)) =
      some (.text (String.ofList content), rest) := by
    rw [scalar, bind_eq (peek?_eq _)]
    exact bind_eq (string_eq unescaped ends)
  cases depth with
  | zero => exact isScalar
  | succ depth =>
    rw [value, bind_eq (peek?_eq _)]
    exact isScalar

end Parts

namespace Setting

variable (setting : Setting)

/-- What a setting assigns. -/
def assigned : List String × String × Tree :=
  ([], String.ofList setting.key, .text (String.ofList setting.content))

/-- The line of a setting is read as what it assigns. -/
theorem assignment_line (depth : Nat) :
    assignment (value depth) setting.line = some (setting.assigned, []) := by
  have split : setting.line =
      setting.key ++ ' ' :: '=' :: ' ' :: '"' :: (setting.content ++ ['"']) := by
    simp [line, lineWith, opening]
  rw [split, assignment, bind_eq (path_eq setting.named setting.bare)]
  dsimp only
  rw [bind_eq (expect_eq _ _), bind_eq (skipBlank_space rfl),
    bind_eq (value_eq setting.unescaped (by simp) depth)]
  rfl

/-- The line of a setting begins with a character of its key. -/
theorem exists_line_eq_cons : ∃ c others, setting.line = c :: others ∧ isBare c = true := by
  obtain ⟨c, others, isCons⟩ := List.exists_cons_of_ne_nil setting.named
  refine ⟨c, others ++ [' ', '=', ' ', '"'] ++ setting.content ++ ['"'], ?_, ?_⟩
  · simp [line, lineWith, opening, isCons]
  · exact setting.bare c (isCons ▸ List.mem_cons_self)

/-- The line of a setting on its own is read as one assignment. -/
theorem assignments_line : assignments setting.line = some ([setting.assigned], []) := by
  have assignment := setting.assignment_line depthLimit
  obtain ⟨c, others, isCons, isBare⟩ := setting.exists_line_eq_cons
  rw [isCons] at assignment ⊢
  refine (bind_eq ((iterate_of_inl [setting.assigned] [] ?first).trans
    (go_of_inr [setting.assigned] [] ?last others))).trans rfl
  case first =>
    have notBare : ∀ d ∈ [' ', '\t', '#', '\n', '\r'], Toml.isBare d = false := by
      simp [Toml.isBare, Char.isAlphanum]
    have begins : ∀ d ∈ (c :: others).head?, d ∉ [' ', '\t', '#', '\n', '\r'] := by
      rintro d ⟨⟩ skipped
      exact ne_of_isBare isBare (notBare c skipped) rfl
    rw [bind_eq (skipLines_eq begins), bind_eq (peek?_eq _)]
    -- A header would begin with a bracket.
    generalize isFirst : (c :: others).head? = first
    split
    next => cases isFirst
    next => exact absurd (Option.some.inj isFirst) (ne_of_isBare isBare rfl)
    next =>
      rw [bind_eq assignment]
      rfl
  case last =>
    rw [bind_eq (skipLines_eq (by simp)), bind_eq (peek?_eq _)]
    rfl

/-- A setting is read as a table with its key and its text, a hash sign in the text included. -/
theorem read?_line : read? (String.ofList setting.line) =
    some (.table [(String.ofList setting.key, .text (String.ofList setting.content))]) := by
  have taken : document setting.line = some (([setting.assigned], []), []) := by
    obtain ⟨c, others, isCons, isBare⟩ := setting.exists_line_eq_cons
    have noMark : setting.line.head? ≠ some '\uFEFF' := by
      simpa [isCons] using ne_of_isBare isBare rfl
    rw [document, bind_eq (accept_of_head?_ne noMark), bind_eq setting.assignments_line,
      bind_eq (iterate_of_inr [] [] rfl)]
    rfl
  rw [read?, whole?, wholeOf?, String.toList_ofList, taken]
  rfl

end Setting

end AttributeRelease.Toml
