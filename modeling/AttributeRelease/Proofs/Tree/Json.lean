import AttributeRelease.Proofs.Text.Reader
import AttributeRelease.Proofs.Tree.Order
import AttributeRelease.Tree.Json
import Mathlib.Algebra.Group.Int.Defs

/-!
# Reading written JSON

A tree that can be printed is read back from its text, in whichever layout it was written. The
reader takes the parts off the text one after the other: strings escape by escape, numbers digit by
digit, and the items of lists and tables up to the comma or bracket behind them. `Indented` says
what a text with one item a line looks like, and that is how trees are printed.
-/

namespace AttributeRelease.Json

open AttributeRelease.Text (Reader)
open AttributeRelease.Text.Reader
open AttributeRelease.Tree (mapM_eq_some_iff)

/-- White space between tokens. -/
def isSpace (c : Char) : Bool := c == ' ' || c == '\n' || c == '\t' || c == '\r'

variable {rest : List Char}

/-- White space is skipped up to where it ends. -/
theorem skipSpace_eq {space : List Char} (blank : ∀ c ∈ space, isSpace c = true)
    (ends : rest.head?.any isSpace = false) : skipSpace (space ++ rest) = some ((), rest) :=
  bind_eq (takeWhile_eq blank ends)

/-- Nothing is skipped where there is no white space. -/
theorem skipSpace_eq_self (ends : rest.head?.any isSpace = false) :
    skipSpace rest = some ((), rest) :=
  skipSpace_eq (List.forall_mem_nil _) ends

section Strings

/-- The digits of a control character are read back. -/
theorem unit_unitDigits {code : Nat} (small : code < 0x20) :
    unit (unitDigits code ++ rest) = some (code, rest) := by
  have digits : ∀ code < 0x20, (unitDigits code).all Text.isHexDigit = true ∧
      Text.hexadecimal (unitDigits code) = code := by decide
  have taken : takeExactly 4 (unitDigits code ++ rest) = some (unitDigits code, rest) := rfl
  obtain ⟨areDigits, isCode⟩ := digits code small
  rw [unit, bind_eq taken, bind_eq (check_eq areDigits _), isCode]
  rfl

/-- A character below the blank is read back from the number of its unit. -/
theorem escape_unitDigits {c : Char} (small : c.toNat < 0x20) :
    escape ('u' :: (unitDigits c.toNat ++ rest)) = some (some c, rest) := by
  have isChar : Text.char? c.toNat = some c := by
    rw [Text.char?, dif_pos (show c.toNat.isValidChar from c.valid)]
    rfl
  rw [escape, bind_eq (next_eq _ _)]
  change unicodeEscape _ = _
  rw [unicodeEscape, bind_eq (unit_unitDigits small), if_neg, isChar]
  · rfl
  · simp only [Bool.and_eq_true, decide_eq_true_eq]
    omega

/-- A character stands for itself unless it would end the string, begin an escape or is a control
character; then it is escaped, and read back from that. -/
theorem escaped_cases (c : Char) :
    (escaped c = [c] ∧ c ≠ '"' ∧ c ≠ '\\' ∧ 0x20 ≤ c.toNat) ∨
      ∃ behind, escaped c = '\\' :: behind ∧
        ∀ rest, escape (behind ++ rest) = some (some c, rest) := by
  unfold escaped
  split_ifs with quote backslash backspace feed newline carriage tab control
  any_goals
    subst c
    exact .inr ⟨_, rfl, fun rest => rfl⟩
  · exact .inr ⟨_, rfl, fun rest => escape_unitDigits control⟩
  · exact .inl ⟨rfl, quote, backslash, by omega⟩

/-- A string is read back from its characters, each as it is escaped. -/
theorem string_eq (text : String) :
    string (text.toList.flatMap escaped ++ '"' :: rest) = some (some text, rest) := by
  refine (bind_eq (iterate_of_chunks escaped some (text.toList.map some).reverse rest
    ?collects ?notEmpty ?ends)).trans ?result
  case collects =>
    intro c _ reversed others
    rcases escaped_cases c with ⟨isPlain, notQuote, notBackslash, notControl⟩ |
      ⟨behind, isEscaped, isRead⟩
    · rw [isPlain, List.singleton_append, bind_eq (next_eq c others)]
      split
      next => exact absurd rfl notQuote
      next => exact absurd rfl notBackslash
      next =>
        rw [bind_eq (check_eq (decide_eq_true notControl) others)]
        rfl
    · rw [isEscaped, List.cons_append, bind_eq (next_eq _ _)]
      exact (bind_eq (isRead others)).trans rfl
  case notEmpty =>
    intro c _
    rcases escaped_cases c with ⟨isPlain, -⟩ | ⟨behind, isEscaped, -⟩ <;> simp_all
  case ends => rw [List.append_nil]; rfl
  case result =>
    have whole : (text.toList.map some).mapM id = some text.toList := by
      rw [mapM_eq_some_iff, List.forall₂_map_left_iff]
      exact List.forall₂_same.2 fun _ _ => rfl
    rw [List.reverse_reverse, whole, Option.map_some, String.ofList_toList]
    rfl

/-- A quoted text stands between two quotes, each character as it is escaped. -/
theorem toList_quoted (text : String) :
    (quoted text).toList = '"' :: (text.toList.flatMap escaped ++ ['"']) := by
  simp [quoted]

end Strings

section Numbers

/-- Whether a character behind the digits of a number goes on with the number. -/
def continuesNumber (c : Char) : Bool := c.isDigit || c == '.' || c == 'e' || c == 'E'

/-- What does not go on with a number begins with no digit, no point and no exponent. -/
theorem noMore_of_ends (ends : rest.head?.any continuesNumber = false) :
    rest.head?.any Char.isDigit = false ∧ rest.head? ≠ some '.' ∧
      rest.head? ≠ some 'e' ∧ rest.head? ≠ some 'E' := by
  cases rest <;> simp_all [continuesNumber]

/-- A minus sign before digits is read where there is one. -/
theorem accept_sign (negative : Bool) (size : Nat) :
    accept '-' ((if negative then ['-'] else []) ++ (Nat.toDigits 10 size ++ rest)) =
      some (negative, Nat.toDigits 10 size ++ rest) := by
  obtain ⟨first, others, isCons⟩ := List.exists_cons_of_ne_nil
    (Nat.toDigits_ne_nil (n := size) (b := 10))
  have isDigit : first.isDigit = true :=
    Nat.isDigit_of_mem_toDigits (by decide) (by decide) (isCons ▸ List.mem_cons_self)
  cases negative with
  | true => exact accept_eq _ _
  | false =>
    refine accept_of_head?_ne fun isMinus => ?_
    rw [if_neg Bool.false_ne_true, isCons] at isMinus
    cases isMinus
    cases isDigit

/-- The digits of a number begin with a zero only if there is no other digit. -/
theorem noLeadingZero_toDigits (size : Nat) :
    (!(Nat.toDigits 10 size).isEmpty && ((Nat.toDigits 10 size).head? != some '0' ||
      (Nat.toDigits 10 size).length == 1)) = true := by
  by_cases isZero : size = 0
  · rw [isZero]
    rfl
  · simp [Text.head?_toDigits_ne_zero isZero, Nat.toDigits_ne_nil]

/-- A whole number is read back from its sign and its digits. -/
theorem number_toDigits (negative : Bool) (size : Nat)
    (fits : if negative then 0 < size ∧ size ≤ 2 ^ 63 else size < 2 ^ 64)
    (ends : rest.head?.any continuesNumber = false) :
    number ((if negative then ['-'] else []) ++ (Nat.toDigits 10 size ++ rest)) =
      some (.integer (if negative then -size else size), rest) := by
  have areDigits : ∀ c ∈ Nat.toDigits 10 size, c.isDigit = true :=
    fun c => Nat.isDigit_of_mem_toDigits (by decide) (by decide)
  obtain ⟨noDigit, noPoint, noExponent⟩ := noMore_of_ends ends
  have isSize : Text.decimal (Nat.toDigits 10 size) = size := by
    rw [Text.decimal_eq_ofDigitChars areDigits, Nat.ofDigitChars_ten_toDigits]
  rw [number, bind_eq (accept_sign negative size), bind_eq (takeWhile_eq areDigits noDigit),
    bind_eq (check_eq (noLeadingZero_toDigits size) _), bind_eq (accept_of_head?_ne noPoint),
    if_neg Bool.false_ne_true, pure_bind]
  dsimp only
  rw [bind_eq (peek?_eq _), bind_eq (peek?_eq _), if_neg (by simpa using noExponent), pure_bind]
  dsimp only
  rw [isSize, if_pos]
  · rfl
  · cases negative with
    | true =>
      simp at fits ⊢
      omega
    | false =>
      simp at fits ⊢
      omega

/-- An integer is printed as its sign and its digits. -/
theorem toList_toString (value : Int) :
    (toString value).toList = (if value < 0 then ['-'] else []) ++ Nat.toDigits 10 value.natAbs := by
  cases value with
  | ofNat size =>
    change (toString size).toList = _
    rw [Nat.toString_eq_ofList_toDigits, String.toList_ofList, if_neg (by simp)]
    rfl
  | negSucc size =>
    change ("-" ++ toString (size + 1)).toList = _
    rw [Nat.toString_eq_ofList_toDigits, String.toList_append, String.toList_ofList,
      String.toList_ofList, if_pos (Int.negSucc_lt_zero size)]
    rfl

/-- An integer is written with a sign or a digit first. -/
theorem toString_eq_cons (value : Int) :
    ∃ first others, (toString value).toList = first :: others ∧
      (first = '-' ∨ first.isDigit = true) := by
  rw [toList_toString]
  split
  · exact ⟨'-', _, rfl, .inl rfl⟩
  · obtain ⟨first, others, isCons⟩ := List.exists_cons_of_ne_nil
      (Nat.toDigits_ne_nil (n := value.natAbs) (b := 10))
    refine ⟨first, others, isCons, .inr ?_⟩
    exact Nat.isDigit_of_mem_toDigits (by decide) (by decide) (isCons ▸ List.mem_cons_self)

/-- An integer of 64 bits is read back from the text of the number. -/
theorem number_toString {value : Int} (lower : -2 ^ 63 ≤ value) (upper : value < 2 ^ 64)
    (ends : rest.head?.any continuesNumber = false) :
    number ((toString value).toList ++ rest) = some (.integer value, rest) := by
  have isRead := number_toDigits (decide (value < 0)) value.natAbs
    (by simp only [decide_eq_true_eq]; split <;> omega) ends
  simp only [decide_eq_true_eq] at isRead
  rw [toList_toString, List.append_assoc, isRead]
  congr 3
  split <;> omega

end Numbers

section Items

/-- Whether an item may begin with a character: no white space, and no bracket that closes. -/
def beginsItem (c : Char) : Bool := !isSpace c && c != ']' && c != '\x7d'

/-- A number begins with a minus sign or a digit, and with nothing else. -/
theorem ne_of_isNumeric {first c : Char} (isNumeric : first = '-' ∨ first.isDigit = true)
    (notMinus : c ≠ '-') (notDigit : c.isDigit = false) : first ≠ c := by
  rintro rfl
  rcases isNumeric with isMinus | isDigit
  · exact notMinus isMinus
  · exact absurd isDigit (by simp [notDigit])

/-- An item may begin as numbers do. -/
theorem beginsItem_of_isNumeric {first : Char} (isNumeric : first = '-' ∨ first.isDigit = true) :
    beginsItem first = true := by
  have differs (c : Char) (notMinus : c ≠ '-') (notDigit : c.isDigit = false) : first ≠ c :=
    ne_of_isNumeric isNumeric notMinus notDigit
  simp [beginsItem, isSpace, differs ' ', differs '\n', differs '\t', differs '\r', differs ']',
    differs '\x7d']

/-- White space does not go on with a number. -/
theorem not_continuesNumber_of_isSpace {c : Char} (isBlank : isSpace c = true) :
    continuesNumber c = false := by
  simp only [isSpace, Bool.or_eq_true, beq_iff_eq] at isBlank
  rcases isBlank with ((rfl | rfl) | rfl) | rfl <;> rfl

/-- White space does not go on with a number if what is behind it does not. -/
theorem ends_of_blank {behind : List Char} (blank : ∀ c ∈ behind, isSpace c = true)
    (ends : rest.head?.any continuesNumber = false) :
    (behind ++ rest).head?.any continuesNumber = false := by
  cases behind with
  | nil => exact ends
  | cons c others => exact not_continuesNumber_of_isSpace (blank c List.mem_cons_self)

/-- A reader takes a value off a text, with any white space before it and anything behind it that does
not go on with a number. -/
def Takes {α : Type} (reader : Reader α) (text : List Char) (value : α) : Prop :=
  ∀ space rest : List Char, (∀ c ∈ space, isSpace c = true) →
    rest.head?.any continuesNumber = false → reader (space ++ (text ++ rest)) = some (value, rest)

variable {α γ : Type} {close : Char} {item : Reader α}

/-- There are no items before the closing mark. -/
theorem items_close (close : Char) (isClose : isSpace close = false) :
    items close item (close :: rest) = some ([], rest) := by
  rw [items, bind_eq (skipSpace_eq_self (by simpa using isClose)), bind_eq (accept_eq _ _)]
  rfl

/-- Items with something between them begin as the first of them does. -/
theorem exists_intercalate_eq_cons (between : List Char) (text : γ → List Char) {parts : List γ}
    (notEmpty : parts ≠ []) (begins : ∀ part ∈ parts, (text part).head?.any beginsItem = true) :
    ∃ c others, between.intercalate (parts.map text) = c :: others ∧ beginsItem c = true := by
  obtain ⟨first, others, rfl⟩ := List.exists_cons_of_ne_nil notEmpty
  have begins := begins first List.mem_cons_self
  rw [List.map_cons]
  cases isText : text first with
  | nil =>
    rw [isText] at begins
    cases begins
  | cons c chars =>
    rw [isText] at begins
    exact ⟨c, _, List.intercalate_cons_cons_left, begins⟩

/-- Items with commas between them are taken one after the other. -/
theorem items_eq (text : γ → List Char) (value : γ → α) {before behind : List Char} {parts : List γ}
    (rest : List Char) (notEmpty : parts ≠ []) (isClose : close = ']' ∨ close = '\x7d')
    (blankBefore : ∀ c ∈ before, isSpace c = true) (blankBehind : ∀ c ∈ behind, isSpace c = true)
    (begins : ∀ part ∈ parts, (text part).head?.any beginsItem = true)
    (takes : ∀ part ∈ parts, Takes item (text part) (value part)) :
    items close item (before ++ ((',' :: before).intercalate (parts.map text) ++
      (behind ++ close :: rest))) = some (parts.map value, rest) := by
  have notSpace : isSpace close = false := by rcases isClose with rfl | rfl <;> rfl
  have notComma : close ≠ ',' := by rcases isClose with rfl | rfl <;> decide
  have blankLead : ∀ lead ∈ [[], before], ∀ c ∈ lead, isSpace c = true := by
    simpa using blankBefore
  have endsBehind : (behind ++ close :: rest).head?.any continuesNumber = false :=
    ends_of_blank blankBehind (by rcases isClose with rfl | rfl <;> rfl)
  obtain ⟨c, others, isCons, isBeginning⟩ :=
    exists_intercalate_eq_cons (',' :: before) text notEmpty begins
  simp only [beginsItem, Bool.and_eq_true, Bool.not_eq_true', bne_iff_ne] at isBeginning
  have differs : c ≠ close := by rcases isClose with rfl | rfl <;> simp [isBeginning]
  rw [items, bind_eq (skipSpace_eq blankBefore (by rw [isCons]; simpa using isBeginning.1.1)),
    bind_eq (accept_of_head?_ne (by rw [isCons]; simpa using differs)), if_neg Bool.false_ne_true]
  refine (bind_eq (iterate_of_separated text value notEmpty rest ?goesOn ?ends)).trans ?result
  case goesOn =>
    intro part member lead isLead reversed others
    rw [bind_eq (takes part member lead _ (blankLead lead isLead) rfl),
      bind_eq (skipSpace_eq_self rfl), bind_eq (next_eq _ _)]
    rfl
  case ends =>
    intro part member lead isLead reversed
    rw [bind_eq (takes part member lead _ (blankLead lead isLead) endsBehind),
      bind_eq (skipSpace_eq blankBehind (by simpa using notSpace)), bind_eq (next_eq _ _)]
    split
    next => exact absurd rfl notComma
    next =>
      rw [bind_eq (check_eq (beq_self_eq_true _) _)]
      rfl
  case result =>
    rw [List.reverse_reverse]
    rfl

end Items

/-- A tree that can be printed: nothing in it is illegible or a scalar by its spelling, integers fit 64
bits, and lists and tables nest no deeper than a limit. -/
inductive Printable : Nat → Tree → Prop
  | null (limit : Nat) : Printable limit .null
  | bool (limit : Nat) (flag : Bool) : Printable limit (.bool flag)
  | integer (limit : Nat) {value : Int} (lower : -2 ^ 63 ≤ value) (upper : value < 2 ^ 64) :
      Printable limit (.integer value)
  | text (limit : Nat) (value : String) : Printable limit (.text value)
  | list {limit : Nat} {items : List Tree} (each : ∀ item ∈ items, Printable limit item) :
      Printable (limit + 1) (.list items)
  | table {limit : Nat} {fields : List (String × Tree)}
      (each : ∀ field ∈ fields, Printable limit field.2) : Printable (limit + 1) (.table fields)

section Writing

variable {limit : Nat} {tree : Tree} {layout : Layout} {depth : Nat}

/-- A field as it is written. -/
def writeField (layout : Layout) (depth : Nat) (field : String × Tree) : String :=
  quoted field.1 ++ layout.colon ++ write layout depth field.2

/-- Items are written with commas and line breaks between them. -/
theorem write_append_writeItems (first : Tree) (others : List Tree) :
    write layout depth first ++ writeItems layout depth others =
      ("," ++ layout.lineBreak depth).intercalate ((first :: others).map (write layout depth)) := by
  induction others generalizing first with
  | nil => simp [writeItems]
  | cons second others ih =>
    rw [List.map_cons, List.map_cons, String.intercalate_cons_cons, ← List.map_cons, ← ih, writeItems]
    simp only [String.append_assoc]

/-- Fields are written with commas and line breaks between them. -/
theorem writeField_append_writeFields (first : String × Tree) (others : List (String × Tree)) :
    writeField layout depth first ++ writeFields layout depth others =
      ("," ++ layout.lineBreak depth).intercalate
        ((first :: others).map (writeField layout depth)) := by
  induction others generalizing first with
  | nil => simp [writeFields]
  | cons second others ih =>
    rw [List.map_cons, List.map_cons, String.intercalate_cons_cons, ← List.map_cons, ← ih, writeFields]
    simp only [String.append_assoc, writeField]

/-- A list is written as its items with commas between them. -/
theorem write_list {items : List Tree} (notEmpty : items ≠ []) :
    write layout depth (.list items) = "[" ++ layout.lineBreak (depth + 1) ++
      ("," ++ layout.lineBreak (depth + 1)).intercalate (items.map (write layout (depth + 1))) ++
      layout.lineBreak depth ++ "]" := by
  obtain ⟨first, others, rfl⟩ := List.exists_cons_of_ne_nil notEmpty
  rw [write, ← write_append_writeItems]
  simp only [String.append_assoc]

/-- A table is written as its fields with commas between them. -/
theorem write_table {fields : List (String × Tree)} (notEmpty : fields ≠ []) :
    write layout depth (.table fields) = "\x7b" ++ layout.lineBreak (depth + 1) ++
      ("," ++ layout.lineBreak (depth + 1)).intercalate (fields.map (writeField layout (depth + 1))) ++
      layout.lineBreak depth ++ "\x7d" := by
  obtain ⟨first, others, rfl⟩ := List.exists_cons_of_ne_nil notEmpty
  rw [write, ← writeField_append_writeFields]
  simp only [String.append_assoc, writeField]

/-- A line break is white space, in either layout. -/
theorem isSpace_of_mem_lineBreak (layout : Layout) (depth : Nat) :
    ∀ c ∈ (layout.lineBreak depth).toList, isSpace c = true := by
  cases layout with
  | compact => simp [Layout.lineBreak]
  | indented =>
    intro c member
    simp only [Layout.lineBreak, String.toList_append, String.toList_ofList, List.mem_append,
      List.mem_replicate] at member
    rcases member with member | ⟨-, rfl⟩
    · obtain rfl := List.mem_singleton.1 member
      rfl
    · rfl

/-- What is written begins an item. -/
theorem Printable.begins (printable : Printable limit tree) (layout : Layout) (depth : Nat) :
    (write layout depth tree).toList.head?.any beginsItem = true := by
  cases printable with
  | null => rw [write]; rfl
  | bool _ flag => cases flag <;> rw [write] <;> rfl
  | integer =>
    rename_i number _ _
    obtain ⟨first, others, isCons, isNumeric⟩ := toString_eq_cons number
    rw [write, isCons]
    exact beginsItem_of_isNumeric isNumeric
  | text => rw [write, toList_quoted]; rfl
  | @list _ items =>
    by_cases isEmpty : items = []
    · rw [isEmpty, write]
      rfl
    · rw [write_list isEmpty]
      simp only [String.toList_append]
      rfl
  | @table _ fields =>
    by_cases isEmpty : fields = []
    · rw [isEmpty, write]
      rfl
    · rw [write_table isEmpty]
      simp only [String.toList_append]
      rfl

/-- What is written for a field begins as items do. -/
theorem writeField_begins (field : String × Tree) :
    (writeField layout depth field).toList.head?.any beginsItem = true := by
  rw [writeField]
  simp only [String.toList_append, toList_quoted]
  rfl

section Values

variable {more space : List Char}

/-- A value that does not open a list or table is a scalar. -/
theorem value_eq_scalar (limit : Nat) {first : Char} {others : List Char}
    (blank : ∀ c ∈ space, isSpace c = true) (notSpace : isSpace first = false)
    (noList : first ≠ '[') (noTable : first ≠ '\x7b') :
    value limit (space ++ first :: others) = scalar (first :: others) := by
  have skipped : skipSpace (space ++ first :: others) = some ((), first :: others) :=
    skipSpace_eq blank (by simpa using notSpace)
  cases limit with
  | zero =>
    rw [value, bind_eq skipped, bind_eq (peek?_eq _), bind_eq (peek?_eq _),
      if_neg (by simp [noList, noTable])]
  | succ limit =>
    rw [value, bind_eq skipped, bind_eq (peek?_eq _)]
    generalize isHead : (first :: others).head? = head
    split
    next => exact absurd (Option.some.inj isHead) noList
    next => exact absurd (Option.some.inj isHead) noTable
    next => rfl

/-- A value that is neither a list nor a table is taken off a text as a scalar. -/
theorem takes_of_scalar (limit : Nat) {first : Char} {others : List Char}
    (notSpace : isSpace first = false) (noList : first ≠ '[') (noTable : first ≠ '\x7b')
    (isRead : ∀ rest : List Char, rest.head?.any continuesNumber = false →
      scalar (first :: (others ++ rest)) = some (tree, rest)) :
    Takes (value limit) (first :: others) tree := by
  intro space rest blank ends
  exact (value_eq_scalar limit blank notSpace noList noTable).trans (isRead rest ends)

/-- Anything but a quote or the first letter of a word begins a number. -/
theorem scalar_eq_number {first : Char} (isNumeric : first = '-' ∨ first.isDigit = true)
    (others : List Char) : scalar (first :: others) = number (first :: others) := by
  have differs (c : Char) (notMinus : c ≠ '-') (notDigit : c.isDigit = false) : first ≠ c :=
    ne_of_isNumeric isNumeric notMinus notDigit
  rw [scalar, bind_eq (peek?_eq _)]
  generalize isHead : (first :: others).head? = head
  split
  next => exact absurd (Option.some.inj isHead) (differs '"' (by decide) rfl)
  next => exact absurd (Option.some.inj isHead) (differs 't' (by decide) rfl)
  next => exact absurd (Option.some.inj isHead) (differs 'f' (by decide) rfl)
  next => exact absurd (Option.some.inj isHead) (differs 'n' (by decide) rfl)
  next => rfl

/-- An integer of 64 bits is taken off a text. -/
theorem takes_integer (limit : Nat) {number : Int} (lower : -2 ^ 63 ≤ number)
    (upper : number < 2 ^ 64) : Takes (value limit) (toString number).toList (.integer number) := by
  obtain ⟨first, others, isCons, isNumeric⟩ := toString_eq_cons number
  have differs (c : Char) (notMinus : c ≠ '-') (notDigit : c.isDigit = false) : first ≠ c :=
    ne_of_isNumeric isNumeric notMinus notDigit
  have begins := beginsItem_of_isNumeric isNumeric
  simp only [beginsItem, Bool.and_eq_true, Bool.not_eq_true'] at begins
  rw [isCons]
  refine takes_of_scalar limit begins.1.1 (differs '[' (by decide) rfl)
    (differs '\x7b' (by decide) rfl) fun rest ends => ?_
  rw [scalar_eq_number isNumeric, ← List.cons_append, ← isCons]
  exact number_toString lower upper ends

/-- A string is taken off a text. -/
theorem takes_text (limit : Nat) (content : String) :
    Takes (value limit) (quoted content).toList (.text content) := by
  rw [toList_quoted]
  refine takes_of_scalar limit rfl (by decide) (by decide) fun rest _ => ?_
  rw [scalar, bind_eq (peek?_eq _)]
  simp only [List.head?_cons]
  rw [bind_eq (next_eq _ _), List.append_assoc, List.singleton_append, bind_eq (string_eq content)]
  rfl

/-- A list is read item by item, one level deeper. -/
theorem value_list {parts : List Tree} (blank : ∀ c ∈ space, isSpace c = true)
    (isRead : items ']' (value limit) more = some (parts, rest)) :
    value (limit + 1) (space ++ '[' :: more) = some (.list parts, rest) := by
  rw [value, bind_eq (skipSpace_eq blank rfl), bind_eq (peek?_eq _)]
  simp only [List.head?_cons]
  rw [bind_eq (next_eq _ _), bind_eq isRead]
  rfl

/-- Takes a field: its name and its value. -/
def field (limit : Nat) : Reader (Option String × Tree) := do
  let name ← name
  return (name, ← value limit)

/-- A table is read field by field, one level deeper. -/
theorem value_table {fields : List (String × Tree)} (blank : ∀ c ∈ space, isSpace c = true)
    (isRead : items '\x7d' (field limit) more =
      some (fields.map fun field => (some field.1, field.2), rest)) :
    value (limit + 1) (space ++ '\x7b' :: more) = some (.table fields, rest) := by
  have named (step : Option String × Tree → Option (String × Tree))
      (back : ∀ field : String × Tree, step (some field.1, field.2) = some field) :
      (fields.map fun field => (some field.1, field.2)).mapM step = some fields := by
    rw [mapM_eq_some_iff, List.forall₂_map_left_iff]
    exact List.forall₂_same.2 fun field _ => back field
  rw [value, bind_eq (skipSpace_eq blank rfl), bind_eq (peek?_eq _)]
  simp only [List.head?_cons]
  rw [bind_eq (next_eq _ _)]
  refine (bind_eq isRead).trans ?_
  rw [named _ fun _ => rfl]
  rfl

/-- A field is read back if its value is. -/
theorem takes_writeField {part : String × Tree}
    (takes : Takes (value limit) (write layout depth part.2).toList part.2) :
    Takes (field limit) (writeField layout depth part).toList (some part.1, part.2) := by
  intro space rest blank ends
  obtain ⟨blanks, isColon, colonBlank⟩ : ∃ blanks, layout.colon.toList = ':' :: blanks ∧
      ∀ c ∈ blanks, isSpace c = true := by
    cases layout with
    | compact => exact ⟨[], rfl, List.forall_mem_nil _⟩
    | indented => exact ⟨[' '], rfl, by simp [isSpace]⟩
  simp only [writeField, String.toList_append, toList_quoted, isColon, List.append_assoc,
    List.cons_append, List.nil_append]
  have named : name (space ++ '"' :: (part.1.toList.flatMap escaped ++ '"' :: ':' ::
      (blanks ++ ((write layout depth part.2).toList ++ rest)))) =
        some (some part.1, blanks ++ ((write layout depth part.2).toList ++ rest)) := by
    rw [name, bind_eq (skipSpace_eq blank rfl), bind_eq (expect_eq _ _), bind_eq (string_eq _),
      bind_eq (skipSpace_eq_self rfl), bind_eq (expect_eq _ _)]
    rfl
  rw [field, bind_eq named, bind_eq (takes blanks rest colonBlank ends)]
  rfl

end Values

/-- A tree that can be printed is taken off what is written for it. -/
theorem takes_write (printable : Printable limit tree) (layout : Layout) (depth : Nat) :
    Takes (value limit) (write layout depth tree).toList tree := by
  induction printable generalizing depth with
  | null limit =>
    rw [write]
    change Takes _ ['n', 'u', 'l', 'l'] _
    exact takes_of_scalar limit rfl (by decide) (by decide) fun rest _ => rfl
  | bool limit flag =>
    cases flag with
    | false =>
      rw [write]
      change Takes _ ['f', 'a', 'l', 's', 'e'] _
      exact takes_of_scalar limit rfl (by decide) (by decide) fun rest _ => rfl
    | true =>
      rw [write]
      change Takes _ ['t', 'r', 'u', 'e'] _
      exact takes_of_scalar limit rfl (by decide) (by decide) fun rest _ => rfl
  | integer limit lower upper =>
    rw [write]
    exact takes_integer limit lower upper
  | text limit content =>
    rw [write]
    exact takes_text limit content
  | @list limit items each ih =>
    intro space rest blank ends
    by_cases isEmpty : items = []
    · rw [isEmpty, write]
      exact value_list blank (items_close ']' rfl)
    · have isRead := items_eq (String.toList ∘ write layout (depth + 1)) id rest isEmpty
        (.inl rfl) (isSpace_of_mem_lineBreak layout (depth + 1))
        (isSpace_of_mem_lineBreak layout depth)
        (fun item member => (each item member).begins layout (depth + 1))
        (fun item member => ih item member (depth + 1))
      rw [List.map_id] at isRead
      rw [write_list isEmpty]
      simpa using value_list blank isRead
  | @table limit fields each ih =>
    intro space rest blank ends
    by_cases isEmpty : fields = []
    · rw [isEmpty, write]
      exact value_table blank (items_close '\x7d' rfl)
    · have isRead := items_eq (String.toList ∘ writeField layout (depth + 1))
        (fun field => (some field.1, field.2)) rest isEmpty (.inr rfl)
        (isSpace_of_mem_lineBreak layout (depth + 1)) (isSpace_of_mem_lineBreak layout depth)
        (fun field _ => writeField_begins field)
        (fun field member => takes_writeField (ih field member (depth + 1)))
      rw [write_table isEmpty]
      simpa using value_table blank isRead

/-- What can be printed can be read as some tree. -/
theorem Printable.isLegible (printable : Printable limit tree) : tree.isLegible = true := by
  induction printable with
  | null | bool | integer | text => rfl
  | list _ ih => exact Tree.isLegible_iff.2 ⟨Tree.noConfusion, ih⟩
  | table _ ih =>
    refine Tree.isLegible_iff.2 ⟨Tree.noConfusion, fun part member => ?_⟩
    obtain ⟨field, isField, rfl⟩ := List.mem_map.1 member
    exact ih field isField

/-- Whatever can be printed is read back from what is written of it, in either layout, with white
space behind it. -/
theorem scan?_write (printable : Printable 127 tree) (layout : Layout) (behind : String)
    (blank : ∀ c ∈ behind.toList, isSpace c = true) :
    scan? (write layout 0 tree ++ behind) = some tree := by
  have ends : behind.toList.head?.any continuesNumber = false := by
    rw [← List.append_nil behind.toList]
    exact ends_of_blank blank rfl
  have taken := takes_write printable layout 0 [] behind.toList (List.forall_mem_nil _) ends
  have skipped : skipSpace behind.toList = some ((), []) := by
    rw [← List.append_nil behind.toList]
    exact skipSpace_eq blank rfl
  rw [List.nil_append] at taken
  rw [scan?, whole?, wholeOf?, String.toList_append, bind_eq taken, bind_eq skipped]
  rfl

/-- A tree that can be printed is what its text denotes, in either layout and with any white space
behind it. -/
theorem read?_write (printable : Printable 127 tree) (layout : Layout) (behind : String)
    (blank : ∀ c ∈ behind.toList, isSpace c = true) :
    read? (write layout 0 tree ++ behind) = some tree := by
  rw [read?, scan?_write printable layout behind blank, Option.filter_some, if_pos printable.isLegible]

end Writing

section Layout

/-- The end of a line, and what the next one is indented by at a nesting depth. -/
def newLine (depth : Nat) : String := "\n" ++ String.ofList (List.replicate (2 * depth) ' ')

/-- A text shows a tree at a nesting depth with one item or field a line, two blanks further in than
what it belongs to. -/
inductive Indented : Nat → Tree → String → Prop
  | null (depth : Nat) : Indented depth .null "null"
  | true (depth : Nat) : Indented depth (.bool Bool.true) "true"
  | false (depth : Nat) : Indented depth (.bool Bool.false) "false"
  | integer (depth : Nat) (value : Int) : Indented depth (.integer value) (toString value)
  | text (depth : Nat) (value : String) : Indented depth (.text value) (quoted value)
  | emptyList (depth : Nat) : Indented depth (.list []) "[]"
  | list {depth : Nat} {items : List Tree} {texts : List String} (notEmpty : items ≠ [])
      (sameLength : items.length = texts.length)
      (each : ∀ shown ∈ items.zip texts, Indented (depth + 1) shown.1 shown.2) :
      Indented depth (.list items)
        ("[" ++ newLine (depth + 1) ++ ("," ++ newLine (depth + 1)).intercalate texts ++
          newLine depth ++ "]")
  | emptyTable (depth : Nat) : Indented depth (.table []) "\x7b\x7d"
  | table {depth : Nat} {fields : List (String × Tree)} {texts : List String}
      (notEmpty : fields ≠ []) (sameLength : fields.length = texts.length)
      (each : ∀ shown ∈ fields.zip texts, Indented (depth + 1) shown.1.2 shown.2) :
      Indented depth (.table fields)
        ("\x7b" ++ newLine (depth + 1) ++
          ("," ++ newLine (depth + 1)).intercalate
            (List.zipWith (fun field text => quoted field.1 ++ ": " ++ text) fields texts) ++
          newLine depth ++ "\x7d")

/-- Empty lists and tables take no lines of their own, and control characters are escaped. -/
example : pretty (.table [("a", .list [.integer (-1), .list []]), ("\"", .text "\n\x1f/é")]) =
    "\x7b\n  \"a\": [\n    -1,\n    []\n  ],\n  \"\\\"\": \"\\n\\u001f/é\"\n\x7d" := by
  decide +kernel

end Layout

end AttributeRelease.Json
