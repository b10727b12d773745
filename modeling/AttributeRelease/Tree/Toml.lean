import AttributeRelease.Text.Digit
import AttributeRelease.Text.Double
import AttributeRelease.Text.Reader
import AttributeRelease.Time.Calendar
import AttributeRelease.Tree.Basic

/-!
# TOML

Reading a TOML text, in version 1.1 of the format, into a tree. A text is first read into sections,
each a header and the assignments under it. The sections are then entered one after the other into a
table that remembers how each of its tables came about, because that decides what a later section
may add to it. Dates, times and numbers that are not whole are recognised, and kept by their
spelling; numbers out of range are illegible.
-/

namespace AttributeRelease.Toml

open AttributeRelease.Text (Reader)
open AttributeRelease.Text.Reader

/-- How a table came about. -/
inductive TableKind where
  /-- As a part of the path in the header of another table. -/
  | implied
  /-- By a header of its own, or as the whole text. -/
  | headed
  /-- As a part of the path of an assignment. -/
  | dotted
  deriving DecidableEq, Repr

/-- What stands under a name while the sections are entered. -/
inductive Node where
  | leaf (tree : Tree)
  | table (kind : TableKind) (entries : List (String × Node))
  /-- A list of tables with a header each, of which only the last one can grow. -/
  | tables (earlier : List Node) (last : List (String × Node))

/-- The names of a table with what stands under them, in the order in which they came. -/
abbrev Entries := List (String × Node)

namespace Entries

/-- What stands under a name. -/
def get? (entries : Entries) (name : String) : Option Node :=
  (entries.find? (·.1 == name)).map (·.2)

/-- Puts a node under a name, in the place of the one that stands there. -/
def set (entries : Entries) (name : String) (node : Node) : Entries :=
  if entries.any (·.1 == name) then
    entries.map fun entry => if entry.1 == name then (name, node) else entry
  else entries ++ [(name, node)]

/-- Assigns a value to a name at the end of a path. The path must not go through a table with a
header, and the table at its end must have come about by such a path. -/
def assign (value : Tree) (name : String) : List String → Entries → Option Entries
  | [], entries =>
    match entries.get? name with
    | some _ => none
    | none => some (entries.set name (.leaf value))
  | step :: path, entries =>
    match entries.get? step with
    | none => do
      return entries.set step (.table .dotted (← assign value name path []))
    | some (.table kind inner) =>
      if kind = .dotted ∨ (kind = .implied ∧ path ≠ []) then do
        return entries.set step (.table kind (← assign value name path inner))
      else none
    | some (.tables earlier last) =>
      if path ≠ [] then do
        return entries.set step (.tables earlier (← assign value name path last))
      else none
    | some (.leaf _) => none

/-- Assigns values one after the other; each comes with its path and the name at the end. -/
def assignAll (assignments : List (List String × String × Tree)) (entries : Entries) :
    Option Entries :=
  assignments.foldlM (fun entries (path, name, value) => entries.assign value name path) entries

end Entries

mutual

/-- The tree of a node. -/
def Node.toTree : Node → Tree
  | .leaf tree => tree
  | .table _ entries => .table (entriesToFields entries)
  | .tables earlier last => .list (nodesToTrees earlier ++ [.table (entriesToFields last)])

/-- The trees of a list of nodes. -/
def nodesToTrees : List Node → List Tree
  | [] => []
  | node :: rest => node.toTree :: nodesToTrees rest

/-- The fields of a table. -/
def entriesToFields : List (String × Node) → List (String × Tree)
  | [] => []
  | (name, node) :: rest => (name, node.toTree) :: entriesToFields rest

end

/-- Whether a character may stand in strings and comments: all but control characters other than
the tab. -/
def isPlain (c : Char) : Bool := c == '\t' || (0x20 ≤ c.toNat && c.toNat != 0x7F)

/-- Skips blanks on a line. -/
def skipBlank : Reader Unit := do
  let _ ← takeWhile fun c => c == ' ' || c == '\t'

/-- Takes the end of a line, and tells whether there was one. -/
def acceptLineEnd : Reader Bool := do
  if ← accept '\n' then return true
  acceptAll ['\r', '\n']

/-- Skips a comment if there is one. -/
def skipComment : Reader Unit := do
  if ← accept '#' then
    let _ ← takeWhile isPlain

/-- Skips blanks, comments and ends of lines. -/
def skipLines : Reader Unit :=
  iterate (fun _ => do
    skipBlank
    skipComment
    if ← acceptLineEnd then return .inl () else return .inr ()) ()

/-- Takes the rest of a line, where only a comment may stand. -/
def lineEnd : Reader Unit := do
  skipBlank
  skipComment
  if ← atEnd then return ()
  check (← acceptLineEnd)

/-- Takes the character with a code of a number of hexadecimal digits. -/
def codePoint (count : Nat) : Reader Char := do
  let digits ← takeExactly count
  check (digits.all Text.isHexDigit)
  match Text.char? (Text.hexadecimal digits) with
  | some c => return c
  | none => fail

/-- Takes the rest of an escape that began with a backslash. -/
def escape : Reader Char := do
  match ← next with
  | 'b' => return '\x08'
  | 't' => return '\t'
  | 'n' => return '\n'
  | 'f' => return '\x0c'
  | 'r' => return '\r'
  | 'e' => return '\x1b'
  | '"' => return '"'
  | '\\' => return '\\'
  | 'x' => codePoint 2
  | 'u' => codePoint 4
  | 'U' => codePoint 8
  | _ => fail

/-- Takes the rest of a string on one line after its opening quote. -/
def lineString (quote : Char) (escapes : Bool) : Reader String := do
  let reversed ← iterate (fun reversed => do
    let c ← next
    if c == quote then return .inr reversed
    else if escapes && c == '\\' then return .inl ((← escape) :: reversed)
    else do
      check (isPlain c)
      return .inl (c :: reversed)) []
  return String.ofList reversed.reverse

/-- Takes what follows a backslash at the end of a line: blanks and ends of lines up to the next
other character. -/
def continuation : Reader Unit := do
  skipBlank
  check (← acceptLineEnd)
  iterate (fun _ => do
    skipBlank
    if ← acceptLineEnd then return .inl () else return .inr ()) ()

/-- Takes the rest of a string over several lines after its opening quotes. An end of line right
after them does not count, and up to two quotes may stand before the closing ones. -/
def blockString (quote : Char) (escapes : Bool) : Reader String := do
  let _ ← acceptLineEnd
  let reversed ← iterate (fun reversed => do
    let ahead ← peekMany 6
    let quotes := ahead.takeWhile (· == quote)
    if 3 ≤ quotes.length then
      let inside := min 2 (quotes.length - 3)
      let _ ← takeExactly (inside + 3)
      return .inr (List.replicate inside quote ++ reversed)
    else if ahead.take 2 == ['\r', '\n'] then
      let _ ← takeExactly 2
      return .inl ('\n' :: '\r' :: reversed)
    else
      let c ← next
      if escapes && c == '\\' then
        match ← peek? with
        | some ' ' | some '\t' | some '\n' | some '\r' =>
          continuation
          return .inl reversed
        | _ => return .inl ((← escape) :: reversed)
      else do
        check (c == '\n' || isPlain c)
        return .inl (c :: reversed)) []
  return String.ofList reversed.reverse

/-- Takes a string of any kind. -/
def string : Reader String := do
  if ← acceptAll ['"', '"', '"'] then blockString '"' true
  else if ← acceptAll ['\'', '\'', '\''] then blockString '\'' false
  else if ← accept '"' then lineString '"' true
  else do
    expect '\''
    lineString '\'' false

/-- Whether a character may stand in a bare name. -/
def isBare (c : Char) : Bool := c.isAlphanum || c == '_' || c == '-'

/-- Takes a name: a bare one, or a string on one line. -/
def name : Reader String := do
  if ← accept '"' then lineString '"' true
  else if ← accept '\'' then lineString '\'' false
  else do
    let chars ← takeWhile isBare
    check (!chars.isEmpty)
    return String.ofList chars

/-- How many names a path may have, and how deep values may be nested. -/
def depthLimit : Nat := 80

/-- Takes names that dots separate: a path, and the name at its end. -/
def path : Reader (List String × String) := do
  let reversed ← iterate (fun reversed => do
    skipBlank
    let reversed := (← name) :: reversed
    skipBlank
    if ← accept '.' then return .inl reversed else return .inr reversed) []
  check (reversed.length ≤ depthLimit)
  match reversed with
  | last :: before => return (before.reverse, last)
  | [] => fail

/-- The digits of a number that may have underscores between them; none if they stand elsewhere. -/
def digits? (belongs : Char → Bool) (chars : List Char) : Option (List Char) :=
  let groups := chars.splitOn '_'
  if groups.all fun group => !group.isEmpty && group.all belongs then some groups.flatten else none

/-- Whether a list of digits may begin a decimal number: no zero before other digits. -/
def isLeading (digits : List Char) : Bool := digits.head? != some '0' || digits.length == 1

/-- The sign of a number, and what follows it. -/
def splitSign : List Char → Option Char × List Char
  | '+' :: rest => (some '+', rest)
  | '-' :: rest => (some '-', rest)
  | chars => (none, chars)

/-- The whole number that a word spells. -/
def integer? (word : List Char) : Option Int :=
  let inBase (base : Nat) (belongs : Char → Bool) (chars : List Char) : Option Int :=
    (digits? belongs chars).map fun digits =>
      (Text.ofDigits base (digits.filterMap Text.hexDigit?) : Nat)
  match word with
  | '0' :: 'x' :: rest => inBase 16 Text.isHexDigit rest
  | '0' :: 'o' :: rest => inBase 8 (fun c => '0' ≤ c && c ≤ '7') rest
  | '0' :: 'b' :: rest => inBase 2 (fun c => c == '0' || c == '1') rest
  | _ =>
    let (sign, rest) := splitSign word
    match digits? Char.isDigit rest with
    | some digits =>
      if isLeading digits then
        let value : Int := Text.decimal digits
        some (if sign = some '-' then -value else value)
      else none
    | none => none

/-- Whether a word spells infinity or what is no number. -/
def isSpecial (word : List Char) : Bool :=
  let rest := (splitSign word).2
  rest == ['i', 'n', 'f'] || rest == ['n', 'a', 'n']

/-- Whether a word spells a number with a fraction or an exponent. -/
def isFloat (word : List Char) : Bool :=
  let rest := (splitSign word).2
  let isWhole (chars : List Char) : Bool :=
    match digits? Char.isDigit chars with
    | some digits => isLeading digits
    | none => false
  let isExponent (chars : List Char) : Bool :=
    (digits? Char.isDigit (splitSign chars).2).isSome
  let (mantissa, exponent) := rest.span fun c => c != 'e' && c != 'E'
  let (whole, fraction) := mantissa.span (· != '.')
  isWhole whole && !(fraction.isEmpty && exponent.isEmpty) &&
    (fraction.isEmpty || (digits? Char.isDigit (fraction.drop 1)).isSome) &&
    (exponent.isEmpty || isExponent (exponent.drop 1))

/-- Whether a word that spells a number with a fraction or an exponent is not too large for a double. -/
def isFinite (word : List Char) : Bool :=
  match Text.Double.read? (String.ofList (word.filter (· != '_'))) with
  | some value => !value.isInf
  | none => false

/-- Takes a number of an exact number of digits that lies between two bounds. -/
def field (count first last : Nat) : Reader Nat := do
  let digits ← takeExactly count
  check (digits.all Char.isDigit && first ≤ Text.decimal digits && Text.decimal digits ≤ last)
  return Text.decimal digits

/-- Takes a date that the calendar has. -/
def date : Reader Unit := do
  let year ← field 4 0 9999
  expect '-'
  let month ← field 2 1 12
  expect '-'
  let _ ← field 2 1 (Time.monthLength year month)

/-- Takes a time of day, in which the seconds may be left out. -/
def time : Reader Unit := do
  let _ ← field 2 0 23
  expect ':'
  let _ ← field 2 0 59
  if ← accept ':' then
    let _ ← field 2 0 60
    if ← accept '.' then
      let digits ← takeWhile Char.isDigit
      check (!digits.isEmpty)

/-- Takes an offset if there is one. -/
def offset : Reader Unit := do
  match ← peek? with
  | some 'Z' | some 'z' =>
    let _ ← next
  | some '+' | some '-' =>
    let _ ← next
    let _ ← field 2 0 23
    expect ':'
    let _ ← field 2 0 59
  | _ => return ()

/-- Takes a date, a time, or both. -/
def moment : Reader Unit :=
  time <|> do
    date
    match ← peek? with
    | some 'T' | some 't' =>
      let _ ← next
      time
      offset
    | some ' ' =>
      (do
        let _ ← next
        time
        offset) <|> pure ()
    | _ => return ()

/-- The tree of a word that is no string. Whole numbers are legible if they have 64 bits, with a sign
or without, and others if a double comes near them. -/
def word? (word : List Char) : Option Tree :=
  if word = "true".toList then some (.bool true)
  else if word = "false".toList then some (.bool false)
  else
    match integer? word with
    | some value =>
      if -Nat.pow 2 63 ≤ value ∧ value < Nat.pow 2 64 then some (.integer value)
      else some .illegible
    | none =>
      if isSpecial word then some (.other (String.ofList word))
      else if isFloat word then
        some (if isFinite word then .other (String.ofList word) else .illegible)
      else none

/-- Whether a character may stand in a value that is no string, list or table. -/
def isWordChar (c : Char) : Bool :=
  c.isAlphanum || c == '_' || c == '+' || c == '-' || c == '.' || c == ':'

/-- Takes a value that is no list and no table. -/
def scalar : Reader Tree := do
  match ← peek? with
  | some '"' | some '\'' => return .text (← string)
  | _ =>
    (do
      moment
      check ((← peek?).all fun c => !isWordChar c)
      return .other "date") <|> do
    let word ← takeWhile isWordChar
    match word? word with
    | some tree => return tree
    | none => fail

/-- Takes items that commas separate, over several lines, up to a closing bracket. A comma may
follow the last one. -/
def items {α : Type} (close : Char) (item : Reader α) : Reader (List α) := do
  let reversed ← iterate (fun reversed => do
    skipLines
    if ← accept close then return .inr reversed
    let reversed := (← item) :: reversed
    skipLines
    match ← next with
    | ',' => return .inl reversed
    | c => do
      check (c == close)
      return .inr reversed) []
  return reversed.reverse

/-- Takes an assignment whose value a reader takes. -/
def assignment (value : Reader Tree) : Reader (List String × String × Tree) := do
  let (path, name) ← path
  expect '='
  skipBlank
  return (path, name, ← value)

/-- Takes a value, in which lists and tables are nested at most `depth` deep. -/
def value : Nat → Reader Tree
  | 0 => scalar
  | depth + 1 => do
    match ← peek? with
    | some '[' => do
      let _ ← next
      return .list (← items ']' (value depth))
    | some '\x7b' => do
      let _ ← next
      let assignments ← items '\x7d' (assignment (value depth))
      match Entries.assignAll assignments [] with
      | some entries => return .table (entriesToFields entries)
      | none => fail
    | _ => scalar

/-- A header and the assignments under it. -/
structure Section where
  path : List String
  name : String
  /-- Whether the header adds a table to a list of tables. -/
  isItem : Bool
  assignments : List (List String × String × Tree)

namespace Section

/-- Enters the assignments of a section into what stands under its name. -/
def enterAtName (part : Section) : Option Node → Option Node
  | none => do
    let entries ← Entries.assignAll part.assignments []
    return if part.isItem then .tables [] entries else .table .headed entries
  | some (.table .implied entries) =>
    if part.isItem then none
    else do
      return .table .headed (← Entries.assignAll part.assignments entries)
  | some (.tables earlier last) =>
    if part.isItem then do
      let entries ← Entries.assignAll part.assignments []
      return .tables (earlier ++ [.table .headed last]) entries
    else none
  | some _ => none

/-- Enters a section whose header has a path left to go. -/
def enterAlong (part : Section) : List String → Entries → Option Entries
  | [], entries => do
    return entries.set part.name (← part.enterAtName (entries.get? part.name))
  | step :: path, entries =>
    match entries.get? step with
    | none => do
      return entries.set step (.table .implied (← part.enterAlong path []))
    | some (.table kind inner) => do
      return entries.set step (.table kind (← part.enterAlong path inner))
    | some (.tables earlier last) => do
      return entries.set step (.tables earlier (← part.enterAlong path last))
    | some (.leaf _) => none

/-- Enters a section into the table of the whole text. -/
def enter (part : Section) (entries : Entries) : Option Entries :=
  part.enterAlong part.path entries

end Section

/-- Takes assignments, one a line, up to a header or the end. -/
def assignments : Reader (List (List String × String × Tree)) := do
  let reversed ← iterate (fun reversed => do
    skipLines
    match ← peek? with
    | none | some '[' => return .inr reversed
    | _ => do
      let taken ← assignment (value depthLimit)
      lineEnd
      return .inl (taken :: reversed)) []
  return reversed.reverse

/-- Takes a header and the assignments under it. -/
def headed : Reader Section := do
  expect '['
  let isItem ← accept '['
  let (path, name) ← path
  expect ']'
  if isItem then expect ']'
  lineEnd
  return ⟨path, name, isItem, ← assignments⟩

/-- Takes a whole text: the assignments before the first header, and the sections. -/
def document : Reader (List (List String × String × Tree) × List Section) := do
  let _ ← accept '\uFEFF'
  let first ← assignments
  let reversed ← iterate (fun reversed => do
    if ← atEnd then return .inr reversed else return .inl ((← headed) :: reversed)) []
  return (first, reversed.reverse)

/-- The tree that a TOML text denotes, a table. -/
def read? (text : String) : Option Tree := do
  let (first, sections) ← whole? document text
  let entries ← Entries.assignAll first []
  let entries ← sections.foldlM (fun entries part => part.enter entries) entries
  return .table (entriesToFields entries)

end AttributeRelease.Toml
