import AttributeRelease.Regex.Form
import AttributeRelease.Text.Blank
import AttributeRelease.Text.Digit
import AttributeRelease.Text.Reader
import AttributeRelease.Unicode.Property

/-!
# Reading patterns

Reading the text of a pattern into its written form. In extended texts, which a setting switches on,
blanks and comments between the parts do not count; most readers here are told whether they are in
such a text. There are no look-around conditions and no references to groups.
-/

namespace AttributeRelease.Regex.Parser

open AttributeRelease.Text (Reader)
open AttributeRelease.Text.Reader

/-- Skips blanks and comments in an extended text. -/
def skip (extended : Bool) : Reader Unit :=
  if extended then
    iterate (fun _ => do
      match ← peek? with
      | some '#' =>
        let _ ← takeWhile (· != '\n')
        let _ ← accept '\n'
        return .inl ()
      | some c =>
        if Text.isSpace c then
          let _ ← next
          return .inl ()
        else return .inr ()
      | none => return .inr ()) ()
  else pure ()

/-- Skips blanks and comments in an extended text, which has to go on after them. -/
def skipWithin (extended : Bool) : Reader Unit := do
  skip extended
  check (!(← atEnd))

/-- A part that a backslash can begin. -/
inductive Primitive where
  | literal (literal : Literal)
  | assertion (assertion : Assertion)
  | named (negated : Bool) (set : NamedSet)

/-- A character without a special spelling. -/
def plain (c : Char) : Literal := ⟨c, false⟩

/-- The character with a code. -/
def character (digits : List Char) (isByte : Bool) : Reader Literal :=
  match Text.char? (Text.hexadecimal digits) with
  | some c => pure ⟨c, isByte⟩
  | none => fail

/-- Takes hexadecimal digits that spell a character: a number of them, or any number in braces. -/
def hexadecimal (extended : Bool) (count : Nat) : Reader Literal := do
  skipWithin extended
  if ← accept '\x7b' then
    skip extended
    let digits ← iterate (fun reversed => do
      match ← next with
      | '\x7d' => return .inr reversed.reverse
      | c => do
        check (Text.isHexDigit c)
        skip extended
        return .inl (c :: reversed)) []
    skip extended
    check (!digits.isEmpty)
    character digits false
  else
    let digits ← (List.range count).mapM fun _ => do
      let c ← next
      check (Text.isHexDigit c)
      skip extended
      return c
    character digits (count == 2)

/-- What comes before and after the first place where a list has a given part. -/
def cut? (part : List Char) : List Char → Option (List Char × List Char)
  | [] => none
  | c :: rest =>
    if part.isPrefixOf (c :: rest) then some ([], (c :: rest).drop part.length)
    else (cut? part rest).map fun (before, after) => (c :: before, after)

/-- The named set that a property spells, and whether an unequal sign negates it. -/
def property (spelling : List Char) : Bool × NamedSet :=
  let valued (sides : List Char × List Char) : NamedSet :=
    .propertyValue (String.ofList sides.1) (String.ofList sides.2)
  match cut? ['!', '='] spelling, cut? [':'] spelling, cut? ['='] spelling with
  | some sides, _, _ => (true, valued sides)
  | none, some sides, _ => (false, valued sides)
  | none, none, some sides => (false, valued sides)
  | none, none, none => (false, .property (String.ofList spelling))

/-- Takes the name of a property: one letter, or several in braces. -/
def propertySet (extended : Bool) (negated : Bool) : Reader Primitive := do
  skipWithin extended
  if ← accept '\x7b' then
    skip extended
    let spelling ← iterate (fun reversed => do
      match ← next with
      | '\x7d' => return .inr reversed.reverse
      | c => do
        skip extended
        return .inl (c :: reversed)) []
    let (unequal, set) := property spelling
    return .named (negated != unequal) set
  else
    let c ← next
    check (c != '\\')
    skip extended
    return .named negated (.property (String.ofList [c]))

/-- Whether a character stands for itself after a backslash. -/
def isEscapable (c : Char) : Bool :=
  c.toNat < 128 && !c.isAlphanum && c != '<' && c != '>'

/-- The condition that a word in braces after a word boundary names. -/
def boundaryNamed? : List Char → Option Assertion
  | ['s', 't', 'a', 'r', 't'] => some .wordStart
  | ['e', 'n', 'd'] => some .wordEnd
  | ['s', 't', 'a', 'r', 't', '-', 'h', 'a', 'l', 'f'] => some .wordStartHalf
  | ['e', 'n', 'd', '-', 'h', 'a', 'l', 'f'] => some .wordEndHalf
  | _ => none

/-- Takes the word in braces that may follow a word boundary. Braces that hold anything but a word
are left for a repetition. -/
def boundary (extended : Bool) : Reader Assertion := do
  let opens : Reader Bool := do
    expect '\x7b'
    skipWithin extended
    let c ← next
    return c.isAlpha || c == '-'
  match ← peek? with
  | some '\x7b' =>
    let isWord ← fun input => (opens input).map fun (isWord, _) => (isWord, input)
    if isWord then
      let _ ← next
      skip extended
      let word ← iterate (fun reversed => do
        match ← next with
        | '\x7d' => return .inr reversed.reverse
        | c => do
          check (c.isAlpha || c == '-')
          skip extended
          return .inl (c :: reversed)) []
      match boundaryNamed? word with
      | some assertion => return assertion
      | none => fail
    else return .wordBoundary
  | _ => return .wordBoundary

/-- Takes the rest of a part that began with a backslash. -/
def escape (extended : Bool) : Reader Primitive := do
  match ← next with
  | 'x' => return .literal (← hexadecimal extended 2)
  | 'u' => return .literal (← hexadecimal extended 4)
  | 'U' => return .literal (← hexadecimal extended 8)
  | 'p' => propertySet extended false
  | 'P' => propertySet extended true
  | 'd' => return .named false .digit
  | 'D' => return .named true .digit
  | 's' => return .named false .space
  | 'S' => return .named true .space
  | 'w' => return .named false .word
  | 'W' => return .named true .word
  | 'a' => return .literal (plain '\x07')
  | 'f' => return .literal (plain '\x0c')
  | 't' => return .literal (plain '\t')
  | 'n' => return .literal (plain '\n')
  | 'r' => return .literal (plain '\r')
  | 'v' => return .literal (plain '\x0b')
  | 'A' => return .assertion .textStart
  | 'z' => return .assertion .textEnd
  | 'b' => return .assertion (← boundary extended)
  | 'B' => return .assertion .noWordBoundary
  | '<' => return .assertion .wordStart
  | '>' => return .assertion .wordEnd
  | c => do
    check (isEscapable c)
    return .literal (plain c)

/-- The named sets of ASCII characters. -/
def asciiNames : List String :=
  ["alnum", "alpha", "ascii", "blank", "cntrl", "digit", "graph", "lower", "print", "punct",
    "space", "upper", "word", "xdigit"]

/-- Whether a text begins with the sign that negates a set, and what follows this sign. -/
def pastSign : List Char → Bool × List Char
  | '^' :: rest => (true, rest)
  | rest => (false, rest)

/-- Takes a named set of ASCII characters if there is one, such as `[:alpha:]`. -/
def asciiSet : Reader (Option SetForm) := fun input =>
  match input with
  | '[' :: ':' :: rest =>
    let (negated, text) := pastSign rest
    let name := String.ofList (text.takeWhile (· != ':'))
    match text.dropWhile (· != ':') with
    | ':' :: ']' :: after =>
      if asciiNames.contains name then some (some (.named negated (.ascii name)), after)
      else some (none, input)
    | _ => some (none, input)
  | _ => some (none, input)

/-- Takes one character or named set between brackets. -/
def setPrimitive (extended : Bool) : Reader Primitive := do
  match ← next with
  | '\\' => escape extended
  | c => return .literal (plain c)

/-- What is left of a text without the blanks at its front, or, if these lead to a comment, what the
comment holds without the blanks at its front. -/
def pastBlanks (text : List Char) : List Char :=
  match text.dropWhile Text.isSpace with
  | '#' :: inside => inside.dropWhile Text.isSpace
  | found => found

/-- The character that decides what a hyphen means, in a text that begins where a hyphen may stand: a
closing bracket if there is no hyphen, and else the character after it. In an extended text that is
the first one after blanks and a number sign; a comment is not left out here, so that the first
character inside it decides. -/
def afterHyphen (extended : Bool) : List Char → Option Char
  | '-' :: rest => if extended then (pastBlanks rest).head? <|> rest.head? else rest.head?
  | _ => some ']'

/-- Takes a character, a range of characters or a named set between brackets. -/
def setItem (extended : Bool) : Reader SetForm := do
  let first ← setPrimitive extended
  skipWithin extended
  let ahead ← fun input => some (afterHyphen extended input, input)
  if ahead == some ']' || ahead == some '-' then
    match first with
    | .literal literal => return .literal literal
    | .named negated set => return .named negated set
    | .assertion _ => fail
  else
    expect '-'
    skipWithin extended
    match first, ← setPrimitive extended with
    | .literal first, .literal last => do
      check (first.char ≤ last.char)
      return .range first last
    | _, _ => fail

/-- Takes what may begin a set after its opening bracket: a sign that negates it, and hyphens, or
else a closing bracket, that mean themselves. -/
def setStart (extended : Bool) : Reader (Bool × List SetForm) := do
  skipWithin extended
  let negated ← accept '^'
  if negated then skipWithin extended
  let hyphens ← iterate (fun hyphens => do
    if ← accept '-' then
      skipWithin extended
      return .inl (.literal (plain '-') :: hyphens)
    else return .inr hyphens) []
  if hyphens.isEmpty then
    if ← accept ']' then
      skipWithin extended
      return (negated, [.literal (plain ']')])
  return (negated, hyphens)

/-- The union of parts that are given last first. -/
def unionOf : List SetForm → SetForm
  | [part] => part
  | reversed => .union reversed.reverse

/-- Combines a set with the one before it, if an operation stands between them. -/
def combine (pending : Option (SetOperation × SetForm)) (set : SetForm) : SetForm :=
  match pending with
  | some (operation, left) => .combined operation left set
  | none => set

/-- The operation that two characters spell. -/
def operation? : List Char → Option SetOperation
  | ['&', '&'] => some .intersection
  | ['-', '-'] => some .difference
  | ['~', '~'] => some .symmetricDifference
  | _ => none

/-- Takes the rest of a set after its opening bracket, in which sets are nested at most `depth`
deep: whether it is negated, and what it holds. -/
def set (extended : Bool) : Nat → Reader (Bool × SetForm)
  | 0 => fail
  | depth + 1 => do
    let (negated, first) ← setStart extended
    let inner ← iterate (fun (pending, items) => do
      skipWithin extended
      if (← peek?) == some '[' then
        match ← asciiSet with
        | some item => return .inl (pending, item :: items)
        | none => do
          let _ ← next
          let (negated, inner) ← set extended depth
          return .inl (pending, .bracketed negated inner :: items)
      else if ← accept ']' then
        return .inr (combine pending (unionOf items))
      else
        match operation? (← peekMany 2) with
        | some operation => do
          let _ ← takeExactly 2
          return .inl (some (operation, combine pending (unionOf items)), [])
        | none => return .inl (pending, (← setItem extended) :: items))
      ((none, first) : Option (SetOperation × SetForm) × List SetForm)
    return (negated, inner)

/-- Takes a whole number with blanks around it. -/
def count (extended : Bool) : Reader Nat := do
  let _ ← takeWhile Text.isSpace
  let digits ← iterate (fun reversed => do
    match ← peek? with
    | some c =>
      if c.isDigit then
        let _ ← next
        skip extended
        return .inl (c :: reversed)
      else return .inr reversed.reverse
    | none => return .inr reversed.reverse) []
  let _ ← takeWhile Text.isSpace
  skip extended
  check (!digits.isEmpty && Text.decimal digits < Nat.pow 2 32)
  return Text.decimal digits

/-- Takes the bounds of a repetition after their opening brace. -/
def bounds (extended : Bool) : Reader (Nat × Option Nat) := do
  skipWithin extended
  let least ← count extended
  let most ← if ← accept ',' then do
      skipWithin extended
      if (← peek?) == some '\x7d' then pure none else some <$> count extended
    else pure (some least)
  expect '\x7d'
  check (most.all fun most => least ≤ most)
  skip extended
  return (least, most)

/-- The setting that a letter switches. -/
def flag? : Char → Option Flag
  | 'i' => some .ignoreCase
  | 'm' => some .multiLine
  | 's' => some .dotAll
  | 'U' => some .swapGreed
  | 'u' => some .unicode
  | 'R' => some .anyLineEnd
  | 'x' => some .extended
  | _ => none

/-- Takes the letters of settings up to a colon or a closing parenthesis, which stays. Those after
a hyphen are switched off. No letter may come twice, and letters have to follow the hyphen. -/
def switches : Reader Switches := do
  let letters ← takeWhile fun c => c != ':' && c != ')'
  check (!(← atEnd) && letters.getLast? != some '-')
  let on := letters.takeWhile (· != '-')
  let off := (letters.dropWhile (· != '-')).drop 1
  match on.mapM flag?, off.mapM flag? with
  | some on, some off => do
    check (on ++ off).Nodup
    return on.map (·, true) ++ off.map (·, false)
  | _, _ => fail

/-- Whether a character may stand in the name of a group, at its beginning or later. -/
def isNameChar (atStart : Bool) (c : Char) : Bool :=
  c == '_' ||
    if atStart then Unicode.letters.contains c
    else c == '.' || c == '[' || c == ']' || Unicode.lettersAndNumbers.contains c

/-- Takes the name of a group and the mark after it. -/
def groupName : Reader String := do
  let name ← takeWhile (· != '>')
  expect '>'
  match name with
  | first :: rest => do
    check (isNameChar true first && rest.all (isNameChar false))
    return String.ofList name
  | [] => fail

/-- What follows an opening parenthesis: settings for the rest of the enclosing group, or the
beginning of a group. -/
inductive Opening where
  | switches (switches : Switches)
  | group (kind : GroupKind)

/-- Takes what follows an opening parenthesis. -/
def opening (extended : Bool) : Reader Opening := do
  skip extended
  let ahead ← peekMany 3
  check (ahead.take 2 != ['?', '='] && ahead.take 2 != ['?', '!'] && ahead != ['?', '<', '='] &&
    ahead != ['?', '<', '!'])
  if ← acceptAll ['?', 'P', '<'] then return .group (.named (← groupName))
  if ← acceptAll ['?', '<'] then return .group (.named (← groupName))
  if ← accept '?' then
    let switches ← switches
    if ← accept ')' then
      check (!switches.isEmpty)
      return .switches switches
    else
      expect ':'
      return .group (.plain switches)
  return .group .numbered

/-- Whether a text goes on as an extended one after settings are switched. -/
def extendedAfter (switches : Switches) (extended : Bool) : Bool :=
  match switches.find? (·.1 == .extended) with
  | some (_, on) => on
  | none => extended

/-- Parts one after the other, given last first. -/
def concatenationOf : List Form → Form
  | [] => .empty
  | [part] => part
  | reversed => .concatenation reversed.reverse

/-- Branches side by side, given last first. -/
def alternationOf : List Form → Form
  | [branch] => branch
  | reversed => .alternation reversed.reverse

/-- How far a group has been read: whether its text is extended, and the parts of the last branch
and the branches before it, last first. -/
structure Progress where
  extended : Bool
  parts : List Form
  branches : List Form

namespace Progress

/-- Adds a part. -/
def add (progress : Progress) (part : Form) : Progress :=
  { progress with parts := part :: progress.parts }

/-- Ends a branch. -/
def endBranch (progress : Progress) : Progress :=
  { progress with parts := [], branches := concatenationOf progress.parts :: progress.branches }

/-- Repeats the last part; settings cannot be repeated. -/
def repeatLast? (progress : Progress) (least : Nat) (most : Option Nat) (isLazy : Bool) :
    Option Progress :=
  match progress.parts with
  | [] | .switches _ :: _ => none
  | part :: parts => some { progress with parts := .repeated part least most isLazy :: parts }

/-- What the group holds. -/
def form (progress : Progress) : Form :=
  alternationOf (concatenationOf progress.parts :: progress.branches)

end Progress

/-- Takes the rest of a repetition, a mark that makes it lazy, and repeats the last part. -/
def repetition (progress : Progress) (bounds : Nat × Option Nat) : Reader Progress := do
  let isLazy ← accept '?'
  match progress.repeatLast? bounds.1 bounds.2 isLazy with
  | some progress => return progress
  | none => fail

/-- Goes on with a group by its next part, or by a mark after a part, unless the group ends here. What
groups inside it hold is read by `inner`, which is told whether their text is extended. -/
def part (inner : Bool → Reader Form) (progress : Progress) : Reader (Progress ⊕ Progress) := do
  skip progress.extended
  match ← peek? with
  | none | some ')' => return .inr progress
  | some '|' => do
    let _ ← next
    return .inl progress.endBranch
  | some '(' => do
    let _ ← next
    match ← opening progress.extended with
    | .switches switches =>
      return .inl
        { progress.add (.switches switches) with
          extended := extendedAfter switches progress.extended }
    | .group kind => do
      let body ← inner (extendedAfter kind.switches progress.extended)
      expect ')'
      return .inl (progress.add (.group kind body))
  | some '[' => do
    let _ ← next
    let (negated, members) ← set progress.extended 251
    return .inl (progress.add (.bracketed negated members))
  | some '?' => do
    let _ ← next
    return .inl (← repetition progress (0, some 1))
  | some '*' => do
    let _ ← next
    return .inl (← repetition progress (0, none))
  | some '+' => do
    let _ ← next
    return .inl (← repetition progress (1, none))
  | some '\x7b' => do
    let _ ← next
    return .inl (← repetition progress (← bounds progress.extended))
  | some '\\' => do
    let _ ← next
    match ← escape progress.extended with
    | .literal literal => return .inl (progress.add (.literal literal))
    | .assertion assertion => return .inl (progress.add (.assertion assertion))
    | .named negated set => return .inl (progress.add (.named negated set))
  | some '.' => do
    let _ ← next
    return .inl (progress.add .dot)
  | some '^' => do
    let _ ← next
    return .inl (progress.add (.assertion .lineStart))
  | some '$' => do
    let _ ← next
    return .inl (progress.add (.assertion .lineEnd))
  | some c => do
    let _ ← next
    return .inl (progress.add (.literal (plain c)))

/-- Takes what a group holds, in which groups are nested at most `depth` deep. -/
def group : Nat → Bool → Reader Form
  | 0, _ => fail
  | depth + 1, extended => do
    let progress ← iterate (part (group depth)) ⟨extended, [], []⟩
    return progress.form

/-- The greatest depth of nested parts. -/
def depthLimit : Nat := 250

/-- The written form of a pattern, whose groups have different names and whose parts are not nested
too deep. -/
def read? (pattern : String) : Option Form := do
  let form ← whole? (group (depthLimit + 1) false) pattern
  if form.depth ≤ depthLimit ∧ form.groupNames.Nodup then some form else none

end AttributeRelease.Regex.Parser
