import AttributeRelease.Text.Digit
import AttributeRelease.Text.Double
import AttributeRelease.Text.Reader
import AttributeRelease.Tree.Basic

/-!
# JSON

Reading a JSON text into a tree and writing a tree as a JSON text. Reading follows the grammar of
the standard strictly, so that there are no trailing commas. Some parts that follow it denote
nothing: lone surrogates, numbers beyond the range of doubles, lists and tables nested more than 127
deep. Where a text is only looked through for the parts that matter, such parts stay in the tree as
illegible ones; where all of it matters, they make the text invalid.
-/

namespace AttributeRelease.Json

open AttributeRelease.Text (Reader)
open AttributeRelease.Text.Reader

/-- Skips the white space that JSON allows between tokens. -/
def skipSpace : Reader Unit := do
  let _ ← takeWhile fun c => c == ' ' || c == '\n' || c == '\t' || c == '\r'

/-- Takes the four hexadecimal digits of a UTF-16 unit. -/
def unit : Reader Nat := do
  let digits ← takeExactly 4
  check (digits.all Text.isHexDigit)
  return Text.hexadecimal digits

/-- Takes the rest of an escape that began with a backslash and a `u`: a unit, or a pair of
surrogates. A lone surrogate is no character. -/
def unicodeEscape : Reader (Option Char) := do
  let first ← unit
  if 0xD800 ≤ first && first < 0xDC00 then do
    if ← acceptAll ['\\', 'u'] then
      let second ← unit
      if 0xDC00 ≤ second && second < 0xE000 then
        return Text.char? (0x10000 + (first - 0xD800) * 0x400 + (second - 0xDC00))
      else return none
    else return none
  else return Text.char? first

/-- Takes the rest of an escape that began with a backslash. -/
def escape : Reader (Option Char) := do
  match ← next with
  | '"' => pure '"'
  | '\\' => pure '\\'
  | '/' => pure '/'
  | 'b' => pure '\x08'
  | 'f' => pure '\x0c'
  | 'n' => pure '\n'
  | 'r' => pure '\r'
  | 't' => pure '\t'
  | 'u' => unicodeEscape
  | _ => fail

/-- Takes the rest of a string after its opening quote. There is no text for one with lone
surrogates. -/
def string : Reader (Option String) := do
  let reversed ← iterate (fun (reversed : List (Option Char)) => do
    match ← next with
    | '"' => pure (.inr reversed)
    | '\\' => return .inl ((← escape) :: reversed)
    | c => do
      check (0x20 ≤ c.toNat)
      pure (.inl (some c :: reversed))) []
  return (reversed.reverse.mapM id).map String.ofList

/-- Goes on with a number below 2^64 as long as it stays below. Gives the number and how many digits
are left over. -/
def prolong (start : Nat) : List Char → Nat × Nat
  | [] => (start, 0)
  | digit :: rest =>
    let longer := 10 * start + Text.decimal [digit]
    if longer < Nat.pow 2 64 then prolong longer rest else (start, rest.length + 1)

/-- Whether the product of a number below 2^64 and a power of ten rounds to a double, both factors
being rounded to doubles first. -/
def fitsDouble (digits : Nat) (exponent : Int) : Bool :=
  digits = 0 || exponent < 0 || (exponent ≤ 308 &&
    Text.Double.nearest digits * Text.Double.nearest (Nat.pow 10 exponent.toNat) <
      Nat.pow 2 1024 - Nat.pow 2 970)

/-- Whether a number that is not negative is in range. Digits that no longer fit 64 bits are left
out; before the point each of them counts as a power of ten. -/
def inRange (whole places : List Char) (exponent : Int) : Bool :=
  let (start, raised) := prolong 0 whole
  let (digits, dropped) := prolong start places
  fitsDouble digits (exponent + raised - (places.length - dropped : Nat))

/-- Takes a number. Whole numbers that fit 64 bits are integers, others in range keep their spelling. -/
def number : Reader Tree := do
  let negative ← accept '-'
  let whole ← takeWhile Char.isDigit
  check (!whole.isEmpty && (whole.head? != some '0' || whole.length == 1))
  let fraction ← if ← accept '.' then do
      let digits ← takeWhile Char.isDigit
      check (!digits.isEmpty)
      pure (some digits)
    else pure none
  let exponent ← if (← peek?) == some 'e' || (← peek?) == some 'E' then do
      let _ ← next
      let below ← accept '-'
      let _ ← if below then pure false else accept '+'
      let digits ← takeWhile Char.isDigit
      check (!digits.isEmpty)
      let value : Int := Text.decimal digits
      pure (some (if below then -value else value))
    else pure none
  let value : Int := Text.decimal whole
  if fraction.isNone && exponent.isNone && !(negative && value == 0) &&
      (if negative then value ≤ Nat.pow 2 63 else value < Nat.pow 2 64) then
    return .integer (if negative then -value else value)
  else
    let places := fraction.getD []
    if !inRange whole places (exponent.getD 0) then return .illegible
    let sign := if negative then ['-'] else []
    let point := if fraction.isSome then ['.'] else []
    let power := match exponent with
      | some e => 'e' :: (toString e).toList
      | none => []
    return .other (String.ofList (sign ++ whole ++ point ++ places ++ power))

/-- Takes items that commas separate up to a closing bracket, the opening one being taken. -/
def items {α : Type} (close : Char) (item : Reader α) : Reader (List α) := do
  skipSpace
  if ← accept close then return []
  let reversed ← iterate (fun reversed => do
    let reversed := (← item) :: reversed
    skipSpace
    match ← next with
    | ',' => pure (.inl reversed)
    | c => do
      check (c == close)
      pure (.inr reversed)) []
  return reversed.reverse

/-- Takes a value that is no list and no table. -/
def scalar : Reader Tree := do
  match ← peek? with
  | some '"' => do
    let _ ← next
    match ← string with
    | some text => return .text text
    | none => return .illegible
  | some 't' => do
    check (← acceptAll "true".toList)
    return .bool true
  | some 'f' => do
    check (← acceptAll "false".toList)
    return .bool false
  | some 'n' => do
    check (← acceptAll "null".toList)
    return .null
  | _ => number

/-- Takes the name of a field and the colon after it. -/
def name : Reader (Option String) := do
  skipSpace
  expect '"'
  let name ← string
  skipSpace
  expect ':'
  return name

/-- Takes a value without a limit to nesting and forgets it. The brackets that are open are kept by
what closes them, the innermost first. -/
def passOver : Reader Unit :=
  iterate (fun (awaited, valueIsDue) => do
    skipSpace
    if valueIsDue then
      match ← peek? with
      | some '[' => opened ']' awaited
      | some '\x7b' => opened '\x7d' awaited
      | _ => do
        let _ ← scalar
        closed awaited
    else
      match awaited, ← next with
      | ']' :: _, ',' => return .inl (awaited, true)
      | _, ',' => do
        let _ ← name
        return .inl (awaited, true)
      | close :: outer, c => do
        check (c == close)
        closed outer
      | [], _ => fail) (([], true) : List Char × Bool)
where
  /-- Goes on behind a value. -/
  closed (awaited : List Char) : Reader ((List Char × Bool) ⊕ Unit) :=
    if awaited.isEmpty then return .inr () else return .inl (awaited, false)
  /-- Takes an opening bracket, and with it the closing one or what stands before a value. -/
  opened (close : Char) (awaited : List Char) : Reader ((List Char × Bool) ⊕ Unit) := do
    let _ ← next
    skipSpace
    if ← accept close then closed awaited
    else do
      let _ ← if close = '\x7d' then name else pure none
      return .inl (close :: awaited, true)

/-- Takes a value, in which lists and tables nested at most `depth` deep are legible. -/
def value : Nat → Reader Tree
  | 0 => do
    skipSpace
    if (← peek?) == some '[' || (← peek?) == some '\x7b' then do
      passOver
      return .illegible
    else scalar
  | depth + 1 => do
    skipSpace
    match ← peek? with
    | some '[' => do
      let _ ← next
      return .list (← items ']' (value depth))
    | some '\x7b' => do
      let _ ← next
      let fields ← items '\x7d' (do
        let name ← name
        return (name, ← value depth))
      match fields.mapM fun (name, part) => name.map (·, part) with
      | some fields => return .table fields
      | none => return .illegible
    | _ => scalar

/-- The tree of a JSON text of which only some parts matter. -/
def scan? (text : String) : Option Tree :=
  whole? (do
    let tree ← value 127
    skipSpace
    return tree) text

/-- The tree that a JSON text denotes. -/
def read? (text : String) : Option Tree := (scan? text).filter Tree.isLegible

/-- The four hexadecimal digits of a UTF-16 unit below 256, in lower case. -/
def unitDigits (code : Nat) : List Char :=
  ['0', '0', Nat.digitChar (code / 16), Nat.digitChar (code % 16)]

/-- The characters that stand for a character inside quotes. -/
def escaped (c : Char) : List Char :=
  if c = '"' then ['\\', '"']
  else if c = '\\' then ['\\', '\\']
  else if c = '\x08' then ['\\', 'b']
  else if c = '\x0c' then ['\\', 'f']
  else if c = '\n' then ['\\', 'n']
  else if c = '\r' then ['\\', 'r']
  else if c = '\t' then ['\\', 't']
  else if c.toNat < 0x20 then '\\' :: 'u' :: unitDigits c.toNat
  else [c]

/-- A text in quotes. -/
def quoted (text : String) : String :=
  "\"" ++ String.ofList (text.toList.flatMap escaped) ++ "\""

/-- How a written tree is laid out: on one line, or with one item a line. -/
inductive Layout where
  | compact
  | indented

/-- What separates the items of a list or table at a nesting depth, and stands before the first. -/
def Layout.lineBreak (depth : Nat) : Layout → String
  | .compact => ""
  | .indented => "\n" ++ String.ofList (List.replicate (2 * depth) ' ')

/-- What stands between a name and its value. -/
def Layout.colon : Layout → String
  | .compact => ":"
  | .indented => ": "

mutual

/-- Writes a tree at a nesting depth, with null for what is illegible. -/
def write (layout : Layout) (depth : Nat) : Tree → String
  | .null => "null"
  | .bool true => "true"
  | .bool false => "false"
  | .integer value => toString value
  | .other spelling => spelling
  | .illegible => "null"
  | .text value => quoted value
  | .list [] => "[]"
  | .list (item :: rest) =>
    "[" ++ layout.lineBreak (depth + 1) ++ write layout (depth + 1) item ++
      writeItems layout (depth + 1) rest ++ layout.lineBreak depth ++ "]"
  | .table [] => "\x7b\x7d"
  | .table ((name, value) :: rest) =>
    "\x7b" ++ layout.lineBreak (depth + 1) ++ quoted name ++ layout.colon ++
      write layout (depth + 1) value ++ writeFields layout (depth + 1) rest ++
      layout.lineBreak depth ++ "\x7d"

/-- Writes the items after the first. -/
def writeItems (layout : Layout) (depth : Nat) : List Tree → String
  | [] => ""
  | item :: rest =>
    "," ++ layout.lineBreak depth ++ write layout depth item ++ writeItems layout depth rest

/-- Writes the fields after the first. -/
def writeFields (layout : Layout) (depth : Nat) : List (String × Tree) → String
  | [] => ""
  | (name, value) :: rest =>
    "," ++ layout.lineBreak depth ++ quoted name ++ layout.colon ++ write layout depth value ++
      writeFields layout depth rest

end

/-- A tree on one line. -/
def compact (tree : Tree) : String := write .compact 0 tree

/-- A tree with one item a line, indented by two blanks a level. -/
def pretty (tree : Tree) : String := write .indented 0 tree

end AttributeRelease.Json
