import AttributeRelease.Expression.Datum

/-!
# Tokens of expressions

The text of an expression as a list of tokens, without blanks and comments. Quotes in a literal switch
between inside and outside, which is why a literal in three quotes may not hold a single one of them. A
text may not begin with a comment, though blanks and a comment may come first.
-/

namespace AttributeRelease.Expression

open AttributeRelease.Text (Reader)
open AttributeRelease.Text.Reader

/-- A token of an expression. -/
inductive Token where
  | identifier (name : String)
  /-- A name in backquotes, with them. -/
  | quotedName (name : String)
  /-- A word with a meaning of its own: `in`, `true`, `false` or `null`. -/
  | word (name : String)
  | symbol (spelling : String)
  /-- A whole number with or without a sign to follow, by its digits. -/
  | integer (digits : String)
  | unsigned (value : Nat)
  | double (digits : String)
  | text (value : String)
  | bytes (octets : List UInt8)
  deriving DecidableEq, Repr

namespace Token

/-- Between which quotes a place in a literal lies. -/
inductive Quotation where
  | outside
  | single
  | double
  deriving DecidableEq, Repr

/-- Takes the character with a code of a number of hexadecimal digits. -/
def codePoint (count : Nat) : Reader Char := do
  let digits ← takeExactly count
  check (digits.all Text.isHexDigit)
  match Text.char? (Text.hexadecimal digits) with
  | some c => return c
  | none => fail

/-- Takes the two octal digits after a first one. -/
def octal (first : Char) : Reader Nat := do
  let digits ← takeExactly 2
  check ((first :: digits).all fun c => '0' ≤ c && c ≤ '7')
  return Text.ofDigits 8 ((first :: digits).filterMap Text.digit?)

/-- Takes the rest of an escape in a text that began with a backslash. -/
def escape : Reader Char := do
  match ← next with
  | 'a' => return '\x07'
  | 'b' => return '\x08'
  | 'f' => return '\x0c'
  | 'n' => return '\n'
  | 'r' => return '\r'
  | 't' => return '\t'
  | 'v' => return '\x0b'
  | 'x' => codePoint 2
  | 'u' => codePoint 4
  | 'U' => codePoint 8
  | c => do
    if c == '\\' || c == '?' || c == '"' || c == '\'' || c == Char.ofNat 96 then return c
    else
      check ('0' ≤ c && c ≤ '3')
      match Text.char? (← octal c) with
      | some c => return c
      | none => fail

/-- Where a place lies after a quote, and the characters that the quote stands for. -/
def Quotation.meet (quote : Char) (quotation : Quotation) : Quotation × List Char :=
  match quotation, quote == '"' with
  | .outside, true => (.double, [])
  | .outside, false => (.single, [])
  | .double, true => (.outside, [])
  | .single, false => (.outside, [])
  | inside, _ => (inside, [quote])

/-- Whether a character is the quote that ends the part of a literal that a place lies in. -/
def Quotation.isClosedBy (quotation : Quotation) (c : Char) : Bool :=
  (c == '"' && quotation = .double) || (c == '\'' && quotation = .single)

/-- Whether a character is a quote. -/
def isQuote (c : Char) : Bool := c == '"' || c == '\''

/-- Takes the characters of a literal, quotes included. A backslash before a quote stays unless that is
the quote around it. Raw literals have no other escapes, and may end between quotes. -/
def content (raw : Bool) : Reader String := do
  let reversed ← iterate (fun (quotation, reversed) => do
    if ← atEnd then
      check (raw || quotation = .outside)
      return .inr reversed
    let c ← next
    if isQuote c then
      let (quotation, chars) := quotation.meet c
      return .inl (quotation, chars ++ reversed)
    check (quotation ≠ .outside)
    if c == '\\' then
      match ← peek? with
      | some d =>
        if isQuote d || raw then
          let _ ← next
          let kept := if quotation.isClosedBy d then [d] else [d, c]
          return .inl (quotation, kept ++ reversed)
        else return .inl (quotation, (← escape) :: reversed)
      | none =>
        check raw
        return .inl (quotation, c :: reversed)
    else return .inl (quotation, c :: reversed))
    ((.outside, []) : Quotation × List Char)
  return String.ofList reversed.reverse

/-- The byte that two characters spell in hexadecimal: two digits, or a plus sign and one. -/
def byteOf? : List Char → Option Nat
  | ['+', low] => Text.hexDigit? low
  | [high, low] => do return (← Text.hexDigit? high) * 16 + (← Text.hexDigit? low)
  | _ => none

/-- Takes the bytes of a literal, which can be escaped by their numbers only. -/
def octets : Reader (List UInt8) := do
  let reversed ← iterate (fun reversed => do
    if ← atEnd then return .inr reversed
    let c ← next
    if c == '\\' then
      match ← next with
      | 'x' => do
        match byteOf? (← takeExactly 2) with
        | some byte => return .inl (UInt8.ofNat byte :: reversed)
        | none => fail
      | d => do
        check ('0' ≤ d && d ≤ '3')
        return .inl (UInt8.ofNat (← octal d) :: reversed)
    else return .inl ((String.singleton c).toUTF8.toList.reverse ++ reversed)) []
  return reversed.reverse

/-- Takes a literal from its first quote to its last, with the quotes, without looking into it. -/
def quoted (raw : Bool) : Reader (List Char) := do
  let quote ← next
  check (isQuote quote)
  let long ← acceptAll [quote, quote]
  let close := if long then [quote, quote, quote] else [quote]
  let reversed ← iterate (fun reversed => do
    if ← acceptAll close then return .inr reversed
    let c ← next
    check (long || (c != '\n' && c != '\r'))
    if c == '\\' && !raw then return .inl ((← next) :: c :: reversed)
    else return .inl (c :: reversed)) []
  let opening := if long then [quote, quote, quote] else [quote]
  return opening ++ reversed.reverse ++ close

/-- Takes a quoted literal after the letters before it. -/
def literal (letters : List Char) : Reader Token := do
  let raw := letters.any fun c => c == 'r' || c == 'R'
  let chars ← quoted raw
  if letters.head?.any fun c => c == 'b' || c == 'B' then
    -- of the letters and quotes only the first two characters and the last one are left out
    match wholeOf? octets ((letters ++ chars).drop 2).dropLast with
    | some octets => return .bytes octets
    | none => fail
  else
    match wholeOf? (content raw) chars with
    | some value => return .text value
    | none => fail

/-- The letters that may stand before a quoted literal. -/
def isLiteralLetters : List Char → Bool
  | [] => true
  | [c] => c == 'r' || c == 'R' || c == 'b' || c == 'B'
  | [b, r] => (b == 'b' || b == 'B') && (r == 'r' || r == 'R')
  | _ => false

/-- Whether a character may stand in a name. -/
def isNameChar (c : Char) : Bool := c.isAlphanum || c == '_'

/-- Takes the exponent of a number if a proper one is there. -/
def exponent : Reader (List Char) := fun input =>
  match input with
  | e :: rest =>
    if e == 'e' || e == 'E' then
      let (sign, rest) := match rest with
        | '+' :: rest => (['+'], rest)
        | '-' :: rest => (['-'], rest)
        | rest => ([], rest)
      let digits := rest.takeWhile Char.isDigit
      if digits.isEmpty then some ([], input)
      else some (e :: sign ++ digits, rest.drop digits.length)
    else some ([], input)
  | [] => some ([], [])

/-- Takes the fraction of a number if a proper one is there. -/
def fraction : Reader (List Char) := fun input =>
  match input with
  | '.' :: rest =>
    let digits := rest.takeWhile Char.isDigit
    if digits.isEmpty then some ([], input) else some ('.' :: digits, rest.drop digits.length)
  | _ => some ([], input)

/-- Takes the letter that marks numbers without a sign, and tells whether it was there. -/
def unsignedMark : Reader Bool := do
  if ← accept 'u' then return true
  accept 'U'

/-- The token of a number without a sign, which has to fit. -/
def ofUnsigned (value : Nat) : Reader Token :=
  if value < Nat.pow 2 64 then pure (.unsigned value) else fail

/-- Takes a number. -/
def number : Reader Token := do
  let hexadecimal ← fun input =>
    match input with
    | '0' :: 'x' :: rest =>
      let digits := rest.takeWhile Text.isHexDigit
      if digits.isEmpty then some (none, input) else some (some digits, rest.drop digits.length)
    | _ => some (none, input)
  match hexadecimal with
  | some digits =>
    if ← unsignedMark then ofUnsigned (Text.hexadecimal digits)
    else return .integer (String.ofList ('0' :: 'x' :: digits))
  | none =>
    let whole ← takeWhile Char.isDigit
    let fraction ← fraction
    let exponent ← exponent
    check (!(whole.isEmpty && fraction.isEmpty))
    if fraction.isEmpty && exponent.isEmpty then
      if ← unsignedMark then ofUnsigned (Text.decimal whole)
      else return .integer (String.ofList whole)
    else return .double (String.ofList (whole ++ fraction ++ exponent))

/-- The symbols, longer ones before their beginnings. -/
def symbols : List String :=
  ["==", "!=", "<=", ">=", "&&", "||", "<", ">", "[", "]", "\x7b", "\x7d", "(", ")", ".", ",",
    "-", "!", "?", ":", "+", "*", "/", "%"]

/-- Takes a symbol. -/
def anySymbol : Reader Token := fun input =>
  match symbols.find? fun spelling => spelling.toList.isPrefixOf input with
  | some spelling => some (.symbol spelling, input.drop spelling.length)
  | none => none

/-- The mark around names that are no ordinary ones. -/
def backquote : Char := Char.ofNat 96

/-- Whether a character may stand in a name in backquotes. -/
def isQuotedNameChar (c : Char) : Bool :=
  isNameChar c || c == '.' || c == '-' || c == '/' || c == ' '

/-- Takes a name in backquotes. -/
def nameInBackquotes : Reader Token := do
  expect backquote
  let name ← takeWhile isQuotedNameChar
  check (!name.isEmpty)
  expect backquote
  return .quotedName (String.ofList (backquote :: name ++ [backquote]))

/-- Takes a token. -/
def token : Reader Token := fun input =>
  match input with
  | [] => none
  | c :: rest =>
    if c.isAlpha || c == '_' then
      let name := input.takeWhile isNameChar
      let after := input.drop name.length
      if isLiteralLetters name && after.head?.any isQuote then literal name after
      else
        let name := String.ofList name
        if ["in", "true", "false", "null"].contains name then some (.word name, after)
        else some (.identifier name, after)
    else if isQuote c then literal [] input
    else if c == backquote then nameInBackquotes input
    else if c.isDigit || (c == '.' && rest.head?.any Char.isDigit) then number input
    else anySymbol input

/-- Skips blanks and comments. -/
def skip : Reader Unit :=
  iterate (fun _ => do
    if ← acceptAll ['/', '/'] then
      let _ ← takeWhile (· != '\n')
      return .inl ()
    match ← peek? with
    | some c =>
      if c == '\t' || c == ' ' || c == '\r' || c == '\n' || c == '\x0c' then
        let _ ← next
        return .inl ()
      else return .inr ()
    | none => return .inr ()) ()

/-- Takes all tokens of a text. -/
def all : Reader (List Token) := do
  check ((← peekMany 2) != ['/', '/'])
  let reversed ← iterate (fun reversed => do
    skip
    if ← atEnd then return .inr reversed
    return .inl ((← token) :: reversed)) []
  return reversed.reverse

/-- The tokens of a text. -/
def ofText? (text : String) : Option (List Token) := whole? all text

end Token

end AttributeRelease.Expression
