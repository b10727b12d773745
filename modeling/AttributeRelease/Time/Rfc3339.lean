import AttributeRelease.Text.Blank
import AttributeRelease.Text.Digit
import AttributeRelease.Text.Reader
import AttributeRelease.Time.Instant

/-!
# Written instants

Instants in the notation of RFC 3339. `write` gives the one written form in Coordinated Universal
Time; `read?` is lenient: it takes any offset, short fields, blanks between the parts, and fractions
of any length, of which it keeps nine digits.
-/

namespace AttributeRelease.Time.Rfc3339

open AttributeRelease.Text (Reader)
open AttributeRelease.Text.Reader

/-- Skips blanks. -/
def skipBlank : Reader Unit := do
  let _ ← takeWhile Text.isSpace

/-- Takes at least one and at most `most` digits. -/
def digits (most : Nat) : Reader (List Char) := fun input =>
  let taken := (input.take most).takeWhile Char.isDigit
  if taken.isEmpty then none else some (taken, input.drop taken.length)

/-- Takes a field of one or two digits. -/
def field : Reader Nat := do
  skipBlank
  return Text.decimal (← digits 2)

/-- Takes a year: four digits at most, or a sign and any number of them. -/
def year : Reader Int := do
  skipBlank
  match ← peek? with
  | some '-' => do
    let _ ← next
    let taken ← takeWhile Char.isDigit
    check (!taken.isEmpty)
    return -(Text.decimal taken : Int)
  | some '+' => do
    let _ ← next
    let taken ← takeWhile Char.isDigit
    check (!taken.isEmpty)
    return Text.decimal taken
  | _ => return Text.decimal (← digits 4)

/-- Takes blanks and a separator. -/
def separator (mark : Char) : Reader Unit := do
  skipBlank
  expect mark

/-- The nanoseconds that the digits of a fraction spell. -/
def ofFraction (digits : List Char) : Nat :=
  Text.decimal digits * Nat.pow 10 (9 - digits.length)

/-- Takes a fraction of a second if there is one. -/
def fraction : Reader Nat := do
  if ← accept '.' then
    let taken ← digits 9
    let _ ← takeWhile Char.isDigit
    return ofFraction taken
  else return 0

/-- Takes two digits that spell a number below a bound. -/
def twoDigits (bound : Nat) : Reader Nat := do
  let taken ← takeExactly 2
  check (taken.all Char.isDigit && Text.decimal taken < bound)
  return Text.decimal taken

/-- Takes an offset from Coordinated Universal Time, in seconds. -/
def offset : Reader Int := do
  let ahead ← peekMany 3
  if ahead.map Char.toUpper = ['U', 'T', 'C'] then
    let _ ← takeExactly 3
    return 0
  match ← next with
  | 'Z' | 'z' => return 0
  | sign => do
    check (sign == '+' || sign == '-' || sign == '\u2212')
    let hours ← twoDigits 24
    let _ ← takeWhile fun c => c == ':' || Text.isSpace c
    let minutes ← twoDigits 60
    let seconds : Int := hours * 3600 + minutes * 60
    return if sign == '+' then seconds else -seconds

/-- Takes the mark between date and time. -/
def dateEnd : Reader Unit := do
  let mark ← next
  check (mark == 'T' || mark == 't' || mark == ' ')

/-- The instant at a local date, time and offset. A second number sixty is the leap second after
the fifty-ninth. -/
def instant? (date : Date) (hour minute second nanosecond : Nat) (offset : Int) : Option Instant :=
  let number := date.dayNumber
  let leap := second = 60
  let seconds := hour * 3600 + minute * 60 + (if leap then 59 else second)
  let clock : Int := number * 86400 + seconds
  if date.isValid && inRange (number * 86400) && hour < 24 && minute < 60 && second ≤ 60 then
    Instant.of? (clock - offset) (if leap then nanosecond + 1000000000 else nanosecond)
  else none

/-- Takes an offset whose hours and minutes a colon separates. -/
def strictOffset : Reader Int := do
  match ← next with
  | 'Z' | 'z' => return 0
  | sign => do
    check (sign == '+' || sign == '-' || sign == '\u2212')
    let hours ← twoDigits 24
    expect ':'
    let minutes ← twoDigits 60
    let seconds : Int := hours * 3600 + minutes * 60
    return if sign == '+' then seconds else -seconds

/-- Takes an instant whose parts have their full lengths and no blanks between them, with its
offset. -/
def strictInstant : Reader (Instant × Int) := do
  let year ← takeExactly 4
  check (year.all Char.isDigit)
  expect '-'
  let month ← twoDigits 100
  expect '-'
  let day ← twoDigits 100
  dateEnd
  let hour ← twoDigits 100
  expect ':'
  let minute ← twoDigits 100
  expect ':'
  let second ← twoDigits 100
  let nanosecond ← fraction
  let offset ← strictOffset
  match instant? ⟨Text.decimal year, month, day⟩ hour minute second nanosecond offset with
  | some instant => return (instant, offset)
  | none => fail

/-- Takes an instant. -/
def instant : Reader Instant := do
  let year ← year
  separator '-'
  let month ← field
  separator '-'
  let day ← field
  dateEnd
  let hour ← field
  separator ':'
  let minute ← field
  separator ':'
  let second ← field
  let nanosecond ← fraction
  skipBlank
  let offset ← offset
  skipBlank
  match instant? ⟨year, month, day⟩ hour minute second nanosecond offset with
  | some instant => return instant
  | none => fail

/-- The instant that a text denotes. -/
def read? (text : String) : Option Instant := whole? instant text

/-- The instant that a text denotes in full, and its offset. -/
def readStrict? (text : String) : Option (Instant × Int) := whole? strictInstant text

/-- A year: four digits, with a sign and more digits if need be outside 0 to 9999. -/
def yearText (year : Int) : List Char :=
  if 0 ≤ year ∧ year ≤ 9999 then Text.padded 4 year.natAbs
  else (if year < 0 then '-' else '+') :: Text.padded 4 year.natAbs

/-- A fraction: none, or three, six or nine digits, the fewest that are exact. -/
def fractionText (nanosecond : Nat) : List Char :=
  if nanosecond = 0 then []
  else if nanosecond % 1000000 = 0 then '.' :: Text.padded 3 (nanosecond / 1000000)
  else if nanosecond % 1000 = 0 then '.' :: Text.padded 6 (nanosecond / 1000)
  else '.' :: Text.padded 9 nanosecond

/-- The date and time of a number of seconds from the start of 1970, of which a leap second, which
the nanoseconds tell, is the sixtieth of its minute. -/
def secondsText (seconds : Int) (nanosecond : Nat) : List Char :=
  let date := Date.ofDayNumber (seconds / 86400)
  let time := (seconds % 86400).toNat
  let second := time % 60 + nanosecond / 1000000000
  yearText date.year ++ '-' :: Text.padded 2 date.month ++ '-' :: Text.padded 2 date.day ++
    'T' :: Text.padded 2 (time / 3600) ++ ':' :: Text.padded 2 (time / 60 % 60) ++
    ':' :: Text.padded 2 second

/-- The written form of an instant, with the shortest exact fraction. -/
def write (instant : Instant) : String :=
  String.ofList
    (secondsText instant.second instant.nanosecond ++
      fractionText (instant.nanosecond % 1000000000) ++ ['Z'])

/-- The written form of an instant without its fraction. -/
def writeSeconds (instant : Instant) : String :=
  String.ofList (secondsText instant.second instant.nanosecond ++ ['Z'])

/-- The written form of an instant at a place with an offset. -/
def writeLocal (instant : Instant) (offset : Int) : String :=
  let minutes := offset.natAbs / 60
  String.ofList
    (secondsText (instant.second + offset) instant.nanosecond ++
      fractionText (instant.nanosecond % 1000000000) ++
      (if offset < 0 then '-' else '+') :: Text.padded 2 (minutes / 60) ++
      ':' :: Text.padded 2 (minutes % 60))

end AttributeRelease.Time.Rfc3339
