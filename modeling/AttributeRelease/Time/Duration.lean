import AttributeRelease.Text.Double

/-!
# Lengths of time

Lengths of time in nanoseconds, written as numbers with units such as `1h30m`. They are kept as long as
their milliseconds fit in 64 bits, and have a written form as long as their nanoseconds do, or nearly
so.
-/

namespace AttributeRelease.Time.Duration

open AttributeRelease.Text (Reader)
open AttributeRelease.Text.Reader

/-- Whether the milliseconds of a length of time fit in 64 bits. -/
def inRange (nanoseconds : Int) : Bool :=
  nanoseconds.natAbs ≤ (Nat.pow 2 63 - 1) * 1000000

/-- Whether the nanoseconds of a length of time fit in 64 bits. -/
def hasWords (nanoseconds : Int) : Bool :=
  -Nat.pow 2 63 ≤ nanoseconds && nanoseconds < Nat.pow 2 63

/-- The units with their lengths in nanoseconds, longer names before their beginnings. -/
def units : List (String × Nat) :=
  [("ms", 1000000), ("us", 1000), ("ns", 1), ("h", 3600000000000), ("m", 60000000000),
    ("s", 1000000000)]

/-- Takes a unit and gives its length. -/
def unit : Reader Nat := fun input =>
  match units.find? fun unit => unit.1.toList.isPrefixOf input with
  | some (name, length) => some (length, input.drop name.length)
  | none => none

/-- Whether a text goes on with a number in digits, after an optional sign. -/
def startsNumber (input : List Char) : Bool :=
  let unsigned := match input with
    | '+' :: rest | '-' :: rest => rest
    | rest => rest
  match unsigned with
  | '.' :: d :: _ => d.isDigit
  | d :: _ => d.isDigit
  | [] => false

/-- Takes a number if there is one: digits with an optional sign, point and exponent, or a word for
infinity or for what is no number. A mark of an exponent has to have digits after it. -/
def number : Reader (Option Float) := do
  if ← fun input => some (startsNumber input, input) then
    return some (← Text.Double.number)
  else if ← Text.Double.acceptWord "nan" then return some (0.0 / 0.0)
  else if ← Text.Double.acceptWord "inf" then return some (1.0 / 0.0)
  else return none

/-- A number of nanoseconds without its fraction, kept within 64 bits. -/
def truncated (nanoseconds : Float) : Int :=
  if nanoseconds.isNaN then 0
  else if nanoseconds < 0.0 then -(min (-nanoseconds).toUInt64.toNat (Nat.pow 2 63) : Nat)
  else (min nanoseconds.toUInt64.toNat (Nat.pow 2 63 - 1) : Nat)

/-- Takes a number with its unit if there is one. -/
def part : Reader (Option Int) := fun input => do
  let (number, rest) ← number input
  match number, unit rest with
  | some number, some (length, rest) =>
    return (some (truncated (number * Float.ofNat length)), rest)
  | _, _ => return (none, input)

/-- Takes the length of time at the front of a text: numbers with units, or zero alone, after an
optional sign. -/
def length : Reader Int := do
  let negative ← accept '-'
  if ← fun input => some (input == ['0'], input) then return 0
  match ← part with
  | none => fail
  | some first => do
    let total ← iterate (fun total => do
      check (inRange total)
      match ← part with
      | some value => return .inl (total + value)
      | none => return .inr total) first
    return if negative then -total else total

/-- The length of time that the front of a text denotes. -/
def read? (text : String) : Option Int := (length text.toList).map (·.1)

/-- A number of units with as many decimal places as are needed, of which there are at most
`places`. -/
def decimal (value places : Nat) : List Char :=
  let whole := Nat.toDigits 10 (value / Nat.pow 10 places)
  let fraction := (Text.padded places (value % Nat.pow 10 places)).reverse.dropWhile (· == '0')
  if fraction.isEmpty ∨ places = 0 then whole else whole ++ '.' :: fraction.reverse

/-- A number of nanoseconds in words: hours, minutes and seconds, or the largest smaller unit. -/
def words (size : Nat) : List Char :=
  let minutes := size / 60000000000
  let seconds := decimal (size % 60000000000) 9 ++ ['s']
  if size = 0 then ['0', 's']
  else if size < 1000 then decimal size 0 ++ ['n', 's']
  else if size < 1000000 then decimal size 3 ++ ['µ', 's']
  else if size < 1000000000 then decimal size 6 ++ ['m', 's']
  else if minutes = 0 then seconds
  else if minutes < 60 then Nat.toDigits 10 minutes ++ 'm' :: seconds
  else Nat.toDigits 10 (minutes / 60) ++ 'h' :: Nat.toDigits 10 (minutes % 60) ++ 'm' :: seconds

/-- The number of 64 bits without a sign that a number with a sign has the bits of. -/
def unsigned (value : Int) : Nat := (value % (Nat.pow 2 64 : Nat)).toNat

/-- The written form of a length of time, if it has one. After its sign, a negative one is written by
the bits of its nanoseconds, which no longer mean its size. What has too many nanoseconds is written
by its whole seconds, the nanoseconds of which still have to fit without a sign. -/
def write? (nanoseconds : Int) : Option String :=
  let sign := if nanoseconds < 0 then ['-'] else []
  let size :=
    if hasWords nanoseconds then unsigned nanoseconds
    else unsigned (nanoseconds.tdiv 1000000000) * 1000000000
  if size < Nat.pow 2 64 then some (String.ofList (sign ++ words size)) else none

end AttributeRelease.Time.Duration
