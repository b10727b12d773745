import AttributeRelease.Text.Digit
import AttributeRelease.Text.Reader

/-!
# Doubles in decimal

Reading a decimal number as the nearest double, and writing a double with the fewest digits that
read back as it. Writing works on the exact value, a whole number times a power of two: the numbers
that read back are those in the interval around it that rounding takes to it, and the coarsest
decimal grid that has a point in the interval gives the digits.
-/

namespace AttributeRelease.Text.Double

open Reader

/-- The double nearest to `digits` times ten to the power `exponent`. -/
def ofDecimal (digits : Nat) (exponent : Int) : Float :=
  let size := (Nat.toDigits 10 digits).length
  if digits = 0 then 0.0
  else if 400 < size + exponent then 1.0 / 0.0
  else if size + exponent < -400 then 0.0
  else Float.ofScientific digits (exponent < 0) exponent.natAbs

/-- The double nearest to a whole number below 2^1024 as a whole number, the one with an even mantissa
of two that are equally near. -/
def nearest (number : Nat) : Nat :=
  let step := Nat.pow 2 (number.log2 - 52)
  let mantissa := number / step
  let rest := number % step
  let isUp := step < 2 * rest || (2 * rest = step && mantissa % 2 = 1)
  (if isUp then mantissa + 1 else mantissa) * step

/-- Takes an optional exponent. -/
def exponent : Reader Int := do
  match ← peek? with
  | some 'e' | some 'E' =>
    let _ ← next
    let below ← accept '-'
    let _ ← if below then pure false else accept '+'
    let digits ← takeWhile Char.isDigit
    check (!digits.isEmpty)
    let value : Int := decimal digits
    return if below then -value else value
  | _ => return 0

/-- Takes a number without a sign, which has digits before or after its point. -/
def magnitude : Reader Float := do
  let whole ← takeWhile Char.isDigit
  let fraction ← if ← accept '.' then takeWhile Char.isDigit else pure []
  check (!(whole.isEmpty && fraction.isEmpty))
  let exponent ← exponent
  return ofDecimal (decimal (whole ++ fraction)) (exponent - fraction.length)

/-- Takes a word without regard to case, and tells whether it was there. -/
def acceptWord (word : String) : Reader Bool := fun input =>
  if (input.take word.length).map Char.toLower = word.toList then
    some (true, input.drop word.length)
  else some (false, input)

/-- Takes a number, infinity or what is no number, with an optional sign. -/
def number : Reader Float := do
  let negative ← accept '-'
  let _ ← if negative then pure false else accept '+'
  let value ← if ← acceptWord "infinity" then pure (1.0 / 0.0)
    else if ← acceptWord "inf" then pure (1.0 / 0.0)
    else if ← acceptWord "nan" then pure (0.0 / 0.0)
    else magnitude
  return if negative then -value else value

/-- The double that a text spells. -/
def read? (text : String) : Option Float := whole? number text

/-- A point of a decimal grid: a whole number times a power of ten. -/
structure Point where
  digits : Nat
  exponent : Int

/-- A fraction of two whole numbers. -/
structure Ratio where
  numerator : Nat
  denominator : Nat

/-- Whether one fraction is at most another. -/
def Ratio.le (left right : Ratio) : Bool :=
  left.numerator * right.denominator ≤ right.numerator * left.denominator

/-- A whole number times a power of a base. -/
def Ratio.scaled (number base : Nat) (exponent : Int) : Ratio :=
  if 0 ≤ exponent then ⟨number * Nat.pow base exponent.toNat, 1⟩
  else ⟨number, Nat.pow base exponent.natAbs⟩

/-- The numbers that rounding takes to a double: those between two ends, with or without the ends. -/
structure Interval where
  low : Ratio
  high : Ratio
  hasEnds : Bool

/-- Whether a number lies in an interval. -/
def Interval.contains (interval : Interval) (number : Ratio) : Bool :=
  interval.low.le number && number.le interval.high &&
    (interval.hasEnds || (!number.le interval.low && !interval.high.le number))

/-- The interval of a double that is a mantissa times a power of two. It is narrower below where the
doubles below are closer to each other. -/
def intervalOf (mantissa : Nat) (exponent : Int) : Interval where
  low :=
    if mantissa = Nat.pow 2 52 ∧ -1074 < exponent then .scaled (4 * mantissa - 1) 2 (exponent - 2)
    else .scaled (2 * mantissa - 1) 2 (exponent - 1)
  high := .scaled (2 * mantissa + 1) 2 (exponent - 1)
  hasEnds := mantissa % 2 = 0

/-- The first grid of those from an exponent downwards with a point in an interval, and the point of
it that is nearest to a number, the greater of two that are equally near. -/
def coarsest (interval : Interval) (number : Ratio) : Nat → Int → Point
  | 0, exponent => ⟨0, exponent⟩
  | count + 1, exponent =>
    let step := Ratio.scaled 1 10 exponent
    let below := number.numerator * step.denominator / (number.denominator * step.numerator)
    let isIn (digits : Nat) : Bool := interval.contains (.scaled digits 10 exponent)
    let half := Ratio.mk ((2 * below + 1) * step.numerator) (2 * step.denominator)
    if isIn below && (!isIn (below + 1) || !half.le number) then ⟨below, exponent⟩
    else if isIn (below + 1) then ⟨below + 1, exponent⟩
    else coarsest interval number count (exponent - 1)

/-- The shortest decimal that reads back as a positive double that is a mantissa times a power of
two. -/
def shortest (mantissa : Nat) (exponent : Int) : Point :=
  coarsest (intervalOf mantissa exponent) (.scaled mantissa 2 exponent) 700 310

/-- A point of a decimal grid without an exponent. -/
def positional (point : Point) : List Char :=
  let digits := Nat.toDigits 10 point.digits
  if 0 ≤ point.exponent then digits ++ List.replicate point.exponent.toNat '0'
  else
    let places := point.exponent.natAbs
    let padded := List.replicate (places + 1 - digits.length) '0' ++ digits
    padded.take (padded.length - places) ++ '.' :: padded.drop (padded.length - places)

/-- The text of a double: the fewest digits that read back, without an exponent. -/
def write (value : Float) : String :=
  let bits := value.toBits.toNat
  let sign := if Nat.pow 2 63 ≤ bits then ['-'] else []
  let power : Nat := bits / Nat.pow 2 52 % 2048
  let fraction := bits % Nat.pow 2 52
  if power = 2047 then
    if fraction = 0 then String.ofList (sign ++ "inf".toList) else "NaN"
  else if power = 0 ∧ fraction = 0 then String.ofList (sign ++ ['0'])
  else
    let point := if power = 0 then shortest fraction (-1074)
      else shortest (fraction + Nat.pow 2 52) ((power : Int) - 1075)
    String.ofList (sign ++ positional point)

end AttributeRelease.Text.Double
