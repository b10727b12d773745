import AttributeRelease.Expression.Datum
import AttributeRelease.Regex.Pattern

/-!
# Functions of expressions

The functions that expressions can call. Most apply to the target that they are called on, or to the
first argument if there is no target. Arguments beyond those that a function takes are not looked at.
-/

namespace AttributeRelease.Expression

/-- What a function takes. -/
inductive Takes where
  /-- A target, or the first argument in its place, and a number of arguments. -/
  | target (arguments : Nat)
  /-- A number of arguments. -/
  | arguments (number : Nat)
  /-- All arguments. -/
  | all
  deriving DecidableEq, Repr

/-- What the function of a name takes, if there is one. -/
def takes? : String → Option Takes
  | "contains" => some (.target 1)
  | "size" => some (.target 0)
  | "max" => some .all
  | "min" => some .all
  | "startsWith" => some (.target 1)
  | "endsWith" => some (.target 1)
  | "matches" => some (.target 1)
  | "string" => some (.target 0)
  | "bytes" => some (.arguments 1)
  | "double" => some (.target 0)
  | "int" => some (.target 0)
  | "uint" => some (.target 0)
  | "duration" => some (.arguments 1)
  | "timestamp" => some (.arguments 1)
  | "getFullYear" => some (.target 0)
  | "getMonth" => some (.target 0)
  | "getDayOfYear" => some (.target 0)
  | "getDayOfMonth" => some (.target 0)
  | "getDate" => some (.target 0)
  | "getDayOfWeek" => some (.target 0)
  | "getHours" => some (.target 0)
  | "getMinutes" => some (.target 0)
  | "getSeconds" => some (.target 0)
  | "getMilliseconds" => some (.target 0)
  | _ => none

namespace Datum

open AttributeRelease.Time (Instant Date)

/-- Whether a value holds another. What can hold nothing does not. -/
def contains? (whole part : Datum) : Option Bool :=
  match whole, part with
  | list items, item => some (items.any fun other => other.equals item)
  | map entries, key => key.toKey?.map fun key => (lookUp entries key).isSome
  | text whole, text part => some (isStretch part.toList whole.toList)
  | bytes whole, bytes part => if part.isEmpty then none else some (isStretch part whole)
  | _, _ => some false

/-- The number of items, entries or bytes. -/
def size? : Datum → Option Nat
  | list items => some items.length
  | map entries => some entries.length
  | text value => some value.utf8ByteSize
  | bytes octets => some octets.length
  | _ => none

/-- The whole number that digits with an optional sign spell. -/
def wholeNumber? (value : String) : Option Int :=
  let (negative, digits) := match value.toList with
    | '-' :: rest => (true, rest)
    | '+' :: rest => (false, rest)
    | digits => (false, digits)
  if !digits.isEmpty && digits.all Char.isDigit then
    some (if negative then -(Text.decimal digits : Int) else Text.decimal digits)
  else none

/-- The whole part of a double. -/
def truncate (value : Float) : Int :=
  if value.isNaN then 0
  else if value < 0.0 then -((-value).toUInt64.toNat : Int) else value.toUInt64.toNat

/-- A text from bytes, in which what is no text is replaced. -/
def ofBytes (octets : List UInt8) : String :=
  String.ofList (Text.Utf8.decode (octets.map UInt8.toNat))

/-- The text of a value. -/
def toText? : Datum → Option String
  | text value => some value
  | integer value => some (toString value)
  | unsigned value => some (toString value)
  | double value => some (Text.Double.write value)
  | bytes octets => some (ofBytes octets)
  | timestamp instant offset => some (Time.Rfc3339.writeLocal instant offset)
  | duration nanoseconds => Time.Duration.write? nanoseconds
  | _ => none

/-- The double of a value. -/
def toDouble? : Datum → Option Float
  | text value => Text.Double.read? value
  | double value => some value
  | integer value => some (Float.ofInt value)
  | unsigned value => some (Float.ofNat value)
  | _ => none

/-- The number with a sign of a value, if it fits. -/
def toInteger? : Datum → Option Datum
  | text value => (wholeNumber? value).bind integer?
  | double value =>
    if 9223372036854775807.0 < value ∨ value < -9223372036854775808.0 then none
    else some (integer (min (truncate value) (Nat.pow 2 63 - 1)))
  | integer value => some (integer value)
  | unsigned value => integer? value
  | _ => none

/-- The number without a sign of a value, if it fits. -/
def toUnsigned? : Datum → Option Datum
  | text value =>
    if value.startsWith "-" then none else (wholeNumber? value).bind unsigned?
  | double value =>
    if 18446744073709551615.0 < value ∨ value < 0.0 then none
    else some (unsigned (truncate value).toNat)
  | integer value => unsigned? value
  | unsigned value => some (unsigned value)
  | _ => none

/-- The first of several values, or a later one that an order puts beyond it. -/
def extreme? (stays : Ordering) : List Datum → Option Datum
  | [] => some null
  | first :: rest =>
    rest.foldlM (fun found value => do
      let order ← compare? found value
      return if order = stays then found else value) first

/-- The items of the only value if that is a list, and otherwise the values. -/
def spread : List Datum → List Datum
  | [list items] => items
  | values => values

/-- A part of the date and time that a clock at a place with an offset shows. -/
def clock? (part : String) (instant : Instant) (offset : Int) : Option Int :=
  let seconds := instant.second + offset
  let day := seconds / 86400
  let date := Date.ofDayNumber day
  let time := seconds % 86400
  match part with
  | "getFullYear" => some date.year
  | "getMonth" => some (date.month - 1)
  | "getDayOfYear" => some (day - Date.dayNumber ⟨date.year, 1, 1⟩)
  | "getDayOfMonth" => some (date.day - 1)
  | "getDate" => some date.day
  | "getDayOfWeek" => some ((day + 4) % 7)
  | "getHours" => some (time / 3600)
  | "getMinutes" => some (time / 60 % 60)
  | "getSeconds" => some (time % 60)
  | "getMilliseconds" => some (instant.nanosecond / 1000000)
  | _ => none

end Datum

open Datum

/-- The value of a function for what it takes. -/
def call? (name : String) (values : List Datum) : Option Datum :=
  match name, values with
  | "contains", [whole, part] => (whole.contains? part).map .bool
  | "size", [value] => value.size?.map fun size => .integer size
  | "max", values => extreme? .gt (spread values)
  | "min", values => extreme? .lt (spread values)
  | "startsWith", [.text whole, .text part] => some (.bool (part.toList.isPrefixOf whole.toList))
  | "endsWith", [.text whole, .text part] => some (.bool (part.toList.isSuffixOf whole.toList))
  | "matches", [.text candidate, .text pattern] =>
    (Regex.Pattern.ofText? pattern).map fun known => .bool (known.isIn candidate)
  | "string", [value] => value.toText?.map .text
  | "bytes", [.text value] => some (.bytes value.toUTF8.toList)
  | "double", [value] => value.toDouble?.map .double
  | "int", [value] => value.toInteger?
  | "uint", [value] => value.toUnsigned?
  | "duration", [.text value] => (Time.Duration.read? value).map .duration
  | "timestamp", [.text value] =>
    (Time.Rfc3339.readStrict? value).map fun (instant, offset) => .timestamp instant offset
  | part, [.timestamp instant offset] => (clock? part instant offset).map .integer
  | _, _ => none

end AttributeRelease.Expression
