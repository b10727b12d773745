import AttributeRelease.Text.Double
import AttributeRelease.Text.Utf8
import AttributeRelease.Time.Duration
import AttributeRelease.Time.Rfc3339

/-!
# Values of expressions

The values that expressions in scripts have, with their truthiness, equality, order and arithmetic.
Numbers of different kinds can be compared with each other, but not put together. Where an operation
has no result, so that the script fails, there is none.
-/

namespace AttributeRelease.Expression

open AttributeRelease.Time (Instant)

/-- A value by which maps find others. -/
inductive Key where
  | integer (value : Int)
  | unsigned (value : Nat)
  | bool (value : Bool)
  | text (value : String)
  deriving DecidableEq, Repr

/-- The value of an expression. -/
inductive Datum where
  | null
  | bool (value : Bool)
  /-- A whole number of 64 bits with a sign. -/
  | integer (value : Int)
  /-- A whole number of 64 bits without a sign. -/
  | unsigned (value : Nat)
  | double (value : Float)
  | text (value : String)
  | bytes (octets : List UInt8)
  | list (items : List Datum)
  | map (entries : List (Key × Datum))
  /-- A length of time in nanoseconds. -/
  | duration (nanoseconds : Int)
  /-- A point in time with the offset, in seconds, of the place that told it. -/
  | timestamp (instant : Instant) (offset : Int)
  /-- A function asked for as if it were a field of its target, and not called. -/
  | function (name : String) (target : Datum)

namespace Datum

/-- The name of a value's kind. -/
def kindName : Datum → String
  | null => "null"
  | bool _ => "bool"
  | integer _ => "int"
  | unsigned _ => "uint"
  | double _ => "double"
  | text _ => "string"
  | bytes _ => "bytes"
  | list _ => "list"
  | map _ => "map"
  | duration _ => "value"
  | timestamp _ _ => "value"
  | function _ _ => "value"

/-- A whole number with a sign, if it fits. -/
def integer? (value : Int) : Option Datum :=
  if -Nat.pow 2 63 ≤ value ∧ value < Nat.pow 2 63 then some (integer value) else none

/-- A whole number without a sign, if it fits. -/
def unsigned? (value : Int) : Option Datum :=
  if 0 ≤ value ∧ value < Nat.pow 2 64 then some (unsigned value.toNat) else none

/-- A length of time, if its milliseconds fit. -/
def duration? (nanoseconds : Int) : Option Datum :=
  if Time.Duration.inRange nanoseconds then some (duration nanoseconds) else none

/-- Nanoseconds from the start of 1970 to an instant. -/
def nanoseconds (instant : Instant) : Int := instant.second * 1000000000 + instant.nanosecond

/-- Whether a value counts as true where a condition is needed. -/
def isTruthy : Datum → Bool
  | null => false
  | bool value => value
  | integer value => value != 0
  | unsigned value => value != 0
  | double value => value != 0.0
  | text value => !value.isEmpty
  | bytes octets => !octets.isEmpty
  | list items => !items.isEmpty
  | map entries => !entries.isEmpty
  | duration nanoseconds => nanoseconds != 0 && Time.Duration.hasWords nanoseconds
  | timestamp instant _ => 0 < nanoseconds instant && nanoseconds instant < Nat.pow 2 63
  | function _ _ => false

/-- The key that a value is, if it can be one. -/
def toKey? : Datum → Option Key
  | integer value => some (.integer value)
  | unsigned value => some (.unsigned value)
  | bool value => some (.bool value)
  | text value => some (.text value)
  | _ => none

/-- The value that a key is. -/
def ofKey : Key → Datum
  | .integer value => integer value
  | .unsigned value => unsigned value
  | .bool value => bool value
  | .text value => text value

/-- What a map has under a key. -/
def lookUp (entries : List (Key × Datum)) (key : Key) : Option Datum :=
  (entries.find? (·.1 == key)).map (·.2)

/-- The key of the other kind of whole number with the same value, if there is one. -/
def Key.converted? : Key → Option Key
  | .integer value => if 0 ≤ value then some (.unsigned value.toNat) else none
  | .unsigned value => if value < Nat.pow 2 63 then some (.integer value) else none
  | _ => none

/-- What a map has under a key, or else under the same number of the other kind. -/
def lookUpNumber (entries : List (Key × Datum)) (key : Key) : Option Datum :=
  lookUp entries key <|> (Key.converted? key).bind (lookUp entries)

/-- Puts a value under a key, in the place of the one that is there. -/
def put (entries : List (Key × Datum)) (key : Key) (value : Datum) : List (Key × Datum) :=
  if entries.any (·.1 == key) then
    entries.map fun entry => if entry.1 == key then (key, value) else entry
  else entries ++ [(key, value)]

mutual

/-- Whether two values are equal; values of different kinds are not, numbers apart. -/
def equals : Datum → Datum → Bool
  | null, null => true
  | bool left, bool right => left == right
  | integer left, integer right => left == right
  | integer left, unsigned right => left == right
  | integer left, double right => Float.ofInt left == right
  | unsigned left, integer right => left == right
  | unsigned left, unsigned right => left == right
  | unsigned left, double right => Float.ofNat left == right
  | double left, integer right => left == Float.ofInt right
  | double left, unsigned right => left == Float.ofNat right
  | double left, double right => left == right
  | text left, text right => left == right
  | bytes left, bytes right => left == right
  | list left, list right => allEqual left right
  | map left, map right => left.length == right.length && allFound left right
  | duration left, duration right => left == right
  | timestamp left _, timestamp right _ => left == right
  | function left leftTarget, function right rightTarget =>
    left == right && equals leftTarget rightTarget
  | _, _ => false

/-- Whether two lists have equal items. -/
def allEqual : List Datum → List Datum → Bool
  | [], [] => true
  | left :: lefts, right :: rights => equals left right && allEqual lefts rights
  | _, _ => false

/-- Whether a map has equal values under the keys of all entries. -/
def allFound : List (Key × Datum) → List (Key × Datum) → Bool
  | [], _ => true
  | (key, left) :: rest, right =>
    (match lookUp right key with
      | some value => equals left value
      | none => false) && allFound rest right

end

/-- The order of two doubles, of which neither may be no number. -/
def compareDoubles (left right : Float) : Option Ordering :=
  if left < right then some .lt
  else if right < left then some .gt
  else if left == right then some .eq
  else none

/-- The order of two values, if they can be put in one. -/
def compare? : Datum → Datum → Option Ordering
  | null, null => some .eq
  | bool left, bool right => some (compare left.toNat right.toNat)
  | integer left, integer right => some (compare left right)
  | integer left, unsigned right => some (compare left right)
  | integer left, double right => compareDoubles (Float.ofInt left) right
  | unsigned left, integer right => some (compare (left : Int) right)
  | unsigned left, unsigned right => some (compare left right)
  | unsigned left, double right => compareDoubles (Float.ofNat left) right
  | double left, integer right => compareDoubles left (Float.ofInt right)
  | double left, unsigned right => compareDoubles left (Float.ofNat right)
  | double left, double right => compareDoubles left right
  | text left, text right => some (compare left right)
  | duration left, duration right => some (compare left right)
  | timestamp left _, timestamp right _ =>
    some (if left.isBefore right then .lt else if right.isBefore left then .gt else .eq)
  | _, _ => none

/-- The sum of two numbers, two lengths of time, or a point and a length of time; texts and lists are
put one after the other. -/
def add? : Datum → Datum → Option Datum
  | integer left, integer right => integer? (left + right)
  | unsigned left, unsigned right => unsigned? (left + right)
  | double left, double right => some (double (left + right))
  | text left, text right => some (text (left ++ right))
  | list left, list right => some (list (left ++ right))
  | duration left, duration right => duration? (left + right)
  | timestamp instant offset, duration length =>
    (instant.later? length).map fun sum => timestamp sum offset
  | duration length, timestamp instant offset =>
    (instant.later? length).map fun sum => timestamp sum offset
  | _, _ => none

/-- The difference of two values. -/
def sub? : Datum → Datum → Option Datum
  | integer left, integer right => integer? (left - right)
  | unsigned left, unsigned right => unsigned? (left - right)
  | double left, double right => some (double (left - right))
  | duration left, duration right => duration? (left - right)
  | timestamp instant offset, duration length =>
    (instant.later? (-length)).map fun difference => timestamp difference offset
  | timestamp left _, timestamp right _ => some (duration (left.since right))
  | _, _ => none

/-- The product of two numbers. -/
def mul? : Datum → Datum → Option Datum
  | integer left, integer right => integer? (left * right)
  | unsigned left, unsigned right => unsigned? (left * right)
  | double left, double right => some (double (left * right))
  | _, _ => none

/-- The quotient of two numbers, toward zero for whole ones, which cannot be divided by zero. -/
def div? : Datum → Datum → Option Datum
  | integer left, integer right => if right = 0 then none else integer? (left.tdiv right)
  | unsigned left, unsigned right => if right = 0 then none else unsigned? (left / right)
  | double left, double right => some (double (left / right))
  | _, _ => none

/-- The remainder of two whole numbers, with the sign of the first. Its quotient has to fit too. -/
def mod? : Datum → Datum → Option Datum
  | integer left, integer right =>
    if right = 0 then none else (integer? (left.tdiv right)).map fun _ => integer (left.tmod right)
  | unsigned left, unsigned right => if right = 0 then none else some (unsigned (left % right))
  | _, _ => none

/-- A number with its sign changed. -/
def neg? : Datum → Option Datum
  | integer value => integer? (-value)
  | double value => some (double (-value))
  | _ => none

/-- Whether a list of items occurs in another without a gap. -/
def isStretch {α : Type} [BEq α] (part whole : List α) : Bool :=
  match whole with
  | [] => part.isEmpty
  | head :: rest => part.isPrefixOf (head :: rest) || isStretch part rest

/-- Whether a value lies in another: a text in a text, an item in a list, a key in a map. -/
def isIn? : Datum → Datum → Option Bool
  | text part, text whole => some (isStretch part.toList whole.toList)
  | item, list items => some (items.any fun other => item.equals other)
  | item, map entries =>
    match item.toKey? with
    | some key => some (lookUp entries key).isSome
    | none => some false
  | _, _ => none

/-- The character that begins at a byte of a text, if it has only that byte. -/
def asciiAt (value : String) (index : Int) : Option Char :=
  if index < 0 then none
  else
    match value.toUTF8[index.toNat]? with
    | some octet => if octet < 128 then some (Char.ofNat octet.toNat) else none
    | none => none

/-- What a value has at an index: null where a list, a text or a map has nothing. The place after an
index of a text has to be a number as well. -/
def at? : Datum → Datum → Option Datum
  | list items, integer index =>
    if index < 0 then some null else some ((items[index.toNat]?).getD null)
  | text value, integer index =>
    (integer? (index + 1)).map fun _ =>
      match asciiAt value index with
      | some c => text (String.singleton c)
      | none => null
  | map entries, index => index.toKey?.map fun key => (lookUpNumber entries key).getD null
  | _, _ => none

/-- The field of a map. -/
def field? (name : String) : Datum → Option Datum
  | map entries => lookUp entries (.text name)
  | _ => none

/-- The text of a key, by which it can be asked for. -/
def keyText : Key → String
  | .integer value => toString value
  | .unsigned value => toString value
  | .bool value => if value then "true" else "false"
  | .text value => value

/-- Whether a value is a map with a field. -/
def hasField (name : String) : Datum → Bool
  | map entries => entries.any fun entry => keyText entry.1 == name
  | _ => false

/-- What a list or map is gone through by: the items, or the keys. -/
def elements? : Datum → Option (List Datum)
  | list items => some items
  | map entries => some (entries.map fun entry => ofKey entry.1)
  | _ => none

end Datum

end AttributeRelease.Expression
