import AttributeRelease.Time.Calendar

/-!
# Instants

Points in time with nanoseconds, which may go on beyond a whole second. Beside the last second of a
minute they tell a leap second, which comes after every other point of its minute and before the
next minute; no clock shows them beside another second.
-/

namespace AttributeRelease.Time

/-- The years whose dates can be told. -/
def firstYear : Int := -262143

/-- The last year whose dates can be told. -/
def lastYear : Int := 262142

/-- Whether a number of seconds from 1 January 1970 lies in a year that can be told. -/
def inRange (second : Int) : Bool :=
  (Date.dayNumber ⟨firstYear, 1, 1⟩) * 86400 ≤ second &&
    second < (Date.dayNumber ⟨lastYear, 12, 31⟩ + 1) * 86400

/-- A point in time: whole seconds from the start of 1970, leap seconds not counted, and less than
two seconds of nanoseconds after them. -/
structure Instant where
  second : Int
  nanosecond : Nat
  inRange : inRange second = true
  isShort : nanosecond < 2000000000
  deriving DecidableEq

namespace Instant

/-- The instant with given seconds and nanoseconds, if there is one. -/
def of? (second : Int) (nanosecond : Nat) : Option Instant :=
  if h : Time.inRange second = true ∧ nanosecond < 2000000000 then
    some ⟨second, nanosecond, h.1, h.2⟩
  else none

/-- Whether the nanoseconds go on beyond a whole second, as those of a leap second do. -/
def isLeap (instant : Instant) : Bool := 1000000000 ≤ instant.nanosecond

/-- Whether an instant is before another. -/
def isBefore (left right : Instant) : Bool :=
  left.second < right.second ||
    (left.second == right.second && left.nanosecond < right.nanosecond)

/-- The instant a number of nanoseconds later, or earlier if it is negative. A leap second counts for
what stays within it and the second before, and for leaving it backwards; who leaves it forwards has
passed it already. -/
def later? (instant : Instant) (nanoseconds : Int) : Option Instant :=
  let fraction := instant.nanosecond + nanoseconds
  if instant.isLeap ∧ nanoseconds.natAbs < 1000000000 ∧ fraction < 2000000000 then
    of? instant.second fraction.toNat
  else
    let passed := if instant.isLeap ∧ 0 < nanoseconds then 1000000000 else 0
    let total := instant.second * 1000000000 + fraction - passed
    of? (total / 1000000000) (total % 1000000000).toNat

/-- The nanoseconds from one instant to another. A leap second counts if one of the two lies in it and
the other at a different time of its day, whatever the days are. -/
def since (later earlier : Instant) : Int :=
  let laterTime := later.second % 86400
  let earlierTime := earlier.second % 86400
  let leap :=
    if earlierTime < laterTime ∧ earlier.isLeap then 1
    else if laterTime < earlierTime ∧ later.isLeap then -1
    else 0
  (later.second - earlier.second + leap) * 1000000000 +
    ((later.nanosecond : Int) - earlier.nanosecond)

end Instant

end AttributeRelease.Time
