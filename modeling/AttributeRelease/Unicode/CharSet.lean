import AttributeRelease.Text.Digit
import AttributeRelease.Text.Words

/-!
# Sets of characters

A set of characters is given by its ranges of code points, in ascending order and with a gap after
each. The operations on sets keep that order, and `CharSet.contains` searches the ranges by
bisection. No range ends at one side of the surrogates, which are no characters, because it would
continue at the other side: two ranges that meet there stay apart.
-/

namespace AttributeRelease.Unicode

/-- A range of code points, as its first and its last member. -/
abbrev Range := Nat × Nat

/-- The code point of the next character. -/
def codeAfter (code : Nat) : Nat := if code = 0xD7FF then 0xE000 else code + 1

/-- The code point of the character before. -/
def codeBefore (code : Nat) : Nat := if code = 0xE000 then 0xD7FF else code - 1

/-- A set of characters, as ranges of code points in ascending order. -/
structure CharSet where
  ranges : Array Range
  deriving DecidableEq, Repr

namespace CharSet

/-- Bisects the ranges from index `low` up to, but without, index `high`. -/
def search (ranges : Array Range) (code low high : Nat) : Bool :=
  if low < high then
    match ranges[(low + high) / 2]? with
    | none => false
    | some (first, last) =>
      if code < first then search ranges code low ((low + high) / 2)
      else if last < code then search ranges code ((low + high) / 2 + 1) high
      else true
  else false
termination_by high - low

/-- Whether a character lies in one of the ranges. -/
def contains (set : CharSet) (c : Char) : Bool :=
  search set.ranges c.toNat 0 set.ranges.size

/-- Adds a range to others that begin no earlier, joined with those it touches. -/
def addFirst (range : Range) : List Range → List Range
  | [] => [range]
  | next :: rest =>
    if next.1 ≤ range.2 + 1 then addFirst (range.1, max range.2 next.2) rest
    else range :: next :: rest

/-- The set of the members of any ranges. -/
def ofRanges (ranges : List Range) : CharSet :=
  let sorted := ranges.mergeSort fun left right => left.1 ≤ right.1
  ⟨(sorted.foldr addFirst []).toArray⟩

/-- The set without members. -/
def empty : CharSet := ⟨#[]⟩

/-- The set of all characters. -/
def all : CharSet := ⟨#[(0, 0x10FFFF)]⟩

/-- The characters of a range, ends included. -/
def range (first last : Char) : CharSet := ⟨#[(first.toNat, last.toNat)]⟩

/-- The set of a character alone. -/
def singleton (c : Char) : CharSet := range c c

/-- The characters of a list. -/
def ofList (members : List Char) : CharSet :=
  ofRanges (members.map fun c => (c.toNat, c.toNat))

/-- Reads ranges as the words of a text, such as `41-5A 61-7A AA`: hexadecimal, in order, and a
single code point where it is a range of its own. -/
def ofText (text : String) : CharSet where
  ranges := (Text.words text).toArray.map fun range =>
    match range.splitOn "-" with
    | [first, last] => (Text.hexadecimal first.toList, Text.hexadecimal last.toList)
    | _ => (Text.hexadecimal range.toList, Text.hexadecimal range.toList)

/-- The characters of some set in a list. -/
def unions (sets : List CharSet) : CharSet :=
  ofRanges (sets.flatMap fun set => set.ranges.toList)

/-- The characters of either set. -/
def union (left right : CharSet) : CharSet := unions [left, right]

/-- The ranges that two lists of ranges have in common. -/
def meet : List Range → List Range → List Range
  | [], _ => []
  | _, [] => []
  | left :: lefts, right :: rights =>
    let rest :=
      if left.2 < right.2 then meet lefts (right :: rights) else meet (left :: lefts) rights
    if max left.1 right.1 ≤ min left.2 right.2 then
      (max left.1 right.1, min left.2 right.2) :: rest
    else rest
termination_by lefts rights => lefts.length + rights.length

/-- The ranges that remain of a list of ranges when those of another are taken out. -/
def without : List Range → List Range → List Range
  | [], _ => []
  | lefts, [] => lefts
  | left :: lefts, right :: rights =>
    if left.2 < right.1 then left :: without lefts (right :: rights)
    else if right.2 < left.1 then without (left :: lefts) rights
    else
      let before := if left.1 < right.1 then [(left.1, codeBefore right.1)] else []
      if right.2 < left.2 then
        before ++ without ((codeAfter right.2, left.2) :: lefts) rights
      else before ++ without lefts (right :: rights)
termination_by lefts rights => lefts.length + rights.length

/-- The characters of both sets. -/
def intersection (left right : CharSet) : CharSet :=
  ⟨(meet left.ranges.toList right.ranges.toList).toArray⟩

/-- The characters of the first set that are not in the second. -/
def difference (left right : CharSet) : CharSet :=
  ⟨(without left.ranges.toList right.ranges.toList).toArray⟩

/-- The characters of one set alone. -/
def symmetricDifference (left right : CharSet) : CharSet :=
  (left.union right).difference (left.intersection right)

/-- What lies between ranges, the first of which starts at `next` if the character before belongs to
no range. Where two ranges meet across the surrogates, the characters at their ends count as lying
between them. -/
def gaps (next : Nat) : List Range → List Range
  | [] => if next ≤ 0x10FFFF then [(next, 0x10FFFF)] else []
  | (first, last) :: rest =>
    let before := codeBefore first
    if first = 0 then gaps (codeAfter last) rest
    else (min next before, max next before) :: gaps (codeAfter last) rest

/-- The characters outside a set. -/
def complement (set : CharSet) : CharSet := ⟨(gaps 0 set.ranges.toList).toArray⟩

/-- Whether every member of a set is an ASCII character. -/
def isAscii (set : CharSet) : Bool := set.ranges.all fun range => range.2 < 0x80

/-- Whether a set has no members. -/
def isEmpty (set : CharSet) : Bool := set.ranges.isEmpty

/-- The only member of a set, if it has one alone. -/
def onlyMember? (set : CharSet) : Option Char :=
  match set.ranges.toList with
  | [(first, last)] => if first = last then Text.char? first else none
  | _ => none

end CharSet

end AttributeRelease.Unicode
