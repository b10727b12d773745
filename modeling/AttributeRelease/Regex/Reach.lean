import AttributeRelease.Regex.Basic

/-!
# Searching for a match

A set of positions in a text is a number whose binary digits are its members. Once every atom is
replaced by the positions where it applies, `Regex.reach` takes the set of all positions where a
match may begin to the set of those where it may end, in one pass over the expression.
-/

namespace AttributeRelease.Regex

/-- A set of positions, as the number with a binary digit for each. -/
abbrev Positions := Nat

/-- The positions from zero up to a given one. -/
def upTo (last : Nat) : Positions := Nat.pow 2 (last + 1) - 1

/-- The positions whose entry in a list passes. -/
def positions : List Bool → Positions
  | [] => 0
  | passes :: rest => 2 * positions rest + passes.toNat

/-- Where an atom applies: at which positions it takes a character, or holds without taking one. -/
inductive Move where
  | advance (starts : Positions)
  | stay (holds : Positions)

/-- A number of steps from a set of positions; they end when a step changes nothing. -/
def stepTimes (step : Positions → Positions) : Nat → Positions → Positions
  | 0, set => set
  | count + 1, set =>
    let next := step set
    if next = set then set else stepTimes step count next

/-- All positions within a number of steps of those found, of which those in `fresh` are still to be
gone on from. -/
def closure (step : Positions → Positions) : Nat → Positions → Positions → Positions
  | 0, found, _ => found
  | count + 1, found, fresh =>
    let next := step fresh
    let unseen := next ^^^ (next &&& found)
    if unseen = 0 then found else closure step count (found ||| unseen) unseen

/-- The positions where matches end that begin at one of a set of positions, in a text of a given
length. -/
def reach (length : Nat) : Regex Move → Positions → Positions
  | empty, set => set
  | atom (.advance starts), set => (set &&& starts) <<< 1
  | atom (.stay holds), set => set &&& holds
  | seq first second, set => second.reach length (first.reach length set)
  | alt left right, set => left.reach length set ||| right.reach length set
  | loop body least most, set =>
    if most.any (· < least) then 0
    else
      let start := stepTimes (body.reach length) least set
      let count := match most with
        | none => length + 1
        | some most => most - least
      closure (body.reach length) count start start

/-- Whether an expression matches some stretch of a text of a given length. -/
def occurs (length : Nat) (moves : Regex Move) : Bool :=
  moves.reach length (upTo length) != 0

end AttributeRelease.Regex
