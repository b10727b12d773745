/-!
# Regular expressions

Regular expressions over atoms that are kept abstract: what an atom spans in a text is a parameter.
`Regex.Spans` says which stretches of a text an expression matches.
-/

namespace AttributeRelease

/-- A regular expression over atoms. -/
inductive Regex (α : Type) where
  | empty
  | atom (atom : α)
  | seq (first second : Regex α)
  | alt (left right : Regex α)
  /-- At least and at most so many repetitions, or any greater number of them. -/
  | loop (body : Regex α) (least : Nat) (most : Option Nat)
  deriving Repr

namespace Regex

variable {α β : Type}

/-- Changes every atom. -/
def map (change : α → β) : Regex α → Regex β
  | empty => empty
  | atom a => atom (change a)
  | seq first second => seq (first.map change) (second.map change)
  | alt left right => alt (left.map change) (right.map change)
  | loop body least most => loop (body.map change) least most

/-- One expression after the other. -/
def sequence (parts : List (Regex α)) : Regex α := parts.foldr seq empty

/-- Repetitions of an expression, of which loops right inside loops without an upper bound are made
one. -/
def repeated (body : Regex α) (least : Nat) (most : Option Nat) : Regex α :=
  match body, most with
  | loop inner innerLeast none, none =>
    if innerLeast ≤ 1 ∧ least ≤ 1 then loop inner (min innerLeast least) none
    else loop body least none
  | _, _ => loop body least most

/-- A number of steps, one after the other, of a relation between positions. -/
inductive Steps (step : Nat → Nat → Prop) : Nat → Nat → Nat → Prop where
  | none {position} : Steps step 0 position position
  | more {count start middle stop} : step start middle → Steps step count middle stop →
      Steps step (count + 1) start stop

/-- An expression matches the stretch of a text from a start to a stop, when atoms span what they
are said to span. -/
def Spans (atomSpans : α → Nat → Nat → Prop) : Regex α → Nat → Nat → Prop
  | empty, start, stop => start = stop
  | atom a, start, stop => atomSpans a start stop
  | seq first second, start, stop =>
    ∃ middle, first.Spans atomSpans start middle ∧ second.Spans atomSpans middle stop
  | alt left right, start, stop =>
    left.Spans atomSpans start stop ∨ right.Spans atomSpans start stop
  | loop body least most, start, stop =>
    ∃ count, least ≤ count ∧ (∀ bound, most = some bound → count ≤ bound) ∧
      Steps (body.Spans atomSpans) count start stop

end Regex

end AttributeRelease
