import AttributeRelease.Config.Basic

/-!
# Merging policy sets

The definitions of several files are put together one file after the other. A named rule or matcher
must not be defined twice; what came before the first collision stays.
-/

namespace AttributeRelease

/-- The first name that two policy sets both define. -/
inductive Collision where
  | rule (id : String)
  | matcher (id : String)
  deriving DecidableEq, Repr

/-- The wording of a collision. -/
def Collision.message : Collision → String
  | rule id => "requirement rule '" ++ id ++ "' is defined more than once"
  | matcher id => "matcher '" ++ id ++ "' is defined more than once"

namespace PolicySet

/-- Adds named definitions one after the other up to the first whose name is taken: the definitions
then, and that name. -/
def addNamed {α : Type} (known : NameMap α) : List (String × α) → NameMap α × Option String
  | [] => (known, none)
  | (id, definition) :: rest =>
    if known.contains id then (known, some id)
    else addNamed (known.insert id definition) rest

/-- Adds the definitions of another set: first the rules, then the matchers, then the policies. -/
def merge (set other : PolicySet) : PolicySet × Option Collision :=
  match addNamed set.rules other.rules.toList with
  | (rules, some id) => ({ set with rules }, some (.rule id))
  | (rules, none) =>
    match addNamed set.matchers other.matchers.toList with
    | (matchers, some id) => ({ set with rules, matchers }, some (.matcher id))
    | (matchers, none) => (⟨rules, matchers, set.policies ++ other.policies⟩, none)

/-- Adds the definitions of several sets, one set after the other, up to the first collision. -/
def mergeAll (set : PolicySet) : List PolicySet → PolicySet × Option Collision
  | [] => (set, none)
  | other :: rest =>
    match set.merge other with
    | (merged, some collision) => (merged, some collision)
    | (merged, none) => merged.mergeAll rest

end PolicySet

end AttributeRelease
