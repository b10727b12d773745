import AttributeRelease.Rule.MetadataCheck
import AttributeRelease.Rule.Tristate
import AttributeRelease.Script.Basic

/-!
# Rules and matchers

Rules are conditions on a request as a whole; matchers select values of one attribute of it. Each can
be made from the other: a rule may ask whether a matcher selects anything, and a matcher may select
everything when a rule holds.
-/

namespace AttributeRelease

/-- A fact that rules compare with strings. -/
inductive FactKind where
  | issuer
  | requester
  | principal
  | authenticationMethod
  | proxiedRequester
  deriving DecidableEq, Repr

/-- Bounds on how many values an attribute has, ends included. -/
structure ValueCount where
  attributeId : String
  least : Option Nat
  most : Option Nat
  deriving DecidableEq, Repr

/-- What the requester has to ask for in its metadata for a value to be selected. -/
structure RequestedMatch where
  /-- Whether only attributes count that are asked for as required. -/
  onlyIfRequired : Bool
  /-- Whether all values are selected if the metadata asks for nothing. -/
  matchIfSilent : Bool
  /-- The name to look for, if it is not the id of the attribute. -/
  attributeName : Option String
  attributeNameFormat : Option String
  deriving DecidableEq, Repr

/-- What is looked for if nothing is said. -/
def RequestedMatch.default : RequestedMatch := ⟨true, false, none, none⟩

mutual

/-- A condition on a request. -/
inductive Rule where
  | any
  | none
  | and (rules : List Rule)
  | or (rules : List Rule)
  | not (rule : Rule)
  /-- A fact passes a comparison; of the proxied requesters one has to. -/
  | fact (kind : FactKind) (test : StringMatch)
  | valueCount (count : ValueCount)
  /-- The matcher selects a value of the attribute. -/
  | attributeValues (attributeId : String) (matcher : Matcher)
  | metadata (check : MetadataCheck)
  | script (script : Script)

/-- A selection of values of an attribute. -/
inductive Matcher where
  | any
  | value (test : StringMatch)
  | scope (test : StringMatch)
  | script (script : Script)
  | and (matchers : List Matcher)
  | or (matchers : List Matcher)
  | not (matcher : Matcher)
  /-- Every value if the check holds, and none otherwise. -/
  | metadata (check : MetadataCheck)
  | requested (requested : RequestedMatch)
  /-- Every value if the rule is true, and none if it is false. -/
  | fromRule (rule : Rule)

end

end AttributeRelease
