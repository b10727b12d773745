import AttributeRelease.Request.Basic

/-!
# Looking up metadata once

The metadata of each party of a request is looked up when it is first asked for, and the answer is
kept, also if there is none. A source of metadata may answer differently from call to call, so it
sees the number of the call.
-/

namespace AttributeRelease

/-- A source of metadata, asked with the number of calls made before and the id of an entity. -/
abbrev MetadataSource := Nat → String → Option Entity

/-- The lookups made for one request. -/
structure Lookups where
  source : MetadataSource
  facts : Facts
  /-- The answer kept for the issuer, once there is one. -/
  issuer : Option (Option Entity)
  /-- The answer kept for the requester, once there is one. -/
  requester : Option (Option Entity)
  /-- How often the source was asked. -/
  calls : Nat

namespace Lookups

/-- Nothing was looked up yet. -/
def start (source : MetadataSource) (facts : Facts) : Lookups := ⟨source, facts, none, none, 0⟩

/-- The answer kept for a party. -/
def kept (lookups : Lookups) : Party → Option (Option Entity)
  | .requester => lookups.requester
  | .issuer => lookups.issuer

/-- Keeps an answer for a party. -/
def keep (lookups : Lookups) (party : Party) (answer : Option Entity) : Lookups :=
  match party with
  | .requester => { lookups with requester := some answer }
  | .issuer => { lookups with issuer := some answer }

/-- Looks up the metadata of a party: the answer, and the lookups after it. -/
def lookUp (lookups : Lookups) (party : Party) : Option Entity × Lookups :=
  match lookups.kept party with
  | some answer => (answer, lookups)
  | none =>
    match lookups.facts.partyId party with
    | none => (none, lookups.keep party none)
    | some id =>
      let answer := lookups.source lookups.calls id
      (answer, { lookups.keep party answer with calls := lookups.calls + 1 })

/-- The lookups after the metadata of several parties was looked up, one after the other. -/
def after (lookups : Lookups) (parties : List Party) : Lookups :=
  parties.foldl (fun lookups party => (lookups.lookUp party).2) lookups

end Lookups

end AttributeRelease
