import AttributeRelease.Tree.Record

/-!
# Facts about a request

What is known about the request that is being answered. Every fact may be missing; a rule that needs
a missing fact can be neither true nor false.
-/

namespace AttributeRelease

/-- The two parties of a request that have metadata. -/
inductive Party where
  | requester
  | issuer
  deriving DecidableEq, Repr

/-- The facts of a request. -/
structure Facts where
  /-- Id of the entity that issues the attributes. -/
  issuer : Option String
  /-- Id of the entity that receives the attributes. -/
  requester : Option String
  principal : Option String
  authenticationMethod : Option String
  /-- Ids of the proxies that the request came through. -/
  proxiedRequesters : Option (List String)
  deriving DecidableEq, Repr

namespace Facts

/-- Nothing is known. -/
def none : Facts := ⟨.none, .none, .none, .none, .none⟩

/-- The id of a party. -/
def partyId (facts : Facts) : Party → Option String
  | .requester => facts.requester
  | .issuer => facts.issuer

/-- The fields of a tree of facts. -/
def toFields (facts : Facts) : List (String × Tree) :=
  [("issuer", .ofText? facts.issuer), ("requester", .ofText? facts.requester),
    ("principal", .ofText? facts.principal),
    ("authentication_method", .ofText? facts.authenticationMethod),
    ("proxied_requesters", match facts.proxiedRequesters with
      | some proxies => .ofTexts proxies
      | .none => .null)]

/-- The tree of facts, in which missing ones are null. -/
def toTree (facts : Facts) : Tree := .table facts.toFields

/-- The facts that a tree of a JSON text denotes. -/
def ofHolder? (holder : Holder Tree) : Option Facts := do
  let fields ← holder.fields? ⟨.json, false⟩ .openEnded
    ["issuer", "requester", "principal", "authentication_method", "proxied_requesters"]
  let text (name : String) := fields.defaulted name Option.none (Tree.nullable? Tree.text?)
  return {
    issuer := ← text "issuer"
    requester := ← text "requester"
    principal := ← text "principal"
    authenticationMethod := ← text "authentication_method"
    proxiedRequesters := ← fields.defaulted "proxied_requesters" Option.none
      (Tree.nullable? Tree.texts?) }

end Facts

end AttributeRelease
