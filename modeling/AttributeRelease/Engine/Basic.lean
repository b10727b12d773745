import AttributeRelease.Engine.Policy

/-!
# Engines

An engine is an unchanging list of policies. Filtering a request releases the attributes that some
active policy permits, with those values that no active policy denies, in their own order.
-/

namespace AttributeRelease

/-- Policies, evaluated in order. -/
structure Engine where
  id : String
  policies : List Policy

/-- A request with the outcome of the last filtering pass over it. -/
structure FilterContext where
  request : Request
  /-- What the last pass permitted and denied. -/
  workArea : WorkArea
  /-- What the last pass released, by attribute ids. -/
  released : NameMap Attribute

namespace FilterContext

/-- A request that was not filtered yet. -/
def ofRequest (request : Request) : FilterContext := ⟨request, .empty, ∅⟩

end FilterContext

/-- The attributes of a request that are released after a work area was filled. -/
def Request.release (request : Request) (area : WorkArea) : NameMap Attribute :=
  area.permitted.filterMap fun id _ => do
    let resolved ← request.attribute? id
    let values ← area.released? id
    return resolved.keep fun value => value ∈ values

namespace Engine

/-- Applies policies one after the other, if they are active, and fills a work area. -/
def applyPolicies (request : Request) : List Policy → WorkArea → Except FilterError WorkArea
  | [], area => .ok area
  | policy :: rest, area => do
    if ← policy.isActive request then
      match policy.apply request area with
      | (area, none) => applyPolicies request rest area
      | (_, some e) => .error e
    else applyPolicies request rest area

/-- The work area that the engine fills for a request. -/
def evaluate (engine : Engine) (request : Request) : Except FilterError WorkArea :=
  applyPolicies request engine.policies .empty

/-- Filters the request of a context and replaces what it released; a failure leaves nothing. -/
def filter (engine : Engine) (context : FilterContext) : FilterContext × Option FilterError :=
  match engine.evaluate context.request with
  | .ok area =>
    ({ context with workArea := area, released := context.request.release area }, none)
  | .error e => (.ofRequest context.request, some e)

end Engine

end AttributeRelease
