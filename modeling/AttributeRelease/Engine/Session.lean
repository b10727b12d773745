import AttributeRelease.Engine.Basic
import AttributeRelease.Rule.Inquiry

/-!
# Sessions

A request can be filtered again and again, with one engine or with several. What a pass found out is
replaced by the next one, but metadata that was looked up is kept, after a failure too. A session is
a context together with these lookups.
-/

namespace AttributeRelease

/-- Applies the rule to a request, which does nothing if the attribute is absent. -/
def AttributeRule.inquire (rule : AttributeRule) (request : Request) (area : WorkArea) :
    Inquiry ScriptError WorkArea :=
  match request.attribute? rule.attributeId with
  | none => return area
  | some resolved => do
    return rule.record resolved area (← rule.matcher.inquire request resolved)

/-- Applies rules of a policy one after the other, up to the first that fails. -/
def Policy.inquireRules (policy : Policy) (request : Request) :
    List AttributeRule → WorkArea → Inquiry FilterError WorkArea
  | [], area => return area
  | rule :: rest, area => do
    let area ← (rule.inquire request area).adapt (.evaluation policy.id (some rule.attributeId))
    policy.inquireRules request rest area

namespace Engine

/-- Applies policies one after the other, if they are active, and fills a work area. -/
def inquirePolicies (request : Request) :
    List Policy → WorkArea → Inquiry FilterError WorkArea
  | [], area => return area
  | policy :: rest, area => do
    let outcome ← (policy.requirement.inquire request).adapt (.evaluation policy.id none)
    if outcome.isTrue then
      inquirePolicies request rest (← policy.inquireRules request policy.rules area)
    else inquirePolicies request rest area

/-- The work area that the engine fills for a request. -/
def inquire (engine : Engine) (request : Request) : Inquiry FilterError WorkArea :=
  inquirePolicies request engine.policies .empty

end Engine

/-- A context with the lookups that were made for its request. -/
structure Session where
  context : FilterContext
  lookups : Lookups

namespace Session

/-- The session of a request that was not filtered yet, and for which nothing was looked up. -/
def start (request : Request) : Session :=
  ⟨.ofRequest request, .start (fun _ => request.resolve) request.facts⟩

/-- Filters the request with an engine and replaces what was released; a failure leaves nothing. -/
def filter (session : Session) (engine : Engine) : Session × Option FilterError :=
  let context := session.context
  match (engine.inquire context.request).run session.lookups with
  | (.ok area, lookups) =>
    (⟨{ context with workArea := area, released := context.request.release area }, lookups⟩, none)
  | (.error e, lookups) => (⟨.ofRequest context.request, lookups⟩, some e)

/-- Looks up the metadata of a party. -/
def lookUp (session : Session) (party : Party) : Option Entity × Session :=
  let (answer, lookups) := session.lookups.lookUp party
  (answer, { session with lookups })

/-- What can be done with a session. -/
inductive Use where
  | filter (engine : Engine)
  | lookUp (party : Party)

/-- The session after it was used, whether that failed or not. -/
def use (session : Session) : Use → Session
  | .filter engine => (session.filter engine).1
  | .lookUp party => (session.lookUp party).2

/-- The session after several uses, one after the other. -/
def after (session : Session) (uses : List Use) : Session := uses.foldl use session

end Session

end AttributeRelease
