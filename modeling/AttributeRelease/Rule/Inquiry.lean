import AttributeRelease.Request.Lookup
import AttributeRelease.Rule.Evaluation

/-!
# Evaluating with lookups

Metadata is not at hand when rules and matchers are evaluated. It is looked up when the first of them
asks for it, and answers are kept for those that ask later. An inquiry is an evaluation that does so:
it takes attributes and facts from the request, but metadata only from lookups, which it passes on
whether it fails or not.
-/

namespace AttributeRelease

/-- A computation that may look up metadata and may fail. What was looked up is kept either way. -/
abbrev Inquiry (ε : Type) := ExceptT ε (StateM Lookups)

namespace Inquiry

variable {ε α : Type}

/-- The metadata of a party, which is looked up unless an answer is kept. -/
def metadata? (party : Party) : Inquiry ε (Option Entity) :=
  ExceptT.lift fun lookups => lookups.lookUp party

/-- An outcome that takes no lookups. -/
def ofOutcome (outcome : Except ε α) : Inquiry ε α := ExceptT.mk (pure outcome)

/-- The same inquiry, with its failures reported in another way. -/
def adapt {ε' : Type} (inquiry : Inquiry ε α) (report : ε → ε') : Inquiry ε' α :=
  ExceptT.adapt report inquiry

end Inquiry

namespace MetadataCheck

/-- The party whose metadata is checked. -/
def party : MetadataCheck → Party
  | entityAttribute party _ _ _ => party
  | nameIdFormat _ => .requester
  | registrationAuthority _ _ => .requester
  | entityGroup party _ => party

/-- Whether the condition holds for metadata of the party. -/
def holdsFor (entity : Entity) : MetadataCheck → Bool
  | entityAttribute _ name format test =>
    (entity.attributeValues name format).any fun value => test.accepts value
  | nameIdFormat format => entity.nameIdFormats.contains format
  | registrationAuthority authorities ifSilent =>
    match entity.registrationAuthority with
    | none => ifSilent
    | some authority => authorities.contains authority
  | entityGroup _ group => entity.groups.contains group

/-- Whether the condition holds, for the metadata that is looked up. -/
def inquire {ε : Type} (check : MetadataCheck) : Inquiry ε Bool := do
  return (← Inquiry.metadata? check.party).any fun entity => check.holdsFor entity

end MetadataCheck

/-- The values of an attribute that the requester asks for, in the metadata that is looked up. -/
def RequestedMatch.inquire {ε : Type} (sought : RequestedMatch) (resolved : Attribute) :
    Inquiry ε ValueSet := do
  return sought.selectFor (← Inquiry.metadata? .requester) resolved

mutual

/-- The outcome of a rule for a request. -/
def Rule.inquire (request : Request) : Rule → Inquiry ScriptError Tristate
  | .any => return .true
  | .none => return .false
  | .and rules => inquireAnd request rules
  | .or rules => inquireOr request .false rules
  | .not rule => do
    return (← rule.inquire request).not
  | .fact kind test => return kind.evaluate request.facts test
  | .valueCount count => return .ofBool (count.holds request)
  | .attributeValues id matcher =>
    match request.attribute? id with
    | .none => return .false
    | .some resolved => do
      return (← matcher.inquire request resolved).toOutcome
  | .metadata check => do
    return .ofBool (← check.inquire)
  | .script script => .ofOutcome (script.decide request)

/-- The conjunction of rules, all of which are evaluated: falsity if there is none. -/
def inquireAnd (request : Request) : List Rule → Inquiry ScriptError Tristate
  | [] => return .false
  | rule :: rest => do
    let outcome ← rule.inquire request
    inquireAndWith request outcome rest

/-- The conjunction of an outcome and of rules, all of which are evaluated. -/
def inquireAndWith (request : Request) (found : Tristate) :
    List Rule → Inquiry ScriptError Tristate
  | [] => return found
  | rule :: rest => do
    let outcome ← rule.inquire request
    inquireAndWith request (found.and outcome) rest

/-- The disjunction of an outcome and of rules, which are evaluated up to the first true one. -/
def inquireOr (request : Request) (found : Tristate) : List Rule → Inquiry ScriptError Tristate
  | [] => return found
  | rule :: rest => do
    let outcome := found.or (← rule.inquire request)
    if outcome.isTrue then return outcome else inquireOr request outcome rest

/-- The values of an attribute of a request that a matcher selects. -/
def Matcher.inquire (request : Request) (resolved : Attribute) :
    Matcher → Inquiry ScriptError Selection
  | .any => return .all resolved
  | .value test => return .matched (resolved.valuesWhere test.acceptsValue)
  | .scope test => return .matched (resolved.valuesWhere test.acceptsScope)
  | .script script => .ofOutcome (script.select request resolved)
  | .and matchers => do
    return .common (← inquireAll request resolved matchers)
  | .or matchers => do
    return .joined (← inquireAll request resolved matchers)
  | .not matcher => do
    return (← matcher.inquire request resolved).complement resolved
  | .metadata check => do
    return .allIf resolved (← check.inquire)
  | .requested sought => do
    return .matched (← sought.inquire resolved)
  | .fromRule rule => do
    return .ofOutcome resolved (← rule.inquire request)

/-- What each of several matchers selects. -/
def inquireAll (request : Request) (resolved : Attribute) :
    List Matcher → Inquiry ScriptError (List Selection)
  | [] => return []
  | matcher :: rest => do
    let selection ← matcher.inquire request resolved
    return selection :: (← inquireAll request resolved rest)

end

end AttributeRelease
