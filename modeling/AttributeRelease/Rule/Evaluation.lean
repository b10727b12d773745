import AttributeRelease.Rule.Basic

/-!
# Evaluating rules and matchers

The outcome of a rule for a request, and the values of an attribute that a matcher selects. Only
scripts can fail with an error. A matcher that cannot be evaluated is not applicable, which is not
the same as selecting nothing.
-/

namespace AttributeRelease

/-- What a matcher makes of an attribute. -/
inductive Selection where
  | matched (values : ValueSet)
  | notApplicable
  deriving DecidableEq

namespace Selection

/-- Nothing is selected. -/
def nothing : Selection := matched ∅

/-- Every value is selected. -/
def all (resolved : Attribute) : Selection := matched resolved.valueSet

/-- Every value is selected if a condition holds, and none otherwise. -/
def allIf (resolved : Attribute) (condition : Bool) : Selection :=
  if condition then all resolved else nothing

/-- Every value is selected for truth, none for falsity; a failure does not apply. -/
def ofOutcome (resolved : Attribute) : Tristate → Selection
  | .true => all resolved
  | .false => nothing
  | .fail => notApplicable

/-- The outcome of asking whether anything is selected. -/
def toOutcome : Selection → Tristate
  | matched values => .ofBool (!values.isEmpty)
  | notApplicable => .fail

/-- The values of an attribute that are not selected. -/
def complement (resolved : Attribute) : Selection → Selection
  | matched values => matched (resolved.valuesWhere fun value => value ∉ values)
  | notApplicable => notApplicable

/-- The values that a list of selections has in common with those found so far. -/
def commonWith (found : ValueSet) : List Selection → Selection
  | [] => matched found
  | matched values :: rest => commonWith (found.inter values) rest
  | notApplicable :: _ => nothing

/-- The values that all selections have in common: none if there is no selection, or one of them
does not apply. -/
def common : List Selection → Selection
  | [] => nothing
  | matched values :: rest => commonWith values rest
  | notApplicable :: _ => nothing

/-- The values of all selections together with those found so far. -/
def joinedWith (found : ValueSet) : List Selection → Selection
  | [] => matched found
  | matched values :: rest => joinedWith (found.union values) rest
  | notApplicable :: _ => notApplicable

/-- The values of all selections together; one that does not apply spoils them all. -/
def joined (selections : List Selection) : Selection := joinedWith ∅ selections

end Selection

namespace RequestedMatch

/-- Whether a requested attribute has the name that is looked for, and the format if one is given. -/
def isNamed (sought : RequestedMatch) (resolved : Attribute) (requested : RequestedAttribute) :
    Bool :=
  let name := sought.attributeName.getD resolved.id
  (requested.name == name || requested.friendlyName == some name) &&
    (sought.attributeNameFormat.isNone || requested.nameFormat == sought.attributeNameFormat)

/-- The values of an attribute that are selected if the metadata asks for nothing. -/
def silently (sought : RequestedMatch) (resolved : Attribute) : ValueSet :=
  if sought.matchIfSilent then resolved.valueSet else ∅

/-- The values found so far and those that one requested attribute accepts: all, if it lists none.
It is passed over if it has to be required and is not. -/
def contribute (sought : RequestedMatch) (resolved : Attribute) (found : ValueSet)
    (requested : RequestedAttribute) : ValueSet :=
  if sought.onlyIfRequired && !requested.required then found
  else if requested.values.isEmpty then found.union resolved.valueSet
  else found.union (resolved.valuesWhere fun value => requested.values.contains value.textForm)

/-- The values of an attribute that the requester asks for in its metadata, if it has any. -/
def selectFor (sought : RequestedMatch) (entity : Option Entity) (resolved : Attribute) :
    ValueSet :=
  match entity with
  | none => sought.silently resolved
  | some entity =>
    if entity.requested.isEmpty then sought.silently resolved
    else (entity.requested.filter (sought.isNamed resolved)).foldl (sought.contribute resolved) ∅

/-- The values of an attribute that the requester of a request asks for. -/
def select (sought : RequestedMatch) (request : Request) (resolved : Attribute) : ValueSet :=
  sought.selectFor (request.metadata? .requester) resolved

end RequestedMatch

/-- Whether a fact passes a comparison; a missing one fails. -/
def FactKind.evaluate (facts : Facts) (test : StringMatch) : FactKind → Tristate
  | issuer => single facts.issuer
  | requester => single facts.requester
  | principal => single facts.principal
  | authenticationMethod => single facts.authenticationMethod
  | proxiedRequester =>
    match facts.proxiedRequesters with
    | none => .fail
    | some proxies => .ofBool (proxies.any fun proxy => test.accepts proxy)
where
  /-- Whether a fact with a single text passes. -/
  single : Option String → Tristate
    | none => .fail
    | some text => .ofBool (test.accepts text)

/-- Whether an attribute has a number of values within the bounds; an absent one has none. -/
def ValueCount.holds (count : ValueCount) (request : Request) : Bool :=
  let number := ((request.attribute? count.attributeId).map (·.values.length)).getD 0
  count.least.all (fun least => least ≤ number) && count.most.all (fun most => number ≤ most)

namespace Script

/-- The outcome of a script that has to decide. -/
def decide (script : Script) (request : Request) : Except ScriptError Tristate :=
  match script.run (.ofRequest request) with
  | .error e => .error e
  | .ok (.bool value) => .ok (.ofBool value)
  | .ok (.strings _) =>
    .error (.unexpectedResult "requirement rule script must return a boolean, got list")
  | .ok (.other kind) =>
    .error (.unexpectedResult ("requirement rule script must return a boolean, got " ++ kind))

/-- The error of a script that lists a text which is the form of no value. -/
def foreignText (resolved : Attribute) (text : String) : ScriptError :=
  .unexpectedResult ("'" ++ text ++ "' is not a value of attribute '" ++ resolved.id ++ "'")

/-- The values found so far and those whose text forms are listed. Every listed text has to be the
form of a value, and may be that of several. -/
def valuesOfTexts (resolved : Attribute) (found : ValueSet) :
    List String → Except ScriptError ValueSet
  | [] => .ok found
  | text :: rest =>
    let meant := resolved.values.filter fun value => value.textForm == text
    if meant.isEmpty then .error (foreignText resolved text)
    else valuesOfTexts resolved (meant.foldl .insert found) rest

/-- The values of an attribute that a script selects. -/
def select (script : Script) (request : Request) (resolved : Attribute) :
    Except ScriptError Selection :=
  match script.run (.ofAttribute request resolved) with
  | .error e => .error e
  | .ok (.strings texts) => (valuesOfTexts resolved ∅ texts).map .matched
  | .ok (.bool _) =>
    .error (.unexpectedResult "matcher script must return a list of values, got bool")
  | .ok (.other kind) =>
    .error (.unexpectedResult ("matcher script must return a list of values, got " ++ kind))

end Script

mutual

/-- The outcome of a rule for a request. -/
def Rule.evaluate (request : Request) : Rule → Except ScriptError Tristate
  | .any => .ok .true
  | .none => .ok .false
  | .and rules => evaluateAnd request rules
  | .or rules => evaluateOr request .false rules
  | .not rule => do
    return (← rule.evaluate request).not
  | .fact kind test => .ok (kind.evaluate request.facts test)
  | .valueCount count => .ok (.ofBool (count.holds request))
  | .attributeValues id matcher =>
    match request.attribute? id with
    | .none => .ok .false
    | .some resolved => do
      return (← matcher.select request resolved).toOutcome
  | .metadata check => .ok (.ofBool (check.holds request))
  | .script script => script.decide request

/-- The conjunction of rules, all of which are evaluated: falsity if there is none. -/
def evaluateAnd (request : Request) : List Rule → Except ScriptError Tristate
  | [] => .ok .false
  | rule :: rest => do
    let outcome ← rule.evaluate request
    evaluateAndWith request outcome rest

/-- The conjunction of an outcome and of rules, all of which are evaluated. -/
def evaluateAndWith (request : Request) (found : Tristate) :
    List Rule → Except ScriptError Tristate
  | [] => .ok found
  | rule :: rest => do
    let outcome ← rule.evaluate request
    evaluateAndWith request (found.and outcome) rest

/-- The disjunction of an outcome and of rules, which are evaluated up to the first true one. -/
def evaluateOr (request : Request) (found : Tristate) : List Rule → Except ScriptError Tristate
  | [] => .ok found
  | rule :: rest => do
    let outcome := found.or (← rule.evaluate request)
    if outcome.isTrue then return outcome else evaluateOr request outcome rest

/-- The values of an attribute of a request that a matcher selects. -/
def Matcher.select (request : Request) (resolved : Attribute) :
    Matcher → Except ScriptError Selection
  | .any => .ok (.all resolved)
  | .value test => .ok (.matched (resolved.valuesWhere test.acceptsValue))
  | .scope test => .ok (.matched (resolved.valuesWhere test.acceptsScope))
  | .script script => script.select request resolved
  | .and matchers => do
    return .common (← selectAll request resolved matchers)
  | .or matchers => do
    return .joined (← selectAll request resolved matchers)
  | .not matcher => do
    return (← matcher.select request resolved).complement resolved
  | .metadata check => .ok (.allIf resolved (check.holds request))
  | .requested sought => .ok (.matched (sought.select request resolved))
  | .fromRule rule => do
    return .ofOutcome resolved (← rule.evaluate request)

/-- What each of several matchers selects. -/
def selectAll (request : Request) (resolved : Attribute) :
    List Matcher → Except ScriptError (List Selection)
  | [] => .ok []
  | matcher :: rest => do
    let selection ← matcher.select request resolved
    return selection :: (← selectAll request resolved rest)

end

end AttributeRelease
