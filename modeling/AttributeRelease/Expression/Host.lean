import AttributeRelease.Expression.Evaluation
import AttributeRelease.Expression.Parser
import AttributeRelease.Script.Basic

/-!
# Expressions as scripts

The script host for the expression language. A script sees the request in the variable `context`, and
the attribute that it selects values of in the variable `attribute`.
-/

namespace AttributeRelease.Expression

/-- A text, or null if there is none. -/
def Datum.ofText? : Option String → Datum
  | some value => .text value
  | none => .null

/-- A list of texts. -/
def Datum.ofTexts (values : List String) : Datum := .list (values.map .text)

/-- A map with names for keys. -/
def Datum.ofFields (fields : List (String × Datum)) : Datum :=
  .map (fields.map fun field => (.text field.1, field.2))

/-- A request as the value of a variable. -/
def contextDatum (bindings : Bindings) : Datum :=
  .ofFields [("issuer", .ofText? bindings.facts.issuer),
    ("requester", .ofText? bindings.facts.requester),
    ("principal", .ofText? bindings.facts.principal),
    ("authentication_method", .ofText? bindings.facts.authenticationMethod),
    ("proxied_requesters", match bindings.facts.proxiedRequesters with
      | some proxies => .ofTexts proxies
      | none => .null),
    ("attributes",
      .ofFields (bindings.attributes.toList.map fun entry => (entry.1, .ofTexts entry.2)))]

/-- An attribute as the value of a variable. -/
def attributeDatum (selected : AttributeView) : Datum :=
  .ofFields [("id", .text selected.id), ("values", .ofTexts selected.values)]

/-- The variables that a script sees. -/
def scopeOf (bindings : Bindings) : Scope :=
  ("context", contextDatum bindings) ::
    (bindings.selected.toList.map fun selected => ("attribute", attributeDatum selected))

/-- What a list gives that comes after the texts so far, last first: the texts, or the kind of the
first item that is none. -/
def listResult (reversed : List String) : List Datum → ScriptResult
  | [] => .strings reversed.reverse
  | .text value :: rest => listResult (value :: reversed) rest
  | other :: _ => .other ("list containing " ++ other.kindName)

/-- What a value gives as the result of a script. -/
def resultOf : Datum → ScriptResult
  | .bool value => .bool value
  | .list items => listResult [] items
  | other => .other other.kindName

/-- Runs an expression as a script. -/
def run (expression : Expr) (bindings : Bindings) : Except ScriptError ScriptResult :=
  match expression.evaluate? (scopeOf bindings) with
  | some value => .ok (resultOf value)
  | none => .error (.execution "the expression has no value")

/-- The script host for expressions. -/
def host : ScriptHost where
  compile source :=
    match Parser.read? source with
    | some expression => .ok ⟨source, run expression⟩
    | none => .error (.compile "the text is no expression")

end AttributeRelease.Expression
