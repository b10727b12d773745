import AttributeRelease.Request.Basic

/-!
# Scripts

Scripts decide about a request, or select values of one attribute of it, in a language that the
library does not fix. They see the bindings of a request and give a result or fail. A host turns
source texts into scripts.
-/

namespace AttributeRelease

/-- An attribute as scripts see it. -/
structure AttributeView where
  id : String
  /-- The text forms of the values. -/
  values : List String
  deriving DecidableEq, Repr

/-- A request as scripts see it. -/
structure Bindings where
  facts : Facts
  /-- The text forms of the values of all attributes, by their ids. -/
  attributes : NameMap (List String)
  /-- The attribute that is being filtered, for scripts that select values. -/
  selected : Option AttributeView

namespace Bindings

/-- What scripts see that decide about a request. -/
def ofRequest (request : Request) : Bindings where
  facts := request.facts
  attributes := request.attributes.map Attribute.valueTexts
  selected := none

/-- What scripts see that select values of an attribute. -/
def ofAttribute (request : Request) (resolved : Attribute) : Bindings :=
  { ofRequest request with selected := some ⟨resolved.id, resolved.valueTexts⟩ }

end Bindings

/-- What a script gives. -/
inductive ScriptResult where
  | bool (value : Bool)
  | strings (values : List String)
  /-- Anything else, by a short description of its kind. -/
  | other (kind : String)
  deriving DecidableEq, Repr

/-- Why a script could not be had, or gave nothing that can be used. -/
inductive ScriptError where
  | compile (reason : String)
  | execution (reason : String)
  | unexpectedResult (reason : String)
  | unsupported (reason : String)
  deriving DecidableEq, Repr

/-- The wording of a script error. -/
def ScriptError.message : ScriptError → String
  | compile reason => "Script failed to compile: " ++ reason
  | execution reason => "Script execution failed: " ++ reason
  | unexpectedResult reason => "Script returned an unexpected result: " ++ reason
  | unsupported reason => "Scripting is not available: " ++ reason

/-- A script that can be run. It is a function of its bindings. -/
structure Script where
  source : String
  run : Bindings → Except ScriptError ScriptResult

/-- Something that turns source texts into scripts. -/
structure ScriptHost where
  compile : String → Except ScriptError Script

namespace ScriptHost

/-- The host that has no scripting language. -/
def none : ScriptHost where
  compile _ := .error (.unsupported "scripted rules require the 'cel' feature to be enabled")

end ScriptHost

end AttributeRelease
