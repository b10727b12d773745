import AttributeRelease.Config.Expansion
import AttributeRelease.Config.Form
import AttributeRelease.Config.Merge
import AttributeRelease.Config.Path
import AttributeRelease.Text.Blank
import AttributeRelease.Tree.Toml

/-!
# Loading configurations

A configuration is a TOML text whose variables are expanded first. Further policy files that it lists
are read in order and merged into it; the first problem ends the loading. Everything that is outside
the program, files and variables, is reached through surroundings, which may be real or made up. Files
are named by paths that are texts; a path whose bytes are no text cannot be given.
-/

namespace AttributeRelease

/-- What is outside the program. Paths, names and values are texts. -/
structure Surroundings (m : Type → Type) where
  /-- The text of a file; none if it cannot be read or is no text. -/
  read? : String → m (Option String)
  /-- The value of a variable of the environment, if it is set. -/
  valueOf? : String → m (Option String)

/-- Why a configuration could not be loaded. -/
inductive LoadError where
  | unreadable (path : String)
  /-- A text is no TOML, or does not have the form of a configuration. -/
  | malformed
  | unsetVariable (name : String)
  /-- A policy file defines a name again. -/
  | collision (path : String) (collision : Collision)
  | emptyEngineId
  deriving DecidableEq, Repr

/-- The wording of a load error, which ends where the account of the operating system or of the
reader of TOML texts would go on. -/
def LoadError.message : LoadError → String
  | unreadable path => "Failed to read config file " ++ path
  | malformed => "Failed to parse config"
  | unsetVariable name => "Environment variable not found: " ++ name
  | collision path cause => "Configuration validation error: " ++ path ++ ": " ++ cause.message
  | emptyEngineId => "Configuration validation error: engine.id must not be empty"

namespace Config

variable {m : Type → Type} [Monad m]

/-- The text of a file. -/
def readFile (outside : Surroundings m) (path : String) : ExceptT LoadError m String := do
  match ← outside.read? path with
  | some text => return text
  | none => throw (.unreadable path)

/-- What the TOML text, with its variables expanded, denotes. -/
def readToml {α : Type} (outside : Surroundings m) (ofTree? : Tree → Option α) (text : String) :
    ExceptT LoadError m α := do
  let expanded ← (Expansion.expand outside.valueOf? text).adapt LoadError.unsetVariable
  match (Toml.read? expanded).bind ofTree? with
  | some value => return value
  | none => throw .malformed

/-- Where the records of a configuration text stand. -/
def textPlace : Place := ⟨.toml, false⟩

/-- The configuration with its paths taken from a directory. -/
def resolvePaths (directory : String) (config : Config) : Config :=
  { config with
    engine.policyFiles := config.engine.policyFiles.map (Path.resolve directory)
    metadataPath := config.metadataPath.map (Path.resolve directory) }

/-- The configuration with the definitions of a policy file. -/
def addFile (outside : Surroundings m) (config : Config) (path : String) :
    ExceptT LoadError m Config := do
  let text ← readFile outside path
  let set ← readToml outside (PolicySet.ofTree? textPlace) text
  match config.definitions.merge set with
  | (definitions, none) => return { config with definitions }
  | (_, some cause) => throw (.collision path cause)

/-- The configuration that a text denotes whose paths are taken from a directory. -/
def ofTextIn (outside : Surroundings m) (directory text : String) :
    ExceptT LoadError m Config := do
  let config := resolvePaths directory (← readToml outside (ofTree? textPlace) text)
  let config ← config.engine.policyFiles.foldlM (addFile outside) config
  if Text.isBlank config.engine.id then throw .emptyEngineId else return config

/-- The configuration that a text denotes. -/
def ofText (outside : Surroundings m) (text : String) : ExceptT LoadError m Config :=
  ofTextIn outside "" text

/-- The configuration that a file denotes, whose paths are taken from its directory. -/
def ofFile (outside : Surroundings m) (path : String) : ExceptT LoadError m Config := do
  ofTextIn outside (Path.parent path) (← readFile outside path)

end Config

end AttributeRelease
