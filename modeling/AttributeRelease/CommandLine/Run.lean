import AttributeRelease.CommandLine.Help
import AttributeRelease.Config.Loading
import AttributeRelease.Config.Schema
import AttributeRelease.Engine.Registry
import AttributeRelease.Engine.Session
import AttributeRelease.Expression.Host
import AttributeRelease.Metadata.Directory

/-!
# Running commands

What the program prints for its arguments, and the code with which it ends: zero if the command was
carried out, one if something failed, two if the command line was wrong.
-/

namespace AttributeRelease.CommandLine

/-- What is outside the program, with files that can be written. -/
structure Console (m : Type → Type) extends Surroundings m where
  /-- Writes a text to a file and says whether that was possible. -/
  write : String → String → m Bool

/-- What a run of the program leaves behind. -/
structure Report where
  exitCode : UInt8
  output : String
  errors : String
  deriving DecidableEq, Repr

/-- Why a command could not be carried out. -/
inductive Failure where
  | noConfig
  | load (cause : LoadError)
  | build (cause : BuildError)
  | badRequest (path : String)
  | filtering (cause : FilterError)
  | unwritable (path : String)
  deriving DecidableEq, Repr

namespace Failure

/-- The line that tells of a failure. -/
def message : Failure → String
  | noConfig => "Error: --config is required for this command"
  | load cause => "Error: " ++ cause.message
  | build cause => "Error: " ++ cause.message
  | badRequest path => "Error: failed to read request " ++ path
  | filtering cause => "Error: " ++ cause.message
  | unwritable path => "Failed to write to " ++ path

/-- The code with which the program ends after a failure. -/
def exitCode : Failure → UInt8
  | noConfig => 2
  | _ => 1

end Failure

namespace Report

/-- The report of a run that printed a text. -/
def printed (output : String) : Report := ⟨0, output, ""⟩

/-- The report of a run that failed. -/
def failed (failure : Failure) : Report := ⟨failure.exitCode, "", failure.message ++ "\n"⟩

/-- The report of a run whose command line was wrong. -/
def misused (misuse : Misuse) : Report :=
  ⟨2, "", "error: " ++ misuse.message ++ "\n\nFor more information, try '--help'.\n"⟩

end Report

/-- What an engine is made of. -/
def summary (engine : Engine) : String :=
  "Engine '" ++ engine.id ++ "': " ++ toString engine.policies.length ++ " policies\n" ++
    String.join (engine.policies.map fun policy =>
      "  " ++ padded 40 policy.id ++ " " ++ toString policy.rules.length ++ " attribute rules\n")

/-- Released attributes as they are printed. -/
def releasedText (released : NameMap Attribute) : String :=
  Json.pretty (.table (released.map Attribute.toTree).toList) ++ "\n"

variable {m : Type → Type} [Monad m]

/-- Loads and compiles the configuration. -/
def loadEngine (console : Console m) (config : Option String) :
    ExceptT Failure m (Config × Engine) := do
  match config with
  | none => throw .noConfig
  | some path =>
    let config ← (Config.ofFile console.toSurroundings path).adapt Failure.load
    match config.compile Expression.host with
    | .ok engine => return (config, engine)
    | .error e => throw (.build e)

/-- The entities of the metadata file, or none if there is no such file. -/
def loadMetadata (console : Console m) (path : Option String) :
    ExceptT Failure m Directory := do
  match path with
  | none => return .empty
  | some path =>
    let text ← (Config.readFile console.toSurroundings path).adapt Failure.load
    match Directory.ofToml? text with
    | some directory => return directory
    | none => throw (.load .malformed)

/-- The request that a file holds. -/
def loadRequest (console : Console m) (directory : Directory) (path : String) :
    ExceptT Failure m Request := do
  match (← console.read? path).bind Request.ofJson? with
  | some (facts, attributes) => return ⟨Request.byId attributes, facts, directory.find?⟩
  | none => throw (.badRequest path)

/-- What is printed for an invocation. -/
def perform (console : Console m) : Invocation → ExceptT Failure m Report
  | .version => return .printed versionText
  | .help topic => return .printed (helpText topic)
  | .features => return .printed featuresText
  | .check config => do
    let (_, engine) ← loadEngine console config
    return .printed (summary engine)
  | .filter config path => do
    let (config, engine) ← loadEngine console config
    let directory ← loadMetadata console config.metadataPath
    let request ← loadRequest console directory path
    match (Session.start request).filter engine with
    | (session, none) => return .printed (releasedText session.context.released)
    | (_, some e) => throw (.filtering e)
  | .schema none => return .printed (Json.pretty Schema.config ++ "\n")
  | .schema (some path) => do
    if ← console.write path (Json.pretty Schema.config) then
      return ⟨0, "", "Config JSON schema written to " ++ path ++ "\n"⟩
    else throw (.unwritable path)

/-- Runs the program with some arguments. -/
def run (console : Console m) (arguments : List String) : m Report := do
  match Invocation.ofArguments arguments with
  | .error misuse => return .misused misuse
  | .ok invocation =>
    match ← (perform console invocation).run with
    | .ok report => return report
    | .error failure => return .failed failure

end AttributeRelease.CommandLine
