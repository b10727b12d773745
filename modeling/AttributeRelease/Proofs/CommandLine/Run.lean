import AttributeRelease.CommandLine.Run
import AttributeRelease.Proofs.Attribute.Form
import AttributeRelease.Proofs.Config.Loading
import AttributeRelease.Proofs.Engine.Session
import AttributeRelease.Proofs.Metadata.Form
import AttributeRelease.Proofs.Request.Form

/-!
# What a run prints

A command that checks or filters goes through several stages, each of which may fail. Only when all
of them are done is something printed: `Compiled` and `Inputs.Given` say what the stages have to
give, and a run that gets less ends with code one and prints nothing.
-/

namespace AttributeRelease.CommandLine

open Outcome

variable {console : Console Id} {path requestPath : String}

/-- The configuration in a file loads, and an engine is compiled from it. -/
structure Compiled (console : Console Id) (path : String) (config : Config) (engine : Engine) :
    Prop where
  loads : (Config.ofFile console.toSurroundings path).run.run = .ok config
  compiles : config.compile Expression.host = .ok engine

/-- A directory stands in the table of the metadata file, if there is such a file. -/
def HoldsMetadata (console : Console Id) (path : Option String) (directory : Directory) : Prop :=
  match path with
  | none => directory = .empty
  | some path => ∃ text fields, (console.read? path).run = some text ∧
      Toml.read? text = some (.table fields) ∧ Directory.StandsIn fields directory

/-- A metadata file holds a directory exactly if its text denotes it. -/
theorem holdsMetadata_some_iff {path : String} {directory : Directory} :
    HoldsMetadata console (some path) directory ↔
      (console.read? path).run.bind Directory.ofToml? = some directory := by
  simp only [HoldsMetadata, Option.bind_eq_some_iff, Directory.ofToml?_eq_some_iff,
    exists_and_left]

/-- A metadata file holds one directory. -/
theorem HoldsMetadata.unique {path : Option String} {directory other : Directory}
    (holds : HoldsMetadata console path directory) (otherHolds : HoldsMetadata console path other) :
    directory = other := by
  cases path with
  | none => exact Eq.trans holds (Eq.symm otherHolds)
  | some path =>
    exact Option.some.inj
      ((holdsMetadata_some_iff.1 holds).symm.trans (holdsMetadata_some_iff.1 otherHolds))

/-- Facts and attributes stand in the table of a request file. -/
def HoldsRequest (console : Console Id) (path : String) (facts : Facts) (attributes : List Attribute) :
    Prop :=
  ∃ text fields, (console.read? path).run = some text ∧ Json.scan? text = some (.table fields) ∧
    Request.StandIn facts attributes fields

/-- A request file holds facts and attributes exactly if its text denotes them. -/
theorem holdsRequest_iff {facts : Facts} {attributes : List Attribute} :
    HoldsRequest console path facts attributes ↔
      (console.read? path).run.bind Request.ofJson? = some (facts, attributes) := by
  simp only [HoldsRequest, Option.bind_eq_some_iff, Request.ofJson?_eq_some_iff, exists_and_left]

/-- What a filtering run works on. -/
structure Inputs where
  config : Config
  engine : Engine
  directory : Directory
  facts : Facts
  attributes : List Attribute

namespace Inputs

/-- The request that is filtered. -/
def request (inputs : Inputs) : Request :=
  ⟨Request.byId inputs.attributes, inputs.facts, inputs.directory.find?⟩

/-- What filtering comes to: the context after it, and why it failed if it did. -/
def filtered (inputs : Inputs) : FilterContext × Option FilterError :=
  inputs.engine.filter (.ofRequest inputs.request)

/-- The inputs are those in a configuration, the metadata file that it names and a request file. -/
structure Given (inputs : Inputs) (console : Console Id) (path requestPath : String) : Prop where
  compiled : Compiled console path inputs.config inputs.engine
  metadata : HoldsMetadata console inputs.config.metadataPath inputs.directory
  decodes : HoldsRequest console requestPath inputs.facts inputs.attributes

/-- Files and variables leave no choice of inputs. -/
theorem Given.unique {inputs others : Inputs} (given : inputs.Given console path requestPath)
    (othersGiven : others.Given console path requestPath) : inputs = others := by
  obtain ⟨config, engine, directory, facts, attributes⟩ := inputs
  obtain ⟨config', engine', directory', facts', attributes'⟩ := others
  obtain rfl : config = config' :=
    Except.ok.inj (given.compiled.loads.symm.trans othersGiven.compiled.loads)
  obtain rfl : engine = engine' :=
    Except.ok.inj (given.compiled.compiles.symm.trans othersGiven.compiled.compiles)
  obtain rfl : directory = directory' := given.metadata.unique othersGiven.metadata
  obtain ⟨rfl, rfl⟩ : facts = facts' ∧ attributes = attributes' := by
    simpa using (holdsRequest_iff.1 given.decodes).symm.trans (holdsRequest_iff.1 othersGiven.decodes)
  rfl

end Inputs

/-- A text shows released attributes: it is laid out with one item a line, and reads back as one
table in ascending order of their ids, each as it is written. -/
def Shows (output : String) (released : NameMap Attribute) : Prop :=
  ∃ entries : List (String × Tree),
    (∃ text, Json.Indented 0 (.table entries) text ∧ output = text ++ "\n") ∧
    Json.read? output = some (.table entries) ∧
    entries.Pairwise (fun left right => left.1 < right.1) ∧
    ∀ id tree, (id, tree) ∈ entries ↔
      ∃ resolved, released.find? id = some resolved ∧ resolved.toTree = tree

section Stages

/-! Each stage gives what it should, or a failure that ends the program with code one. -/

end Stages

/-- A run whose arguments ask for something reports what comes of performing it. -/
theorem run_eq {arguments : List String} {invocation : Invocation}
    (isAsked : Invocation.ofArguments arguments = .ok invocation) :
    (run console arguments).run =
      match (perform console invocation).run.run with
      | .ok report => report
      | .error failure => .failed failure := by
  rw [run, isAsked]
  simp only
  cases ((perform console invocation).run : Except Failure Report) <;> rfl

end AttributeRelease.CommandLine
