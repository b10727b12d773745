import AttributeRelease.Config.Loading
import AttributeRelease.Proofs.Compile.Reference
import AttributeRelease.Proofs.Config.Merge

/-!
# What loading a configuration gives

A file is read, its variables are replaced, and its text is taken for what it denotes:
`Config.Fetched` lists all that can come of this. A policy file either adds its definitions to those
that were gathered before it, or makes a problem (`Config.Problem`) that ends the loading. So policy
files are added as their policy sets are merged, as far as the first file with a problem, and what
follows that file does not matter.

Files and variables are those of surroundings that only answer, and always the same.
-/

namespace AttributeRelease

open Outcome

namespace Path

/-- A path taken from a directory. -/
def join (directory path : String) : String :=
  if directory.isEmpty then path
  else if directory.endsWith "/" then directory ++ path
  else directory ++ "/" ++ path

/-- A path that is written in a file. It is taken from the directory of that file, unless it starts
at the root. -/
def writtenIn (file path : String) : String :=
  if isAbsolute path then path else join (parent file) path

end Path

namespace References

variable {left right : Config}

/-- Of a configuration only its definitions and the limit for scripts matter to references. -/
theorem within_congr (host : ScriptHost)
    (sameLimit : left.engine.maxScriptLength = right.engine.maxScriptLength)
    (sameDefinitions : left.definitions = right.definitions) (count : Nat)
    (openOnes : List Reference) :
    within left host count openOnes = within right host count openOnes := by
  induction count generalizing openOnes with
  | zero => simp only [within, sameDefinitions]
  | succ count ih => simp only [within, sameDefinitions, sameLimit, ih]

/-- References are the same in configurations with the same definitions and limit for scripts. -/
theorem ofConfig_congr (host : ScriptHost)
    (sameLimit : left.engine.maxScriptLength = right.engine.maxScriptLength)
    (sameDefinitions : left.definitions = right.definitions) :
    ofConfig left host = ofConfig right host := by
  funext openOnes
  simp only [ofConfig, sameDefinitions, within_congr host sameLimit sameDefinitions]

end References

namespace PolicySet

variable {set other : PolicySet} {sets : List PolicySet}

/-- There is one union of several sets. -/
theorem IsUnion.unique (union : set.IsUnion sets) (otherUnion : other.IsUnion sets) :
    set = other := by
  obtain ⟨rules, matchers⟩ :=
    eq_of_definition?_eq (union.definition?_eq otherUnion (List.Perm.refl sets))
  have policies : set.policies = other.policies := union.policies.trans otherUnion.policies.symm
  cases set
  cases other
  cases rules
  cases matchers
  cases policies
  rfl

end PolicySet

namespace Config

variable {outside : Surroundings Id} {α : Type} {ofTree? : Tree → Option α} {path file : String}
  {files : List String} {config main : Config} {error : LoadError}

/-- Compiling depends on the id, the limit for scripts, and the definitions. -/
theorem compile_congr {left right : Config} (host : ScriptHost)
    (sameId : left.engine.id = right.engine.id)
    (sameLimit : left.engine.maxScriptLength = right.engine.maxScriptLength)
    (sameDefinitions : left.definitions = right.definitions) :
    left.compile host = right.compile host := by
  have sameReferences := References.ofConfig_congr host sameLimit sameDefinitions
  have rules : left.compileRule host = right.compileRule host := by
    funext openOnes rule
    rw [compileRule, compileRule, sameLimit, sameReferences]
  have matchers : left.compileMatcher host = right.compileMatcher host := by
    funext openOnes matcher
    rw [compileMatcher, compileMatcher, sameLimit, sameReferences]
  have attributeRules : left.compileAttributeRule host = right.compileAttributeRule host := by
    funext rule
    simp only [compileAttributeRule, matchers]
  have policies : left.compilePolicies host = right.compilePolicies host := by
    funext before policies
    induction policies generalizing before with
    | nil => rfl
    | cons policy rest ih => simp only [compilePolicies, compilePolicy, rules, attributeRules, ih]
  simp only [compile, checkRule, checkMatcher, rules, matchers, policies, sameId, sameDefinitions]

/-- The policy files that a main file lists. -/
def listedFiles (path : String) (main : Config) : List String :=
  main.engine.policyFiles.map (Path.writtenIn path)

/-- A configuration has the definitions of a main file and of policy sets, of which no two share a
name, and all other settings from the main file alone. -/
structure Assembled (path : String) (main : Config) (sets : List PolicySet) (config : Config) :
    Prop where
  definitions : config.definitions.IsUnion (main.definitions :: sets)
  disjoint : (main.definitions :: sets).Pairwise PolicySet.Apart
  id : config.engine.id = main.engine.id
  maxScriptLength : config.engine.maxScriptLength = main.engine.maxScriptLength
  policyFiles : config.engine.policyFiles = listedFiles path main
  metadataPath : config.metadataPath = main.metadataPath.map (Path.writtenIn path)
  log : config.log = main.log

/-- What a main file and policy sets are put together to is determined. -/
theorem Assembled.unique {sets : List PolicySet} {other : Config}
    (assembled : Assembled path main sets config) (alsoAssembled : Assembled path main sets other) :
    config = other := by
  obtain ⟨⟨id, limit, policyFiles⟩, metadataPath, log, definitions⟩ := config
  obtain ⟨⟨otherId, otherLimit, otherFiles⟩, otherPath, otherLog, otherDefinitions⟩ := other
  obtain rfl : id = otherId := assembled.id.trans alsoAssembled.id.symm
  obtain rfl : limit = otherLimit :=
    assembled.maxScriptLength.trans alsoAssembled.maxScriptLength.symm
  obtain rfl : policyFiles = otherFiles := assembled.policyFiles.trans alsoAssembled.policyFiles.symm
  obtain rfl : metadataPath = otherPath :=
    assembled.metadataPath.trans alsoAssembled.metadataPath.symm
  obtain rfl : log = otherLog := assembled.log.trans alsoAssembled.log.symm
  obtain rfl : definitions = otherDefinitions :=
    assembled.definitions.unique alsoAssembled.definitions
  rfl

end Config

end AttributeRelease
