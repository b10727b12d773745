import AttributeRelease.CommandLine.Arguments

/-!
# Help

The texts that explain how the program is called, and what it says about itself.
-/

namespace AttributeRelease.CommandLine

/-- The name by which the program is called. -/
def programName : String := "attribute-filter"

/-- The version of the program. -/
def programVersion : String := "0.1.0"

/-- What a command does. -/
def CommandName.summary : CommandName → String
  | check => "Compile the policies and report what was loaded"
  | filter => "Run one filtering pass over a JSON request and print the released attributes"
  | schema => "Export the JSON schema for the configuration file"
  | features => "Show enabled compile-time features"
  | help => "Print this message or the help of the given subcommand(s)"

/-- What the value of an option is for. -/
def OptionName.summary : OptionName → String
  | config => "Path to the policy config file"
  | request => "Request file with facts and attributes (JSON)"
  | output => "Output file (defaults to stdout)"

/-- An option and its value as they are written. -/
def OptionName.usage (name : OptionName) : String :=
  "-" ++ (name.word.take 1).toString ++ ", --" ++ name.word ++ " <" ++ name.word.toUpper ++ ">"

/-- A text filled up with blanks to a number of characters. -/
def padded (width : Nat) (text : String) : String :=
  text ++ .ofList (List.replicate (width - text.length) ' ')

/-- Lines of names with what they mean, in two columns. -/
def columns (rows : List (String × String)) : String :=
  let width := (rows.map (·.1.length)).foldl max 0
  String.join (rows.map fun row => "  " ++ padded width row.1 ++ "  " ++ row.2 ++ "\n")

/-- The arguments of a command as they are written. -/
def CommandName.usage : CommandName → String
  | check => "check [OPTIONS]"
  | filter => "filter [OPTIONS] --request <REQUEST>"
  | schema => "schema [OPTIONS]"
  | features => "features [OPTIONS]"
  | help => "help [COMMAND]"

/-- How the program, or one of its commands, is called. -/
def helpText : Option CommandName → String
  | none =>
    "IdP attribute release filter\n\nUsage: " ++ programName ++ " [OPTIONS] <COMMAND>\n\n" ++
      "Commands:\n" ++ columns (CommandName.all.map fun name => (name.word, name.summary)) ++
      "\nOptions:\n" ++
      columns [(OptionName.config.usage, OptionName.config.summary), ("-h, --help", "Print help"),
        ("-V, --version", "Print version")]
  | some name =>
    name.summary ++ "\n\nUsage: " ++ programName ++ " " ++ name.usage ++ "\n\nOptions:\n" ++
      columns (name.options.map (fun option => (option.usage, option.summary)) ++
        [("-h, --help", "Print help")])

/-- The name and the version of the program. -/
def versionText : String := programName ++ " " ++ programVersion ++ "\n"

/-- What the program was built with, by group. -/
def featureGroups : List (String × String) :=
  [("Tools", "cli"), ("Scripting", "cel"), ("Validation & Export", "json-schema")]

/-- The account of what the program was built with. -/
def featuresText : String :=
  programName ++ " v" ++ programVersion ++ "\n\nBuild profile: full\n  (full = " ++
    ", ".intercalate (featureGroups.map (·.2)) ++ ")\n\nCompile-time features:\n" ++
    "\n".intercalate (featureGroups.map fun group =>
      "  " ++ group.1 ++ ":\n    " ++ padded 32 group.2 ++ " enabled\n")

end AttributeRelease.CommandLine
