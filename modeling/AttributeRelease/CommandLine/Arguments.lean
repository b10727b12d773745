/-!
# Command lines

What the arguments of the program ask for. Options may stand before the command and after it; each takes
a value, which follows it or is attached to it. Asking for help ends the reading at once.
-/

namespace AttributeRelease.CommandLine

/-- A kind of command. -/
inductive CommandName where
  | check
  | filter
  | schema
  | features
  | help
  deriving DecidableEq, Repr

/-- The commands in the order in which they are listed. -/
def CommandName.all : List CommandName := [check, filter, schema, features, help]

/-- The word that stands for a command. -/
def CommandName.word : CommandName → String
  | check => "check"
  | filter => "filter"
  | schema => "schema"
  | features => "features"
  | help => "help"

/-- The command that a word stands for. -/
def CommandName.ofWord? (word : String) : Option CommandName :=
  all.find? fun name => name.word == word

/-- An option, which takes a value. -/
inductive OptionName where
  | config
  | request
  | output
  deriving DecidableEq, Repr

/-- The word that stands for an option after two dashes. Its first letter does after one. -/
def OptionName.word : OptionName → String
  | config => "config"
  | request => "request"
  | output => "output"

/-- The options that may follow a command. -/
def CommandName.options : CommandName → List OptionName
  | check => [.config]
  | filter => [.config, .request]
  | schema => [.config, .output]
  | features => [.config]
  | help => []

/-- Why a command line cannot be understood. -/
inductive Misuse where
  | missingCommand
  | unknownCommand (word : String)
  | unexpected (argument : String)
  | missingValue (name : OptionName)
  | repeated (name : OptionName)
  | missingOption (name : OptionName)
  deriving DecidableEq, Repr

/-- The wording of a misuse. -/
def Misuse.message : Misuse → String
  | missingCommand => "a subcommand is required"
  | unknownCommand word => "unrecognized subcommand '" ++ word ++ "'"
  | unexpected argument => "unexpected argument '" ++ argument ++ "' found"
  | missingValue name => "a value is required for '--" ++ name.word ++ "' but none was supplied"
  | repeated name => "the argument '--" ++ name.word ++ "' cannot be used multiple times"
  | missingOption name => "the argument '--" ++ name.word ++ "' is required"

/-- What a command line asks for. -/
inductive Invocation where
  | version
  /-- Help with a command, or with the program. -/
  | help (topic : Option CommandName)
  | check (config : Option String)
  | filter (config : Option String) (request : String)
  | schema (output : Option String)
  | features
  deriving DecidableEq, Repr

/-- What a single argument is. -/
inductive Argument where
  | help
  | version
  /-- An option, with the value that is attached to it. -/
  | setting (name : OptionName) (attached : Option String)
  /-- Two dashes, after which no option can stand. -/
  | ending
  | word
  | unknown
  deriving DecidableEq, Repr

/-- What an argument after two dashes is. -/
def Argument.ofLong (options : List OptionName) (body : String) : Argument :=
  let name := (body.splitOn "=").headD ""
  let attached :=
    if body.contains '=' then some ("=".intercalate (body.splitOn "=").tail) else none
  match options.find? fun option => option.word == name with
  | some option => setting option attached
  | none =>
    if attached.isSome then unknown
    else if name == "help" then help
    else if name == "version" then version
    else unknown

/-- What an argument after one dash is. -/
def Argument.ofShort (options : List OptionName) : List Char → Argument
  | 'h' :: _ => help
  | 'V' :: _ => version
  | letter :: attached =>
    match options.find? fun option => option.word.toList.head? == some letter with
    | some option =>
      setting option <|
        match attached with
        | [] => none
        | '=' :: value => some (.ofList value)
        | value => some (.ofList value)
    | none => unknown
  | [] => word

/-- What an argument is where some options may stand. -/
def Argument.ofText (options : List OptionName) (text : String) : Argument :=
  match text.toList with
  | ['-', '-'] => ending
  | '-' :: '-' :: body => ofLong options (.ofList body)
  | '-' :: body => ofShort options body
  | _ => word

/-- The options that were given, with their values. -/
abbrev Given := List (OptionName × String)

/-- The value of an option that was given. -/
def Given.value? (given : Given) (name : OptionName) : Option String := given.lookup name

/-- The options with one more, which must not have been given yet and needs a text. -/
def Given.add (given : Given) (name : OptionName) (value : String) : Except Misuse Given :=
  if (given.value? name).isSome then .error (.repeated name)
  else if value.isEmpty then .error (.missingValue name)
  else .ok ((name, value) :: given)

/-- What was read before the first word. -/
inductive Leading where
  | help
  | version
  /-- The options that were given, and the arguments that follow them. -/
  | options (given : Given) (rest : List String)

/-- Whether an argument can be the value of an option that precedes it. -/
def isValue (argument : String) : Bool := !argument.startsWith "-" || argument == "-"

/-- Reads the options at the beginning of arguments. -/
def readOptions (options : List OptionName) (offersVersion : Bool) (given : Given) :
    List String → Except Misuse Leading
  | [] => .ok (.options given [])
  | argument :: rest =>
    match Argument.ofText options argument with
    | .help => .ok .help
    | .version => if offersVersion then .ok .version else .error (.unexpected argument)
    | .unknown => .error (.unexpected argument)
    | .word => .ok (.options given (argument :: rest))
    | .ending =>
      match rest with
      | [] => .ok (.options given [])
      | next :: _ => .error (.unexpected next)
    | .setting name (some value) => do
      readOptions options offersVersion (← given.add name value) rest
    | .setting name none =>
      match rest with
      | [] => .error (.missingValue name)
      | value :: rest =>
        if isValue value then do
          readOptions options offersVersion (← given.add name value) rest
        else .error (.missingValue name)

/-- The command that asks for help with a command, or with the program. -/
def helpOn : List String → Except Misuse Invocation
  | [] => .ok (.help none)
  | [word] =>
    match CommandName.ofWord? word with
    | some topic => .ok (.help (some topic))
    | none => .error (.unknownCommand word)
  | _ :: next :: _ => .error (.unknownCommand next)

/-- What a command with its options asks for. An option after the command counts before one that
precedes it. -/
def invocationOf (before given : Given) : CommandName → Except Misuse Invocation
  | .check => .ok (.check (config? before given))
  | .filter =>
    match given.value? .request with
    | some request => .ok (.filter (config? before given) request)
    | none => .error (.missingOption .request)
  | .schema => .ok (.schema (given.value? .output))
  | .features => .ok .features
  | .help => .ok (.help none)
where
  /-- The path of the configuration. -/
  config? (before given : Given) : Option String :=
    (given.value? .config).or (before.value? .config)

/-- What follows a command, after the options that precede it. -/
def readCommand (before : Given) (name : CommandName) (rest : List String) :
    Except Misuse Invocation :=
  match name with
  | .help => helpOn rest
  | name => do
    match ← readOptions name.options false [] rest with
    | .help | .version => return .help (some name)
    | .options given [] => invocationOf before given name
    | .options _ (word :: _) => throw (.unexpected word)

/-- What the arguments of the program ask for. -/
def Invocation.ofArguments (arguments : List String) : Except Misuse Invocation := do
  match ← readOptions [.config] true [] arguments with
  | .help => return .help none
  | .version => return .version
  | .options _ [] => throw .missingCommand
  | .options before (word :: rest) =>
    match CommandName.ofWord? word with
    | some name => readCommand before name rest
    | none => throw (.unknownCommand word)

end AttributeRelease.CommandLine
