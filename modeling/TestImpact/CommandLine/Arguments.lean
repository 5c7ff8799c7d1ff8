import TestImpact.HttpMethod
import TestImpact.Text.Search

/-! The command line: which commands there are, what each of them takes, and how arguments are read.
An option has its value in the same argument behind an equals sign, or in the next one, which may not
look like a flag. Behind two hyphens nothing is a flag. -/

namespace TestImpact.CommandLine

/-! ## Commands -/

inductive Command where
  | analyze (root : String) (base out : Option String)
  | targets (root : String) (analysis : Option String)
  | diffFiles (old new : String) (path : Option String)
  | resolveEndpoint (path : String) (method : HttpMethod) (root : String)

def Command.paths : Command → List String
  | analyze root _ out => root :: out.toList
  | targets root analysis => root :: analysis.toList
  | diffFiles old new _ => [old, new]
  | resolveEndpoint _ _ root => [root]

/-- What was read: how often more messages were asked for, whether they are wanted as JSON, the
values of options, and the values without names. -/
structure Matches where
  verbosity : Nat := 0
  jsonLogs : Bool := false
  values : List (String × String) := []
  positionals : List String := []

namespace Matches

def value? (m : Matches) (name : String) : Option String := m.values.lookup name

def place (m : Matches) (n : Nat) : String := m.positionals.getD n ""

end Matches

inductive ValueKind where
  | text
  | path
  | method
  deriving DecidableEq

/-- Whether a value is of a kind: a path is not empty, and a method is a known one. -/
def ValueKind.accepts : ValueKind → String → Bool
  | text, _ => true
  | path, value => !value.isEmpty
  | method, value => (HttpMethod.parse value).toOption.isSome

structure OptionSpec where
  name : String
  kind : ValueKind
  usual : Option String := none
  help : String := ""

structure PositionalSpec where
  name : String
  kind : ValueKind

/-- A command: its name, what it is for, what it takes, and what it becomes with that. -/
structure CommandSpec where
  name : String
  about : String
  positionals : List PositionalSpec := []
  options : List OptionSpec
  make : Matches → Command

def rootOption : OptionSpec := { name := "root", kind := .path, usual := some "." }

def Matches.root (m : Matches) : String := (m.value? rootOption.name).getD "."

def Matches.method (m : Matches) : HttpMethod :=
  ((m.value? "method").bind fun name => (HttpMethod.parse name).toOption).getD .get

def analyzeSpec : CommandSpec :=
  { name := "analyze"
    about := "Analyze the working tree and write change-analysis.json and test-targets.json"
    options := [rootOption,
      { name := "base", kind := .text, help := "Revision to diff against" },
      { name := "out", kind := .path, help := "Output directory" }]
    make := fun m => .analyze m.root (m.value? "base") (m.value? "out") }

def targetsSpec : CommandSpec :=
  { name := "targets"
    about := "Print the test targets for a saved analysis"
    options := [rootOption,
      { name := "analysis", kind := .path
        help := "Defaults to change-analysis.json in the output directory" }]
    make := fun m => .targets m.root (m.value? "analysis") }

def diffFilesSpec : CommandSpec :=
  { name := "diff-files"
    about := "Analyze two versions of one file without git"
    positionals := [⟨"old", .path⟩, ⟨"new", .path⟩]
    options := [{ name := "path", kind := .text
                  help := "Repository-relative path used for classification" }]
    make := fun m => .diffFiles (m.place 0) (m.place 1) (m.value? "path") }

def resolveEndpointSpec : CommandSpec :=
  { name := "resolve-endpoint"
    about := "Resolve an endpoint against API_BASE_URL and write healing-report.json"
    positionals := [⟨"path", .text⟩]
    options := [{ name := "method", kind := .method, usual := some "GET" }, rootOption]
    make := fun m => .resolveEndpoint (m.place 0) m.method m.root }

def commandSpecs : List CommandSpec :=
  [analyzeSpec, targetsSpec, diffFilesSpec, resolveEndpointSpec]

def commandSpec? (name : String) : Option CommandSpec :=
  commandSpecs.find? fun s => s.name == name

/-! ## Reading arguments -/

/-- Why reading stopped before the end: the arguments are wrong, or they ask for a text. -/
inductive Stop where
  | usage
  | help
  | version
  deriving DecidableEq

/-- An argument with one or two hyphens in front. A lone hyphen is a value. -/
def looksLikeFlag (arg : String) : Bool :=
  Text.hasPrefix "-" arg && arg != "-"

/-- A long flag: its name, and the value behind an equals sign. -/
def longFlag? (arg : String) : Option (String × Option String) :=
  (Text.stripPrefix? "--" arg).map fun rest =>
    match Text.cutFirst? ['='] rest.toList with
    | some (name, value) => (String.ofList name, some (String.ofList value))
    | none => (rest, none)

/-- Reads the letters of a short flag. Only the program itself tells its version. -/
def readLetters (versioned : Bool) (m : Matches) : List Char → Except Stop Matches
  | [] => .ok m
  | 'v' :: rest => readLetters versioned { m with verbosity := m.verbosity + 1 } rest
  | 'h' :: _ => .error .help
  | 'V' :: _ => .error (if versioned then .version else .usage)
  | _ => .error .usage

/-- Reads a long flag without a value that the program knows everywhere. -/
def readLongFlag (versioned : Bool) (m : Matches) (name : String) : Except Stop Matches :=
  match name with
  | "verbose" => .ok { m with verbosity := m.verbosity + 1 }
  | "json-logs" => if m.jsonLogs then .error .usage else .ok { m with jsonLogs := true }
  | "help" => .error .help
  | "version" => .error (if versioned then .version else .usage)
  | _ => .error .usage

/-- Sets the value of an option. No option may be given twice. -/
def setOption (m : Matches) (o : OptionSpec) (value : String) : Except Stop Matches :=
  if o.kind.accepts value && (m.values.lookup o.name).isNone then
    .ok { m with values := m.values ++ [(o.name, value)] }
  else .error .usage

def addPositional (spec : CommandSpec) (m : Matches) (value : String) : Except Stop Matches :=
  match spec.positionals[m.positionals.length]? with
  | some p =>
    if p.kind.accepts value then .ok { m with positionals := m.positionals ++ [value] }
    else .error .usage
  | none => .error .usage

/-- Reads one argument of a command. An option without a value waits for the next argument. -/
def readArgument (spec : CommandSpec) (m : Matches) (arg : String) :
    Except Stop (Matches × Option OptionSpec) := do
  match longFlag? arg with
  | some (name, value) =>
    match spec.options.find? fun o => o.name == name, value with
    | some o, some value => return (← setOption m o value, none)
    | some o, none => return (m, some o)
    | none, some _ => throw .usage
    | none, none => return (← readLongFlag false m name, none)
  | none =>
    if looksLikeFlag arg then return (← readLetters false m arg.toList.tail, none)
    else return (← addPositional spec m arg, none)

/-- What was read, if every place without a name has a value. -/
def complete (spec : CommandSpec) (m : Matches) : Except Stop Matches :=
  if m.positionals.length = spec.positionals.length then .ok m else .error .usage

/-- Reads the arguments of a command; an option may be waiting for its value. -/
def readCommand (spec : CommandSpec) (m : Matches) :
    (waiting : Option OptionSpec) → List String → Except Stop Matches
  | none, [] => complete spec m
  | some _, [] => .error .usage
  | some o, arg :: rest =>
    if looksLikeFlag arg then .error .usage
    else do
      let m ← setOption m o arg
      readCommand spec m none rest
  | none, arg :: rest =>
    if arg = "--" then do complete spec (← rest.foldlM (addPositional spec) m)
    else do
      let (m, waiting) ← readArgument spec m arg
      readCommand spec m waiting rest

/-! ## Calls -/

inductive Call where
  | command (command : Command) (verbosity : Nat) (jsonLogs : Bool)
  | programHelp
  | commandHelp (spec : CommandSpec)
  | helpHelp
  | version

def readHelp : List String → Except Stop Call
  | [] => .ok .programHelp
  | ["help"] => .ok .helpHelp
  | [name] =>
    match commandSpec? name with
    | some spec => .ok (.commandHelp spec)
    | none => .error .usage
  | _ => .error .usage

/-- Reads the arguments of the program: flags, then a command with its own arguments. -/
def readProgram (m : Matches) : List String → Except Stop Call
  | [] => .error .usage
  | arg :: rest =>
    match longFlag? arg with
    | some (name, none) => do readProgram (← readLongFlag true m name) rest
    | some (_, some _) => .error .usage
    | none =>
      if looksLikeFlag arg then do readProgram (← readLetters true m arg.toList.tail) rest
      else if arg = "help" then readHelp rest
      else
        match commandSpec? arg with
        | none => .error .usage
        | some spec =>
          match readCommand spec {} none rest with
          | .error .help => .ok (.commandHelp spec)
          | .error e => .error e
          | .ok own =>
            let verbosity := if own.verbosity = 0 then m.verbosity else own.verbosity
            .ok (.command (spec.make own) verbosity (own.jsonLogs || m.jsonLogs))

/-- Reads the arguments of the program; none if they are wrong. -/
def read? (args : List String) : Option Call :=
  match readProgram {} args with
  | .ok call => some call
  | .error .help => some .programHelp
  | .error .version => some .version
  | .error .usage => none

end TestImpact.CommandLine
