import TestImpact.Config.SettingsFile
import TestImpact.Storage.FileSystem
import TestImpact.Text.Quoted

/-! The layers of a configuration: the defaults, the user's file, the project's file, and the
environment. Each layer is put on top of those before it. -/

namespace TestImpact

inductive ConfigError where
  | unreadable (path : String) (cause : FileError)
  | malformed (path : String)
  | invalidValue (name value : String)
  deriving DecidableEq

def ConfigError.message : ConfigError → String
  | unreadable path cause => "cannot read config " ++ path ++ ": " ++ cause.message
  | malformed path => "invalid config " ++ path
  | invalidValue name value => "invalid value for " ++ name ++ ": " ++ Text.quoted value

/-- The configuration after a layer, and what was wrong with the layer. -/
structure Layered where
  config : Config
  problem : Option ConfigError

namespace Config

/-! ## Files -/

/-- Puts the settings of a file on top. A file that is not there sets nothing; one that cannot be
read changes nothing. -/
def mergeFile (c : Config) (fs : FileSystem) (path : String) : Layered :=
  if fs.hasEntry path then
    match fs.readText path with
    | .error cause => ⟨c, some (.unreadable path cause)⟩
    | .ok document =>
      match Settings.parse? document with
      | none => ⟨c, some (.malformed path)⟩
      | some settings => ⟨c.apply settings, none⟩
  else ⟨c, none⟩

/-! ## The environment -/

abbrev Environment := String → Option String

/-- The value of a variable, unless it is blank. -/
def Environment.filled? (environment : Environment) (name : String) : Option String :=
  (environment name).filter fun value => !Text.isAllBlank value

/-- A count of workers, in 64 bits. -/
def readWorkers? (value : String) : Option Nat :=
  Text.readUnsigned? UInt64.size (Text.trimChars value.toList)

def workersVariable : String := "CHANGESCOPE_WORKERS"

/-- The addresses and the base revision that the environment sets. -/
def environmentSettings (environment : Environment) : Settings :=
  { uiBaseUrl := environment.filled? "UI_BASE_URL"
    apiBaseUrl := environment.filled? "API_BASE_URL"
    baseRef := environment.filled? "CHANGESCOPE_BASE_REF" }

/-- Puts the environment on top. The count of workers comes last, so if it is no number, the other
variables are in force all the same. -/
def mergeEnvironment (c : Config) (environment : Environment) : Layered :=
  let c := c.apply (environmentSettings environment)
  match environment.filled? workersVariable with
  | none => ⟨c, none⟩
  | some value =>
    match readWorkers? value with
    | some n => ⟨c.apply { workers := some n }, none⟩
    | none => ⟨c, some (.invalidValue workersVariable value)⟩

/-! ## All layers -/

/-- The variables that have a say in the configuration. -/
def variableNames : List String :=
  ["UI_BASE_URL", "API_BASE_URL", "CHANGESCOPE_BASE_REF", workersVariable, "HOME", "XDG_CONFIG_HOME"]

def projectFile : String := "changescope.toml"

/-- The file of a user's settings: below the place for configuration files if this is an absolute
path, else below `.config` in the home directory. -/
def userFile? (environment : Environment) : Option String :=
  let place :=
    match (environment "XDG_CONFIG_HOME").filter Path.isAbsolute with
    | some place => some place
    | none =>
      ((environment "HOME").filter fun (home : String) => !home.isEmpty).map fun home =>
        Path.join home ".config"
  place.map fun place => Path.join (Path.join place "changescope") "config.toml"

def load (fs : FileSystem) (environment : Environment) (root : String) (workers : Nat) :
    Except ConfigError Config := do
  let checked (l : Layered) : Except ConfigError Config :=
    match l.problem with
    | some problem => .error problem
    | none => .ok l.config
  let c := withRoot root workers
  let c ← match userFile? environment with
    | some path => checked (c.mergeFile fs path)
    | none => .ok c
  let c ← checked (c.mergeFile fs (Path.join c.root projectFile))
  checked (c.mergeEnvironment environment)

end Config

end TestImpact
