import PrintFarm.Decimal.Literal
import PrintFarm.Settings.File
import PrintFarm.Settings.Storage
import PrintFarm.Text.Quoted

/-!
# Settings

Every setting is looked for on the command line, among the variables of the environment, in the
settings file, and is the default if it is nowhere.
-/

namespace PrintFarm

/-- The variables of the environment. -/
abbrev Variables := String → Option String

/-- All settings. -/
structure Settings where
  storage : StorageSettings
  server : ServerSettings
  catalogPath : Option String
  deriving DecidableEq, Repr

/-- A variable for the port that holds none. -/
structure PortFault where
  raw : String
  deriving DecidableEq, Repr

/-- How a variable for the port that holds none is reported. -/
def PortFault.message (f : PortFault) : String :=
  s!"PRINTRUN_PORT is not a valid port: {Text.quoted f.raw}"

namespace Settings

/-- The largest number that is taken for a number of connections. -/
def largestConnections : Nat := 4294967295

/-- The number of connections that the variable for it gives, if it is a number above zero, or the
default. -/
def maxConnections (env : Variables) : Nat :=
  match (env "PRINTRUN_DB_MAX_CONNECTIONS").bind (Decimal.readNatural? largestConnections) with
  | some (n + 1) => n + 1
  | _ => StorageSettings.defaultMaxConnections

/-- The URL of the database, which an option may give. -/
def databaseUrl (option : Option String) (env : Variables) (file : Option SettingsFile) :
    String :=
  ((option.or (env "PRINTRUN_DATABASE_URL")).or (file.map SettingsFile.databaseUrl)).getD
    StorageSettings.defaultUrl

/-- The port. A variable that holds none is a fault. -/
def port (env : Variables) (server : ServerSettings) : Except PortFault Nat :=
  match env "PRINTRUN_PORT" with
  | some raw =>
    match Decimal.readNatural? largestPort raw with
    | some n => .ok n
    | none => .error ⟨raw⟩
  | none => .ok server.port

/-- The settings that follow from an option for the database, the variables and the file. -/
def resolve (option : Option String) (env : Variables) (file : Option SettingsFile) :
    Except PortFault Settings := do
  let server := (file.map SettingsFile.server).getD .default
  let port ← port env server
  return {
    storage := ⟨databaseUrl option env file, maxConnections env⟩
    server := ⟨(env "PRINTRUN_BIND").getD server.bind, port⟩
    catalogPath := file.bind SettingsFile.catalogPath }

end Settings

end PrintFarm
