import PrintFarm.Command.Execution
import Std.Time.DateTime.Timestamp

/-!
# The program

Carries out one command line. The tables are kept in memory and begin empty; the settings file and
the catalog that it names are files on disk.
-/

namespace PrintFarm

/-- The variables that the program looks at. -/
def variableNames : List String :=
  ["PRINTRUN_DATABASE_URL", "PRINTRUN_DB_MAX_CONNECTIONS", "PRINTRUN_BIND", "PRINTRUN_PORT"]

/-- Reads the variables. -/
def readVariables : IO (List (String × String)) :=
  variableNames.filterMapM fun name => do
    return (← IO.getEnv name).map fun value => (name, value)

/-- The directory of settings: below the one for settings of all programs. -/
def readSettingsDirectory : IO String := do
  match ← IO.getEnv "XDG_CONFIG_HOME" with
  | some directory => return directory ++ "/printrun"
  | none => return (← IO.getEnv "HOME").getD "." ++ "/.config/printrun"

/-- Adds the file at `path`, if it is there. -/
def loadFile (files : Files) (path : String) : IO Files := do
  try
    let text ← IO.FS.readFile path
    return files.write (files.place path) text
  catch _ => return files

/-- The settings file and the catalog that it names. -/
def loadFiles (surroundings : Surroundings) : IO Files := do
  let directory := ((← IO.currentDir).toString.splitOn "/").drop 1
  let files ← loadFile ⟨directory, []⟩ surroundings.settingsPath
  match (surroundings.settingsFile? files).bind SettingsFile.catalogPath with
  | some path => loadFile files path
  | none => return files

/-- Writes the settings file, if it is new. -/
def saveSettings (surroundings : Surroundings) (before after : Files) : IO Unit := do
  let path := after.place surroundings.settingsPath
  match after.text? path with
  | some text =>
    if before.text? path != some text then
      IO.FS.createDirAll surroundings.settingsDirectory
      IO.FS.writeFile surroundings.settingsPath text
  | none => return

end PrintFarm

open PrintFarm in
/-- Runs the program. -/
def main (args : List String) : IO UInt32 := do
  let env ← readVariables
  let surroundings : Surroundings :=
    { now := .ofNanos (← Std.Time.Timestamp.now).toNanosecondsSinceUnixEpoch.val
      env := fun name => env.lookup name
      settingsDirectory := ← readSettingsDirectory
      reachable := fun _ => true }
  let files ← loadFiles surroundings
  let (ending, workplace) := (execute surroundings args).run ⟨files, .empty, ""⟩
  saveSettings surroundings files workplace.files
  IO.print workplace.printed
  match ending with
  | .failed fault => IO.eprintln s!"Error: {fault.message}"
  | .invalid => IO.eprintln "error: invalid command line"
  | .done => return 0
  return ending.code.toUInt32
