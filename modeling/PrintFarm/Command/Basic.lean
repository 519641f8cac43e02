import PrintFarm.Operation
import PrintFarm.Settings.File

/-!
# Commands

What the program can be told to do on the command line. A task works on the tables; the other
commands do not.
-/

namespace PrintFarm

/-- What is done with the tables. Identifiers of runs are as they were typed. -/
inductive Task
  | listRuns (status : Option RunStatus)
  | showRun (run : String)
  | complete (run : String)
  | cancel (run : String) (request : CancelRequest Float)
  | fail (run : String) (request : FailRequest Float)
  | spools

/-- What the program can be told to do. -/
inductive Command
  | writeSettings (file : SettingsFile) (force : Bool)
  | prepareDatabase
  | listReasons
  | task (t : Task)

/-- A command, and the URL of the database if an option gives it. -/
structure Invocation where
  databaseUrl : Option String
  command : Command

end PrintFarm
