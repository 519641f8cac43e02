import PrintFarm.Catalog.Reader
import PrintFarm.Command.Arguments
import PrintFarm.Command.Report
import PrintFarm.Files
import PrintFarm.Refusal.Message
import PrintFarm.Settings.Basic

/-!
# Carrying out commands

A command prints and may end in a fault; what was printed before the fault stays. A task first finds
the settings, the catalog if it needs it, and the database, and only then looks at the identifier
of its run.
-/

namespace PrintFarm

/-- Why a command fails. -/
inductive CommandFault
  | badPort (fault : PortFault)
  | settingsExist (path : String)
  | directoryNotMade (path : String)
  | settingsNotWritten (path : String)
  | catalogNotRead (path : String) (fault : FileFault)
  | badCatalog (fault : CatalogTextFault)
  | unreachable (url : String)
  | namelessDatabase
  | maintenanceUnreachable (url : String)
  | badRun (raw : String)
  | refused (refusal : Refusal Float)

/-- How the fault is reported. -/
def CommandFault.message : CommandFault → String
  | .badPort fault => fault.message
  | .settingsExist path => s!"config file already exists at {path}\nUse --force to overwrite."
  | .directoryNotMade path => s!"failed to create config directory {path}"
  | .settingsNotWritten path => s!"failed to write config file at {path}"
  | .catalogNotRead path fault => s!"failed to read catalog {path}: {fault.message}"
  | .badCatalog fault => fault.message
  | .unreachable url => s!"failed to connect to database at {url}"
  | .namelessDatabase => "could not determine database name from URL"
  | .maintenanceUnreachable url => s!"failed to connect to maintenance database at {url}"
  | .badRun raw => s!"invalid run ID: {raw}"
  | .refused refusal => refusal.message

/-- What a command finds around it and cannot change: the time, the variables, the directory of
settings, and at which URLs there is a database. -/
structure Surroundings where
  now : Timestamp
  env : Variables
  settingsDirectory : String
  reachable : String → Bool

/-- What a command can change: the files, the database, and what has been printed. -/
structure Workplace where
  files : Files
  database : Database Float
  printed : String

/-- A part of a command. -/
abbrev Act (α : Type) := ExceptT CommandFault (StateM Workplace) α

namespace Act

/-- Prints a text. -/
def print (text : String) : Act Unit :=
  modify fun w => { w with printed := w.printed ++ text }

/-- Prints lines. -/
def printLines (lines : List String) : Act Unit :=
  print (Report.lines lines)

/-- Goes on, or ends in a fault. -/
def check {α β : Type} (fault : α → CommandFault) : Except α β → Act β
  | .ok b => return b
  | .error a => throw (fault a)

/-- Does something with the database. -/
def onDatabase {α : Type} (tx : Tx Float α) : Act α := do
  let w ← get
  let (result, database) := tx.run.run w.database
  set { w with database }
  check .refused result

end Act

namespace Surroundings

/-- The path of the settings file. -/
def settingsPath (s : Surroundings) : String :=
  s.settingsDirectory ++ "/config.toml"

/-- The settings file, if there is one that can be read. -/
def settingsFile? (s : Surroundings) (files : Files) : Option SettingsFile :=
  (files.read s.settingsPath).toOption.bind SettingsFile.ofText?

/-- Finds the settings. -/
def settings (s : Surroundings) (databaseUrl : Option String) : Act Settings := do
  let files := (← get).files
  Act.check .badPort (Settings.resolve databaseUrl s.env (s.settingsFile? files))

end Surroundings

/-- The catalog that the settings name, or the one that is built in. -/
def Settings.catalog (s : Settings) (files : Files) : Except CommandFault Catalog :=
  match s.catalogPath with
  | none => .ok .builtin
  | some path =>
    match files.read path with
    | .error fault => .error (.catalogNotRead path fault)
    | .ok text => (Catalog.ofText text).mapError .badCatalog

/-- Looks for the database. -/
def Surroundings.connect (s : Surroundings) (storage : StorageSettings) : Act Unit := do
  if s.reachable storage.url then return else throw (.unreachable storage.url)

namespace Task

/-- What is printed before a task is done: a warning where usage is given that does not count. -/
def remarks : Task → List String
  | .cancel _ request =>
    match request.mode with
    | .fullReversal =>
      if request.usage.isEmpty then [] else ["Note: --usage is ignored for full_reversal."]
    | .recordPartial => []
  | _ => []

/-- The run with the identifier that was typed. -/
def runId (raw : String) : Except CommandFault Uuid :=
  match Uuid.ofText? raw with
  | some id => .ok id
  | none => .error (.badRun raw)

/-- The operation that a task is. -/
def operation : Task → Except CommandFault (Operation Float)
  | .listRuns status => .ok (.listRuns status)
  | .showRun run => Operation.showRun <$> runId run
  | .complete run => Operation.completeRun <$> runId run
  | .cancel run request => (Operation.cancelRun · request) <$> runId run
  | .fail run request => (Operation.failRun · request) <$> runId run
  | .spools => .ok .listSpools

/-- Whether a task needs the failure reasons. -/
def needsCatalog : Task → Bool
  | .fail .. => true
  | _ => false

/-- What a task prints of its answer. -/
def report : Task → Answer Float → String
  | .complete _, .snapshot view =>
    Report.lines [s!"Run {view.run.number} completed."] ++ Report.snapshot view
  | .cancel _ request, .snapshot view =>
    Report.lines [s!"Run {view.run.number} cancelled ({request.mode.word})."] ++
      Report.snapshot view
  | .fail .., .snapshot view =>
    Report.lines [s!"Run {view.run.number} marked failed."] ++ Report.snapshot view
  | _, .snapshot view => Report.snapshot view
  | _, .runs rows => Report.runTable rows
  | _, .balances rows => Report.spoolTable rows
  | _, _ => ""

/-- Does a task. -/
def execute (s : Surroundings) (databaseUrl : Option String) (t : Task) : Act Unit := do
  let settings ← s.settings databaseUrl
  let catalog ←
    if t.needsCatalog then Act.check id (settings.catalog (← get).files) else pure .builtin
  s.connect settings.storage
  Act.printLines t.remarks
  let operation ← Act.check id t.operation
  let answer ← Act.onDatabase (operation.perform catalog s.now)
  Act.print (t.report answer)

end Task

/-- Writes a settings file. One that is there already is overwritten only if that is asked for. -/
def SettingsFile.put (s : Surroundings) (file : SettingsFile) (force : Bool) : Act Unit := do
  let files := (← get).files
  let path := files.place s.settingsPath
  if files.holds path && !force then throw (.settingsExist s.settingsPath)
  if !files.canHold path then throw (.directoryNotMade s.settingsDirectory)
  if files.isDirectory path then throw (.settingsNotWritten s.settingsPath)
  modify fun w => { w with files := files.write path file.text }
  Act.printLines [s!"Config written to {s.settingsPath}",
    s!"  database.url = {file.databaseUrl}",
    s!"  server = {file.server.bind}:{file.server.port}",
    "",
    "Next: run `printrun db-init` to create and migrate the database."]

/-- Makes sure that the database is there, and counts the rows of its tables. -/
def Surroundings.prepareDatabase (s : Surroundings) (databaseUrl : Option String) : Act Unit := do
  let storage := (← s.settings databaseUrl).storage
  Act.printLines ["Initializing printrun database..."]
  if storage.databaseName?.isNone then throw .namelessDatabase
  if !s.reachable storage.url then throw (.maintenanceUnreachable storage.maintenanceUrl)
  let counts ← Act.onDatabase Store.tableCounts
  Act.printLines ("Database ready. Tables:" ::
    counts.map fun (table, rows) => s!"  {table}: {rows} rows")
  Act.printLines ["printrun db-init complete."]

/-- Carries out a command. -/
def Invocation.execute (s : Surroundings) (i : Invocation) : Act Unit :=
  match i.command with
  | .writeSettings file force => file.put s force
  | .prepareDatabase => s.prepareDatabase i.databaseUrl
  | .listReasons => do
    let settings ← s.settings i.databaseUrl
    let catalog ← Act.check id (settings.catalog (← get).files)
    Act.print (Report.reasonTable catalog)
  | .task t => t.execute s i.databaseUrl

/-- How a command line ended. -/
inductive Ending
  | done
  | failed (fault : CommandFault)
  | invalid

/-- The exit code of the program. -/
def Ending.code : Ending → Nat
  | .done => 0
  | .failed _ => 1
  | .invalid => 2

/-- Carries out a command line. -/
def execute (s : Surroundings) (args : List String) : StateM Workplace Ending := do
  match Invocation.ofArguments? args with
  | none => return .invalid
  | some i =>
    match ← (i.execute s).run with
    | .ok _ => return .done
    | .error fault => return .failed fault

end PrintFarm
