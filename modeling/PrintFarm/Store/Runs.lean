import PrintFarm.Store.Basic
import PrintFarm.Text.Column

/-!
# The table of runs

A run is numbered by the day of its creation and a counter. Runs are listed from the latest start
down, and those of one start by the text of their numbers, also downward.
-/

namespace PrintFarm.Store

variable {α : Type} [Scalar α]

/-- The number of a run: the day, and the counter in at least four digits. -/
def runNumber (now : Timestamp) (counter : Int) : String :=
  "RUN-" ++ now.dayNumber ++ "-" ++ Text.fillLeft '0' 4 (toString counter)

/-- Draws identifier and counter of the next run. -/
def drawRun : Tx α (Uuid × Int) := do
  let sequences ← Tx.draw .run
  return (sequences.runId, sequences.runNumber)

/-- The rules for the numbers of a run. -/
def acceptsRun (r : Run α) : Bool :=
  isNotNegative r.durationHours && isNotNegative (some r.estimatedHours) &&
    isNotNegative r.wasteGrams

/-- Whether columns can hold the texts and the start of a new run. Where it has none it starts at
the time of its creation, which is taken to be one that a table can keep. -/
def storableRun (new : NewRun α) : Bool :=
  allStorable [new.printerName, new.slicerSoftware, new.notes] &&
    new.startedAt.all Timestamp.isStorable

/-- Whether columns can hold the texts and the start in new details. -/
def storableDetails (patch : RunPatch α) : Bool :=
  allStorable [patch.printerName, patch.slicerSoftware, patch.notes] &&
    patch.startedAt.all Timestamp.isStorable

/-- The row of a new run. -/
def runRow (now : Timestamp) (id : Uuid) (counter : Int) (new : NewRun α) (estimated : α) :
    Run α where
  id := id
  number := runNumber now counter
  status := .inProgress
  startedAt := (new.startedAt.getD now).stored
  completedAt := none
  durationHours := none
  estimatedHours := estimated
  printerName := new.printerName
  slicerSoftware := new.slicerSoftware
  bedTemperature := new.bedTemperature
  nozzleTemperature := new.nozzleTemperature
  notes := new.notes
  wasteReason := none
  wasteGrams := none
  cancelMode := none
  createdAt := now.stored
  updatedAt := now.stored

/-- Creates a run in progress. -/
def insertRun (now : Timestamp) (new : NewRun α) : Tx α (Run α) := do
  Tx.require (storableRun new) .insertRun
  let (id, counter) ← drawRun
  let estimated ← Tx.expect (Scalar.stored? new.estimatedHours) (.storage .insertRun)
  let row := runRow now id counter new estimated
  Tx.require (acceptsRun row) .insertRun
  let tables ← Tx.tables
  Tx.require (tables.runs.all fun r => r.id ≠ id) .insertRun
  Tx.require (tables.runs.all fun r => r.number ≠ row.number) .insertRun
  Tx.changeTables fun t => { t with runs := t.runs ++ [row] }
  return row

/-- The run with that identifier. -/
def run? (id : Uuid) : Tx α (Option (Run α)) := do
  return (← Tx.tables).runs.find? fun r => r.id = id

/-- Whether `a` is listed before `b` or at its place. -/
def runOrder (a b : Run α) : Bool :=
  a.startedAt.after b.startedAt ||
    (!b.startedAt.after a.startedAt && !(a.number < b.number))

/-- All runs, or those in one status, in the order of listing. -/
def listRuns (status : Option RunStatus) : Tx α (List (Run α)) := do
  let chosen := (← Tx.tables).runs.filter fun r => status.all fun s => r.status = s
  return inOrder runOrder chosen

/-- The run after a change at the time `now`. -/
def touchedRun (now : Timestamp) (r : Run α) : Run α :=
  { r with updatedAt := now.stored }

/-- The run with new details as columns hold them. -/
def editedRun (now : Timestamp) (patch : RunPatch α) (r : Run α) : Run α :=
  touchedRun now <|
    RunPatch.apply
      { patch with
        durationHours := storedOption patch.durationHours
        startedAt := patch.startedAt.map Timestamp.stored
        estimatedHours := storedOption patch.estimatedHours }
      r

/-- The run after its end as columns hold it. -/
def endedRun (now : Timestamp) (ending : RunEnding α) (r : Run α) : Run α :=
  touchedRun now <|
    RunEnding.apply
      { ending with
        completedAt := ending.completedAt.stored
        durationHours := storedOption ending.durationHours
        wasteGrams := storedOption ending.wasteGrams }
      r

/-- Gives new details to a run. -/
def updateRun (now : Timestamp) (id : Uuid) (patch : RunPatch α) : Tx α (Option (Run α)) := do
  Tx.require (storableDetails patch) .updateRun
  match ← run? id with
  | none => return none
  | some r =>
    let row := editedRun now patch r
    Tx.require (acceptsRun row) .updateRun
    Tx.changeTables fun t =>
      { t with runs := changeRows (fun r => r.id = id) (fun _ => row) t.runs }
    return some row

/-- Ends a run that is in status `current`, and tells how many runs that were. -/
def endRun (now : Timestamp) (id : Uuid) (current : RunStatus) (ending : RunEnding α) :
    Tx α Nat := do
  Tx.require (allStorable [ending.wasteReason, ending.notes]) .endRun
  match ← run? id with
  | none => return 0
  | some r =>
    if r.status = current then
      let row := endedRun now ending r
      Tx.require (acceptsRun row) .endRun
      Tx.changeTables fun t =>
        { t with runs := changeRows (fun r => r.id = id) (fun _ => row) t.runs }
      return 1
    else return 0

/-- Notes on a run that something in it has changed. -/
def touchRun (now : Timestamp) (id : Uuid) : Tx α Unit :=
  Tx.changeTables fun t =>
    { t with runs := changeRows (fun r => r.id = id) (touchedRun now) t.runs }

end PrintFarm.Store
