import PrintFarm.Plate.Lifecycle
import PrintFarm.Store.View

/-!
# Printing plates

Plates are planned, started and ended within a run that is in progress. The end of a plate is
rolled up into the item of its model in the same step.
-/

namespace PrintFarm.Workflow

variable {α : Type} [Scalar α]

/-- The number of a new plate: the wanted one if it is free, else one above the highest. -/
def plateNumber (run : Uuid) (wanted : Option Int) : Tx α Int := do
  match wanted with
  | none => Store.nextPlateNumber run
  | some number =>
    if ← Store.plateNumberTaken run number then
      Tx.refuse (.field "plate_number" (.plateNumberTaken number))
    return number

/-- Adds a plate for a planned model. A plate holds no more prints than the item plans. -/
def createPlate (now : Timestamp) (run : Uuid) (new : NewPlate α) : Tx α (Plate α) :=
  Tx.atomically do
    Tx.check (refuseIfAny new.complaints)
    let _ ← Store.runInProgress run "add plate to"
    let item ← Tx.expect (← Store.itemFor? run new.model)
      (.field "model_id" (.unplannedModel new.model))
    if item.quantity < new.printsPerPlate then
      Tx.refuse (.field "prints_per_plate" (.bedBeyondPlan new.printsPerPlate item.quantity))
    let number ← plateNumber run new.number
    let name := (new.name.bind Text.nonblank?).getD s!"Plate {number}"
    let row ← Store.insertPlate now run new number name
    Store.touchRun now run
    return row

/-- The refusal of a change to a plate whose status is no longer the expected one. -/
def plateChanged (p : Plate α) (expected : String) : Refusal α :=
  .concurrentModification .plate p.id expected p.status.word

/-- Gives new details to a plate that has not ended. -/
def updatePlate (now : Timestamp) (run id : Uuid) (patch : PlatePatch α) : Tx α (Plate α) :=
  Tx.atomically do
    Tx.check (refuseIfAny patch.complaints)
    let _ ← Store.runInProgress run "edit plates of"
    let plate ← Store.plate run id
    Tx.check (plate.checkEditable "edit")
    let row ← Tx.expect (← Store.updatePlate now id patch)
      (plateChanged plate "pending or printing")
    Store.touchRun now run
    return row

/-- Deletes a plate that was never started. -/
def deletePlate (now : Timestamp) (run id : Uuid) : Tx α Unit := Tx.atomically do
  let _ ← Store.runInProgress run "delete plates of"
  let plate ← Store.plate run id
  Tx.check plate.checkDeletable
  let hits ← Store.deletePendingPlate run id
  if hits = 0 then Tx.refuse (plateChanged plate "pending")
  Store.touchRun now run

/-- Adds to the item of the plate's model what the plate adds when it takes status `next`. -/
def rollIntoItem (run : Uuid) (plate : Plate α) (next : PlateStatus) (reported : Outcome) :
    Tx α Unit := do
  let whole := rollup next plate.printsPerPlate reported
  if whole.isEmpty then return
  let item ← Tx.expect (← Store.itemFor? run plate.model)
    (.field "model_id" (.untrackedModel plate.model))
  let added := item.gained next plate.printsPerPlate reported
  Tx.check (refuseIfAny (item.rollupComplaints added))
  if !added.isEmpty then
    let hits ← Store.addOutcome item.id added
    if hits = 0 then Tx.refuse (.field "item.successful_quantity" .bedBeyondOpenUnits)

/-- Moves a plate to status `next` and rolls it up into its item. -/
def movePlate (now : Timestamp) (run id : Uuid) (next : PlateStatus) (action : String)
    (move : PlateMove α) : Tx α (Plate α) := Tx.atomically do
  let _ ← Store.runInProgress run (action ++ " plate in")
  let plate ← Store.plate run id
  Tx.check (plate.checkMove next action)
  if next = .completed then
    Tx.check (refuseIfAny (printCountComplaints plate.printsPerPlate move.reported))
  rollIntoItem run plate next move.reported
  match ← Store.movePlate now id plate.status next (move.counted next plate.printsPerPlate) with
  | some row =>
    Store.touchRun now run
    return row
  | none => Tx.refuse (plateChanged (← Store.plate run id) plate.status.word)

/-- Starts a pending plate. -/
def startPlate (now : Timestamp) (run id : Uuid) : Tx α (Plate α) :=
  movePlate now run id .printing "start" { startedAt := some now }

/-- Completes a plate with its counts. -/
def completePlate (now : Timestamp) (run id : Uuid) (report : PlateReport α) : Tx α (Plate α) := do
  Tx.check (refuseIfAny report.complaints)
  movePlate now run id .completed "complete"
    { completedAt := some now
      successful := some report.successful
      failed := some report.failed
      actualPrintMinutes := report.actualPrintMinutes
      actualWeight := report.actualWeight
      notes := report.notes }

/-- Fails a plate, which loses the whole bed. -/
def failPlate (now : Timestamp) (run id : Uuid) (notes : Option String) : Tx α (Plate α) :=
  movePlate now run id .failed "fail" { completedAt := some now, notes }

/-- Cancels a plate, which counts for nothing. -/
def cancelPlate (now : Timestamp) (run id : Uuid) (notes : Option String) : Tx α (Plate α) :=
  movePlate now run id .cancelled "cancel" { completedAt := some now, notes }

end PrintFarm.Workflow
