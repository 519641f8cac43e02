import PrintFarm.Run.Request
import PrintFarm.Store.Spools
import PrintFarm.Store.View

/-!
# Planning runs

A run is created as a whole or not at all. Its details can be edited until it ends, its notes
always.
-/

namespace PrintFarm.Workflow

variable {α : Type} [Scalar α]

/-- Registers a spool. -/
def createSpool (now : Timestamp) (new : NewSpool α) : Tx α (Spool α) := Tx.atomically do
  Tx.check (refuseIfAny new.complaints)
  Store.insertSpool now new

/-- Creates a run with its items and materials. All spools have to be there. -/
def createRun (now : Timestamp) (request : RunRequest α) : Tx α (Snapshot α) := Tx.atomically do
  Tx.check (refuseIfAny request.complaints)
  request.materials.forM fun m => do
    let _ ← Tx.expect (← Store.spool? m.spool) (.notFound .spool m.spool)
  let run ← Store.insertRun now request.run
  request.items.forM fun i => do
    let _ ← Store.insertItem now run.id i
  request.materials.forM fun m => do
    let _ ← Store.insertMaterial now run.id m m.estimatedTotal
  Store.snapshot run.id

/-- Gives new details to a run. One that has ended takes notes alone. -/
def updateRun (now : Timestamp) (id : Uuid) (patch : RunPatch α) : Tx α (Run α) :=
  Tx.atomically do
    Tx.check (refuseIfAny patch.complaints)
    let run ← Store.run id
    if !patch.isNotesOnly then Tx.check (run.checkMutable "edit")
    Tx.expect (← Store.updateRun now id patch) (.notFound .run id)

/-- Sets the counts of an item. -/
def updateOutcome (now : Timestamp) (run id : Uuid) (outcome : Outcome) : Tx α (Item α) :=
  Tx.atomically do
    let _ ← Store.runInProgress run "edit items of"
    let item ← Tx.expect (← Store.item? run id) (.notFound .item id)
    Tx.check (refuseIfAny (outcome.complaints "" item.quantity))
    let row ← Tx.expect (← Store.setOutcome id outcome) (.notFound .item id)
    Store.touchRun now run
    return row

/-- Adds a spool to a run that does not use it yet. -/
def addMaterial (now : Timestamp) (run : Uuid) (new : NewMaterial α) : Tx α (MaterialLine α) :=
  Tx.atomically do
    Tx.check (refuseIfAny (new.complaints ""))
    let _ ← Store.runInProgress run "add material to"
    let _ ← Tx.expect (← Store.spool? new.spool) (.notFound .spool new.spool)
    let existing ← Store.materialsOf run
    if existing.any fun m => m.material.spool = new.spool then
      Tx.refuse (.field "spool_id" (.spoolInUse new.spool))
    let row ← Store.insertMaterial now run new new.estimatedTotal
    Store.touchRun now run
    Store.line run row.id

/-- Removes a material line from a run. -/
def removeMaterial (now : Timestamp) (run id : Uuid) : Tx α Unit := Tx.atomically do
  let _ ← Store.runInProgress run "remove material from"
  let hits ← Store.deleteMaterial run id
  if hits = 0 then Tx.refuse (.notFound .material id)
  Store.touchRun now run

end PrintFarm.Workflow
