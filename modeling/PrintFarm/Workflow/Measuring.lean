import PrintFarm.Store.View

/-!
# Measuring materials

What a line has used is recorded as often as one likes until the run ends.
-/

namespace PrintFarm.Workflow

variable {α : Type} [Scalar α]

/-- Records what a material line has used. -/
def recordActual (now : Timestamp) (run id : Uuid) (request : MeasurementRequest α) :
    Tx α (MaterialLine α) := Tx.atomically do
  let measurement ← Tx.check request.measurement
  let reading ← Tx.check measurement.reading
  let _ ← Store.runInProgress run "record material weight on"
  let _ ← Store.line run id
  let _ ← Store.recordActual now id reading
  Store.touchRun now run
  Store.line run id

/-- Records the estimate of every material line of a run as what it has used. -/
def resetActuals (now : Timestamp) (run : Uuid) : Tx α (List (MaterialLine α)) :=
  Tx.atomically do
    let _ ← Store.runInProgress run "reset materials of"
    let _ ← Store.resetActuals now run
    Store.touchRun now run
    return (← Store.materialsOf run).map PricedMaterial.line

end PrintFarm.Workflow
