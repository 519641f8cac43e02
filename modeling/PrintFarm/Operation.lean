import PrintFarm.Workflow.Closing
import PrintFarm.Workflow.Measuring
import PrintFarm.Workflow.Planning
import PrintFarm.Workflow.Printing

/-!
# All operations

`Operation` lists what can be asked of the program, `Answer` what it can answer, and
`Operation.perform` does what is asked.
-/

namespace PrintFarm

/-- What can be asked of the program. -/
inductive Operation (α : Type)
  | createSpool (new : NewSpool α)
  | listSpools
  | listReasons
  | createRun (request : RunRequest α)
  | listRuns (status : Option RunStatus)
  | showRun (run : Uuid)
  | updateRun (run : Uuid) (patch : RunPatch α)
  | completeRun (run : Uuid)
  | cancelRun (run : Uuid) (request : CancelRequest α)
  | failRun (run : Uuid) (request : FailRequest α)
  | listDeductions (run : Uuid)
  | updateOutcome (run item : Uuid) (outcome : Outcome)
  | addMaterial (run : Uuid) (new : NewMaterial α)
  | recordActual (run material : Uuid) (request : MeasurementRequest α)
  | resetActuals (run : Uuid)
  | removeMaterial (run material : Uuid)
  | listPlates (run : Uuid)
  | createPlate (run : Uuid) (new : NewPlate α)
  | updatePlate (run plate : Uuid) (patch : PlatePatch α)
  | deletePlate (run plate : Uuid)
  | startPlate (run plate : Uuid)
  | completePlate (run plate : Uuid) (report : PlateReport α)
  | failPlate (run plate : Uuid) (notes : Option String)
  | cancelPlate (run plate : Uuid) (notes : Option String)

/-- What the program can answer. -/
inductive Answer (α : Type)
  | spool (row : Spool α)
  | balances (rows : List (SpoolBalance α))
  | reasons (rows : List FailureReason)
  | snapshot (view : Snapshot α)
  | run (row : Run α)
  | runs (rows : List (Run α))
  | deductions (rows : List (Deduction α))
  | item (row : Item α)
  | line (row : MaterialLine α)
  | lines (rows : List (MaterialLine α))
  | plate (row : Plate α)
  | plates (rows : List (Plate α))
  | nothing

namespace Operation

variable {α : Type} [Scalar α]

/-- Does what is asked at the time `now`, with the failure reasons of `catalog`. -/
def perform (catalog : Catalog) (now : Timestamp) : Operation α → Tx α (Answer α)
  | .createSpool new => .spool <$> Workflow.createSpool now new
  | .listSpools => .balances <$> Ledger.balances
  | .listReasons => return .reasons catalog.reasons
  | .createRun request => .snapshot <$> Workflow.createRun now request
  | .listRuns status => .runs <$> Store.listRuns status
  | .showRun run => .snapshot <$> Store.snapshot run
  | .updateRun run patch => .run <$> Workflow.updateRun now run patch
  | .completeRun run => .snapshot <$> Workflow.completeRun now run
  | .cancelRun run request => .snapshot <$> Workflow.cancelRun now run request
  | .failRun run request => .snapshot <$> Workflow.failRun catalog now run request
  | .listDeductions run => do
    let _ ← Store.run run
    .deductions <$> Store.deductionsOf run
  | .updateOutcome run item outcome => .item <$> Workflow.updateOutcome now run item outcome
  | .addMaterial run new => .line <$> Workflow.addMaterial now run new
  | .recordActual run material request =>
    .line <$> Workflow.recordActual now run material request
  | .resetActuals run => .lines <$> Workflow.resetActuals now run
  | .removeMaterial run material => do
    Workflow.removeMaterial now run material
    return .nothing
  | .listPlates run => do
    let _ ← Store.run run
    .plates <$> Store.platesOf run
  | .createPlate run new => .plate <$> Workflow.createPlate now run new
  | .updatePlate run plate patch => .plate <$> Workflow.updatePlate now run plate patch
  | .deletePlate run plate => do
    Workflow.deletePlate now run plate
    return .nothing
  | .startPlate run plate => .plate <$> Workflow.startPlate now run plate
  | .completePlate run plate report => .plate <$> Workflow.completePlate now run plate report
  | .failPlate run plate notes => .plate <$> Workflow.failPlate now run plate notes
  | .cancelPlate run plate notes => .plate <$> Workflow.cancelPlate now run plate notes

end Operation

end PrintFarm
