import PrintFarm.Run.Snapshot
import PrintFarm.Store.Items
import PrintFarm.Store.Materials
import PrintFarm.Store.Plates
import PrintFarm.Store.Runs

/-!
# Reading a run

What belongs to a run is found through the run, and a run that is missing is told.
-/

namespace PrintFarm.Store

variable {α : Type} [Scalar α]

/-- The run with that identifier, which has to be there. -/
def run (id : Uuid) : Tx α (Run α) := do
  Tx.expect (← run? id) (.notFound .run id)

/-- The run with that identifier, which has to take changes. -/
def runInProgress (id : Uuid) (action : String) : Tx α (Run α) := do
  let r ← run id
  Tx.check (r.checkMutable action)
  return r

/-- A plate of a run, which has to be there. -/
def plate (run id : Uuid) : Tx α (Plate α) := do
  Tx.expect (← plate? run id) (.notFound .plate id)

/-- A material line of a run as it is shown, which has to be there. -/
def line (run id : Uuid) : Tx α (MaterialLine α) := do
  let found ← Tx.expect (← material? run id) (.notFound .material id)
  return found.line

/-- The view of a run. -/
def snapshot (id : Uuid) : Tx α (Snapshot α) := do
  let r ← run id
  let items ← itemsOf id
  let materials ← materialsOf id
  let plates ← platesOf id
  return .assemble r items (materials.map PricedMaterial.line) plates

end PrintFarm.Store
