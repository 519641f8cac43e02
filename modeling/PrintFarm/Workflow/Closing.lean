import PrintFarm.Catalog
import PrintFarm.Ledger
import PrintFarm.Run.Request
import PrintFarm.Store.View

/-!
# Ending runs

A run ends once: completed with what was measured, cancelled with what was reported or nothing, or
failed with what was wasted. Its end fixes the figures of its lines, deducts from the spools, and
cancels the plates that are still open, all of it or nothing.
-/

namespace PrintFarm.Workflow

variable {α : Type} [Scalar α]

/-- Why a run cannot be completed: lines whose use cannot be told, and items whose counts are not
in order. -/
def completionComplaints (lines : List (PricedMaterial α)) (items : List (Item α)) :
    List (FieldError α) :=
  (lines.filterMap fun l =>
    l.material.problem?.map fun problem =>
      ⟨s!"materials.{l.material.id}.actual_total_weight", .unmeasured problem l.spoolLabel⟩) ++
  items.flatMap fun i => i.outcome.complaints s!"items.{i.id}." i.quantity

/-- What the lines of a run have used. -/
def consumed (lines : List (PricedMaterial α)) : List (SpoolUsage α) :=
  lines.filterMap fun l => l.material.actualTotal.map fun grams => ⟨l.material.spool, grams⟩

/-- Fixes the figures of lines at the present prices, and gives them. -/
def fixLines (now : Timestamp) : List (PricedMaterial α) → Tx α (List (Reconciliation α))
  | [] => return []
  | l :: rest => do
    let figures := reconcile l.material l.spoolCostPerGram
    Store.fixFigures now l.material.id figures
    return figures :: (← fixLines now rest)

/-- Cancels the open plates of a run, ends it, and shows it. -/
def close (now : Timestamp) (run : Run α) (ending : RunEnding α) : Tx α (Snapshot α) := do
  let _ ← Store.cancelOpenPlates now run.id ending.completedAt
  let hits ← Store.endRun now run.id run.status ending
  if hits = 0 then
    let present ← Store.run run.id
    Tx.refuse (.concurrentModification .run run.id run.status.word present.status.word)
  Store.snapshot run.id

/-- Completes a run: prices its items and deducts what was measured. -/
def completeRun (now : Timestamp) (id : Uuid) : Tx α (Snapshot α) := Tx.atomically do
  let run ← Store.run id
  Tx.check (run.checkMove .completed "complete")
  let items ← Store.itemsOf id
  let lines ← Store.materialsOf id
  Tx.check (refuseIfAny (completionComplaints lines items))
  let duration := run.durationHours.getD (elapsedHours run.startedAt now)
  let figures ← fixLines now lines
  let metrics := RunMetrics.compute items figures (some duration) run.estimatedHours
  items.forM fun i => Store.setUnitCost i.id (metrics.unitCost i)
  let _ ← Ledger.applyDeductions now id .completed .consumption (positiveUsage (consumed lines))
  close now run { status := .completed, completedAt := now, durationHours := some duration }

/-- Cancels a run, and deducts what it has used if that is asked for. -/
def cancelRun (now : Timestamp) (id : Uuid) (request : CancelRequest α) : Tx α (Snapshot α) :=
  Tx.atomically do
    let usage ← Tx.check request.deductible
    let run ← Store.run id
    Tx.check (run.checkMove .cancelled "cancel")
    let _ ← fixLines now (← Store.materialsOf id)
    let _ ← Ledger.applyDeductions now id .cancelled .partialUsage usage
    close now run
      { status := .cancelled
        completedAt := now
        cancelMode := some request.mode
        notes := mergedNotes run.notes request.notes }

/-- What is wrong with a request to fail a run. -/
def failureComplaints (catalog : Catalog) (reason : String) (waste : UsageTable α) :
    List (FieldError α) :=
  complaint (!catalog.contains reason) "failure_reason" (.unknownReason reason) ++
  complaint waste.isEmpty "waste_materials" .noWaste

/-- Fails a run for a reason of the catalog, and deducts what it has wasted. -/
def failRun (catalog : Catalog) (now : Timestamp) (id : Uuid) (request : FailRequest α) :
    Tx α (Snapshot α) := Tx.atomically do
  let usage := positiveUsage request.waste
  Tx.check (refuseIfAny (failureComplaints catalog request.reason usage))
  let run ← Store.run id
  Tx.check (run.checkMove .failed "fail")
  let _ ← fixLines now (← Store.materialsOf id)
  let _ ← Ledger.applyDeductions now id .failed .waste usage
  close now run
    { status := .failed
      completedAt := now
      wasteReason := some request.reason
      wasteGrams := some (Scalar.sum (usage.map SpoolUsage.grams))
      notes := mergedNotes run.notes request.notes }

end PrintFarm.Workflow
