import PrintFarm.Json.Value
import PrintFarm.Operation

/-!
# Rows as JSON

Rows are shown with all their columns. A column that holds nothing is shown as `null`.
-/

namespace PrintFarm.Api

open Json (Value)
open Json.Value (optional)

/-- The fields of a record in their order. -/
abbrev Columns := List (String × Value)

def uuidValue (u : Uuid) : Value := .text u.text

def timeValue (t : Timestamp) : Value := .text t.text

def spoolColumns (s : Spool Float) : Columns :=
  [("id", uuidValue s.id),
    ("label", .text s.label),
    ("material_type", .text s.materialType),
    ("color", optional .text s.color),
    ("current_weight_grams", .real s.weight),
    ("cost_per_gram", .real s.costPerGram),
    ("created_at", timeValue s.createdAt),
    ("updated_at", timeValue s.updatedAt)]

def spoolValue (s : Spool Float) : Value := .record (spoolColumns s)

def balanceValue (b : SpoolBalance Float) : Value :=
  .record (spoolColumns b.spool ++ [("deducted_grams", .real b.deducted)])

def runColumns (r : Run Float) : Columns :=
  [("id", uuidValue r.id),
    ("run_number", .text r.number),
    ("status", .text r.status.word),
    ("started_at", timeValue r.startedAt),
    ("completed_at", optional timeValue r.completedAt),
    ("duration_hours", optional .real r.durationHours),
    ("estimated_print_time_hours", .real r.estimatedHours),
    ("printer_name", optional .text r.printerName),
    ("slicer_software", optional .text r.slicerSoftware),
    ("bed_temperature", optional .whole r.bedTemperature),
    ("nozzle_temperature", optional .whole r.nozzleTemperature),
    ("notes", optional .text r.notes),
    ("waste_reason", optional .text r.wasteReason),
    ("waste_filament_grams", optional .real r.wasteGrams),
    ("cancel_mode", optional (fun m => .text m.word) r.cancelMode),
    ("created_at", timeValue r.createdAt),
    ("updated_at", timeValue r.updatedAt)]

def runValue (r : Run Float) : Value := .record (runColumns r)

def itemValue (i : Item Float) : Value :=
  .record [("id", uuidValue i.id),
    ("run_id", uuidValue i.run),
    ("model_id", uuidValue i.model),
    ("model_name", optional .text i.modelName),
    ("quantity", .whole i.quantity),
    ("successful_quantity", .whole i.successful),
    ("failed_quantity", .whole i.failed),
    ("bed_position", optional .text i.bedPosition),
    ("model_weight_grams", optional .real i.modelWeight),
    ("estimated_cost_per_unit", optional .real i.estimatedUnitCost),
    ("actual_cost_per_unit", optional .real i.actualUnitCost),
    ("created_at", timeValue i.createdAt)]

def materialColumns (m : Material Float) : Columns :=
  [("id", uuidValue m.id),
    ("run_id", uuidValue m.run),
    ("spool_id", uuidValue m.spool),
    ("estimated_model_weight_grams", .real m.estimatedModel),
    ("estimated_flushed_grams", optional .real m.estimatedFlushed),
    ("estimated_tower_grams", optional .real m.estimatedTower),
    ("estimated_total_weight", .real m.estimatedTotal),
    ("estimated_cost", optional .real m.estimatedCost),
    ("actual_total_weight", optional .real m.actualTotal),
    ("actual_entry_mode", optional (fun e => .text e.word) m.entryMode),
    ("spool_weight_before_grams", optional .real m.weighedBefore),
    ("spool_weight_after_grams", optional .real m.weighedAfter),
    ("variance_percentage", optional .real m.variance),
    ("total_cost", optional .real m.totalCost),
    ("cost_per_gram", optional .real m.costPerGram),
    ("created_at", timeValue m.createdAt),
    ("updated_at", timeValue m.updatedAt)]

def materialValue (m : Material Float) : Value := .record (materialColumns m)

def reconciliationValue (r : Reconciliation Float) : Value :=
  .record [("estimated_total_weight", .real r.estimatedTotal),
    ("estimated_cost", .real r.estimatedCost),
    ("actual_total_weight", optional .real r.actualTotal),
    ("total_cost", optional .real r.totalCost),
    ("variance_percentage", optional .real r.variance),
    ("cost_per_gram", .real r.costPerGram)]

def lineValue (l : MaterialLine Float) : Value :=
  .record (materialColumns l.material ++
    [("spool_label", .text l.spoolLabel),
      ("reconciliation", reconciliationValue l.reconciliation)])

def plateValue (p : Plate Float) : Value :=
  .record [("id", uuidValue p.id),
    ("run_id", uuidValue p.run),
    ("model_id", uuidValue p.model),
    ("printer_id", optional uuidValue p.printer),
    ("plate_number", .whole p.number),
    ("plate_name", .text p.name),
    ("prints_per_plate", .whole p.printsPerPlate),
    ("status", .text p.status.word),
    ("successful_prints", .whole p.successful),
    ("failed_prints", .whole p.failed),
    ("print_time_minutes", optional .whole p.printMinutes),
    ("actual_print_time_minutes", optional .whole p.actualPrintMinutes),
    ("estimated_material_weight_grams", optional .real p.estimatedWeight),
    ("actual_material_weight_grams", optional .real p.actualWeight),
    ("notes", optional .text p.notes),
    ("started_at", optional timeValue p.startedAt),
    ("completed_at", optional timeValue p.completedAt),
    ("created_at", timeValue p.createdAt),
    ("updated_at", timeValue p.updatedAt)]

def deductionValue (d : Deduction Float) : Value :=
  .record [("id", .whole d.number),
    ("run_id", uuidValue d.run),
    ("spool_id", uuidValue d.spool),
    ("target_status", .text d.target.word),
    ("reason", .text d.reason.word),
    ("grams", .real d.grams),
    ("weight_before_grams", .real d.weightBefore),
    ("weight_after_grams", .real d.weightAfter),
    ("recorded_at", timeValue d.recordedAt)]

def totalsValue (t : ItemTotals) : Value :=
  .record [("planned", .whole t.planned),
    ("successful", .whole t.successful),
    ("failed", .whole t.failed)]

def plateCountsValue (c : PlateCounts) : Value :=
  .record [("pending", .whole c.pending),
    ("printing", .whole c.printing),
    ("completed", .whole c.completed),
    ("failed", .whole c.failed),
    ("cancelled", .whole c.cancelled)]

def metricsValue (m : RunMetrics Float) : Value :=
  .record [("total_estimated_cost", .real m.estimatedCost),
    ("total_material_cost", .real m.materialCost),
    ("cost_variance", .real m.costVariance),
    ("successful_weight_grams", .real m.successfulWeight),
    ("cost_per_gram_actual", optional .real m.costPerGram),
    ("overall_success_rate", optional .real m.successRate),
    ("time_variance_percentage", optional .real m.timeVariance)]

def snapshotValue (s : Snapshot Float) : Value :=
  .record (runColumns s.run ++
    [("items", .list (s.items.map itemValue)),
      ("materials", .list (s.materials.map lineValue)),
      ("plates", .list (s.plates.map plateValue)),
      ("totals", totalsValue s.totals),
      ("plate_counts", plateCountsValue s.plateCounts),
      ("metrics", metricsValue s.metrics)])

def reasonValue (r : FailureReason) : Value :=
  .record [("value", .text r.value),
    ("label", .text r.label),
    ("description", .text r.description)]

/-- An answer of the program. -/
def answerValue : Answer Float → Value
  | .spool row => spoolValue row
  | .balances rows => .list (rows.map balanceValue)
  | .reasons rows => .list (rows.map reasonValue)
  | .snapshot view => snapshotValue view
  | .run row => runValue row
  | .runs rows => .list (rows.map runValue)
  | .deductions rows => .list (rows.map deductionValue)
  | .item row => itemValue row
  | .line row => lineValue row
  | .lines rows => .list (rows.map lineValue)
  | .plate row => plateValue row
  | .plates rows => .list (rows.map plateValue)
  | .nothing => .null

end PrintFarm.Api
