import PrintFarm.Decimal.Fixed
import PrintFarm.Operation
import PrintFarm.Text.Column

/-!
# Reports

What commands print: tables of runs and spools, the view of one run, and the failure reasons.
-/

namespace PrintFarm.Report

open Text (padLeft padRight)
open Decimal (fixed)

/-- The lines, each with its end. -/
def lines (ls : List String) : String :=
  String.join (ls.map (· ++ "\n"))

/-- A line of `width` hyphens. -/
def rule (width : Nat) : String :=
  String.ofList (List.replicate width '-')

/-! ## Runs -/

/-- The line of a run. Neither identifier nor status is filled up. -/
def runLine {α : Type} (r : Run α) : String :=
  " ".intercalate [r.id.text, padRight 20 r.number, r.status.word,
    padRight 17 r.startedAt.shortText, padRight 20 (r.printerName.getD "-")]

/-- The table of runs. -/
def runTable {α : Type} (runs : List (Run α)) : String :=
  if runs.isEmpty then lines ["No runs found."]
  else
    lines (" ".intercalate [padRight 38 "ID", padRight 20 "RUN", padRight 12 "STATUS",
      padRight 17 "STARTED", padRight 20 "PRINTER"] :: rule 110 :: runs.map runLine)

/-- The lines about the run itself. -/
def runLines (r : Run Float) : List String :=
  [s!"Run: {r.number} ({r.id})", s!"Status: {r.status.word}",
    s!"Started: {r.startedAt.longText}"] ++
  (r.completedAt.map fun t => s!"Finished: {t.longText}").toList ++
  (r.durationHours.map fun h =>
    let estimated := fixed .minusOnly 2 r.estimatedHours
    s!"Duration: {fixed .minusOnly 2 h} h (estimated {estimated} h)").toList ++
  (r.wasteReason.map fun reason => s!"Failure reason: {reason}").toList ++
  (r.notes.map fun notes => s!"Notes: {notes}").toList

/-- The line of an item. -/
def itemLine {α : Type} (i : Item α) : String :=
  let name := i.modelName.getD "unnamed model"
  s!"  {name} x{i.quantity} ({i.successful} ok, {i.failed} failed)"

/-- The lines about items. -/
def itemLines {α : Type} (totals : ItemTotals) (items : List (Item α)) : List String :=
  s!"Items: {totals.planned} planned, {totals.successful} successful, {totals.failed} failed" ::
    items.map itemLine

/-- The line of a material. -/
def materialLine (l : MaterialLine Float) : String :=
  let actual := match l.material.actualTotal with
    | some grams => fixed .minusOnly 1 grams ++ " g"
    | none => "-"
  let variance := match l.reconciliation.variance with
    | some percent => fixed .always 1 percent ++ "%"
    | none => "n/a"
  "  " ++ padRight 24 l.spoolLabel ++
    " est " ++ padLeft 8 (fixed .minusOnly 1 l.material.estimatedTotal) ++
    " g  actual " ++ padLeft 10 actual ++ "  variance " ++ padLeft 7 variance

/-- The lines about materials, if there are any. -/
def materialLines (ms : List (MaterialLine Float)) : List String :=
  if ms.isEmpty then [] else "Materials:" :: ms.map materialLine ++ [""]

/-- The line about plates, if there are any. -/
def plateLines {α : Type} (counts : PlateCounts) (plates : List (Plate α)) : List String :=
  if plates.isEmpty then []
  else
    [s!"Plates: pending={counts.pending} printing={counts.printing} " ++
      s!"completed={counts.completed} failed={counts.failed} cancelled={counts.cancelled}"]

/-- The lines about costs and yield. -/
def metricsLines (m : RunMetrics Float) : List String :=
  (s!"Cost: estimated {fixed .minusOnly 2 m.estimatedCost}, " ++
    s!"material {fixed .minusOnly 2 m.materialCost}, variance {fixed .always 2 m.costVariance}") ::
  (m.successRate.map fun rate => s!"Success rate: {fixed .minusOnly 1 rate}%").toList

/-- The view of a run. -/
def snapshot (s : Snapshot Float) : String :=
  lines (runLines s.run ++ [""] ++ itemLines s.totals s.items ++ [""] ++
    materialLines s.materials ++ plateLines s.plateCounts s.plates ++ metricsLines s.metrics)

/-! ## Spools and failure reasons -/

/-- A label in at most 22 characters; longer ones are cut. -/
def shortLabel (label : String) : String :=
  if 22 < label.length then String.ofList (label.toList.take 19) ++ "..." else label

/-- The line of a spool. The identifier is not filled up. -/
def spoolLine (b : SpoolBalance Float) : String :=
  " ".intercalate [b.spool.id.text, padRight 24 (shortLabel b.spool.label),
    padRight 8 b.spool.materialType, padLeft 10 (fixed .minusOnly 1 b.spool.weight), "g",
    padLeft 10 (fixed .minusOnly 1 b.deducted), "g",
    padLeft 10 (fixed .minusOnly 4 b.spool.costPerGram)]

/-- The table of spools. -/
def spoolTable (balances : List (SpoolBalance Float)) : String :=
  if balances.isEmpty then lines ["No spools registered."]
  else
    lines (" ".intercalate [padRight 38 "ID", padRight 24 "LABEL", padRight 8 "TYPE",
      padLeft 12 "REMAINING", padLeft 12 "DEDUCTED", padLeft 10 "PER GRAM"] ::
      rule 109 :: balances.map spoolLine)

/-- The line of a failure reason, whose value is filled up to `width`. -/
def reasonLine (width : Nat) (r : FailureReason) : String :=
  padRight width r.value ++ "  " ++ r.label ++
    (if r.description.isEmpty then "" else " -- " ++ r.description)

/-- The failure reasons. Their column is as wide as the longest value has bytes. -/
def reasonTable (c : Catalog) : String :=
  let width := (c.reasons.map fun r => r.value.utf8ByteSize).foldl max 0
  lines (c.reasons.map (reasonLine width))

end PrintFarm.Report
