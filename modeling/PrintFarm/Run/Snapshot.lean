import PrintFarm.Plate.Basic
import PrintFarm.Run.Basic
import PrintFarm.Run.Metrics

/-!
# The view of a run

A snapshot shows a run with all it owns and the figures that follow from it.
-/

namespace PrintFarm

/-- How many plates are in each status. -/
structure PlateCounts where
  pending : Nat
  printing : Nat
  completed : Nat
  failed : Nat
  cancelled : Nat
  deriving DecidableEq, Repr

/-- A run with its items, lines and plates, and what follows from them. -/
structure Snapshot (α : Type) where
  run : Run α
  items : List (Item α)
  materials : List (MaterialLine α)
  plates : List (Plate α)
  totals : ItemTotals
  plateCounts : PlateCounts
  metrics : RunMetrics α

variable {α : Type}

/-- Counts the plates of each status. -/
def PlateCounts.ofPlates (plates : List (Plate α)) : PlateCounts :=
  let count (s : PlateStatus) : Nat := plates.countP fun p => p.status = s
  ⟨count .pending, count .printing, count .completed, count .failed, count .cancelled⟩

/-- The view of a run with these items, lines and plates. -/
def Snapshot.assemble [Scalar α] (run : Run α) (items : List (Item α))
    (materials : List (MaterialLine α)) (plates : List (Plate α)) : Snapshot α where
  run := run
  items := items
  materials := materials
  plates := plates
  totals := .ofItems items
  plateCounts := .ofPlates plates
  metrics := .compute items (materials.map MaterialLine.reconciliation) run.durationHours
    run.estimatedHours

end PrintFarm
