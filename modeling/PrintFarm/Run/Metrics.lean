import PrintFarm.Item
import PrintFarm.Material.Reconciliation

/-!
# Figures of a whole run

Counts, costs and yield are summed up over the items and the material lines of a run.
-/

namespace PrintFarm

/-- Planned, successful and failed prints over all items. -/
structure ItemTotals where
  planned : Int
  successful : Int
  failed : Int
  deriving DecidableEq, Repr

/-- Costs, yield and time of a run. -/
structure RunMetrics (α : Type) where
  estimatedCost : α
  materialCost : α
  costVariance : α
  successfulWeight : α
  costPerGram : Option α
  successRate : Option α
  timeVariance : Option α

variable {α : Type}

/-- The counts summed up over the items. -/
def ItemTotals.ofItems (items : List (Item α)) : ItemTotals :=
  let total (count : Item α → Int) : Int := items.foldr (fun i n => count i + n) 0
  ⟨total Item.quantity, total Item.successful, total Item.failed⟩

variable [Scalar α]

/-- The weight of the successful prints of an item. -/
def Item.successfulWeight (i : Item α) : α :=
  i.modelWeight.getD Scalar.zero * Scalar.ofInt i.successful

/-- The share of successful prints in percent, if any are planned. -/
def ItemTotals.successRate (t : ItemTotals) : Option α :=
  if 0 < t.planned then
    some (Scalar.ofInt t.successful / Scalar.ofInt t.planned * Scalar.ofInt 100)
  else none

/-- How far the duration is from the estimate, in percent, if there are both. -/
def hoursDeviation (duration : Option α) (estimated : α) : Option α :=
  if Scalar.lt Scalar.zero estimated then
    duration.map fun actual => Scalar.deviation estimated actual
  else none

/-- The figures of a run. Lines without an actual weight add nothing to the material cost. -/
def RunMetrics.compute (items : List (Item α)) (lines : List (Reconciliation α))
    (duration : Option α) (estimatedHours : α) : RunMetrics α :=
  let estimatedCost := Scalar.sum (lines.map Reconciliation.estimatedCost)
  let materialCost := Scalar.sum (lines.filterMap Reconciliation.totalCost)
  let weight := Scalar.sum (items.map Item.successfulWeight)
  { estimatedCost
    materialCost
    costVariance := materialCost - estimatedCost
    successfulWeight := weight
    costPerGram := if Scalar.lt Scalar.zero weight then some (materialCost / weight) else none
    successRate := (ItemTotals.ofItems items).successRate
    timeVariance := hoursDeviation duration estimatedHours }

/-- The material cost of one print of an item. -/
def RunMetrics.unitCost (m : RunMetrics α) (i : Item α) : Option α := do
  let weight ← i.modelWeight
  let rate ← m.costPerGram
  some (weight * rate)

end PrintFarm
