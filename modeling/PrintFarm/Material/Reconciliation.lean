import PrintFarm.Material.Basic

/-!
# Reconciliation

A line is reconciled by setting what it used and cost against what was estimated. Open runs use the
present price of the spool; when a run ends, the figures are fixed on its lines.
-/

namespace PrintFarm

/-- The figures of a line at a price. -/
structure Reconciliation (α : Type) where
  estimatedTotal : α
  estimatedCost : α
  actualTotal : Option α
  totalCost : Option α
  variance : Option α
  costPerGram : α

/-- A line with its figures, as it is shown. -/
structure MaterialLine (α : Type) where
  material : Material α
  spoolLabel : String
  reconciliation : Reconciliation α

variable {α : Type} [Scalar α]

/-- How far the actual weight is from the estimate, in percent; nothing can be said without an
estimate. -/
def variance (estimated actual : α) : Option α :=
  if Scalar.eq estimated Scalar.zero then none else some (Scalar.deviation estimated actual)

/-- The figures of a line at the price of a gram. -/
def reconcile (m : Material α) (costPerGram : α) : Reconciliation α where
  estimatedTotal := m.estimatedTotal
  estimatedCost := m.estimatedTotal * costPerGram
  actualTotal := m.actualTotal
  totalCost := m.actualTotal.map fun actual => actual * costPerGram
  variance := m.actualTotal.bind fun actual => variance m.estimatedTotal actual
  costPerGram := costPerGram

/-- The line as it is shown: at its fixed price if it has one, else at that of the spool. -/
def PricedMaterial.line (p : PricedMaterial α) : MaterialLine α where
  material := p.material
  spoolLabel := p.spoolLabel
  reconciliation := reconcile p.material (p.material.costPerGram.getD p.spoolCostPerGram)

end PrintFarm
