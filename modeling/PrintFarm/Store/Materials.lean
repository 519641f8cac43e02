import PrintFarm.Material.Measurement
import PrintFarm.Material.Reconciliation
import PrintFarm.Store.Basic

/-!
# The table of materials

A run uses each spool in at most one material line. Lines are read together with the label and the
price of their spool.
-/

namespace PrintFarm.Store

variable {α : Type} [Scalar α]

/-- Draws the identifier of the next material line. -/
def drawMaterial : Tx α Uuid := do
  return (← Tx.draw .material).materialId

/-- The rules for the numbers of a material line. -/
def acceptsMaterial (m : Material α) : Bool :=
  isNotNegative (some m.estimatedModel) && isNotNegative m.estimatedFlushed &&
    isNotNegative m.estimatedTower && isNotNegative m.actualTotal

/-- The row of a new material line. -/
def materialRow (now : Timestamp) (run id : Uuid) (new : NewMaterial α)
    (estimatedModel estimatedTotal : α) : Material α where
  id := id
  run := run
  spool := new.spool
  estimatedModel := estimatedModel
  estimatedFlushed := storedOption new.estimatedFlushed
  estimatedTower := storedOption new.estimatedTower
  estimatedTotal := estimatedTotal
  estimatedCost := none
  actualTotal := none
  entryMode := none
  weighedBefore := none
  weighedAfter := none
  variance := none
  totalCost := none
  costPerGram := none
  createdAt := now.stored
  updatedAt := now.stored

/-- Adds a material line with its estimated total to a run. -/
def insertMaterial (now : Timestamp) (run : Uuid) (new : NewMaterial α) (total : α) :
    Tx α (Material α) := do
  let fault := StorageFault.insertMaterial new.spool
  let id ← drawMaterial
  let estimatedModel ← Tx.expect (Scalar.stored? new.estimatedModel) (.storage fault)
  let estimatedTotal ← Tx.expect (Scalar.stored? total) (.storage fault)
  let row := materialRow now run id new estimatedModel estimatedTotal
  let tables ← Tx.tables
  Tx.require (acceptsMaterial row) fault
  Tx.require (tables.materials.all fun m => m.id ≠ id) fault
  Tx.require (tables.materials.all fun m => !(m.run = run && m.spool = new.spool)) fault
  Tx.require (tables.runs.any fun r => r.id = run) fault
  Tx.require (tables.spools.any fun s => s.id = new.spool) fault
  Tx.changeTables fun t => { t with materials := t.materials ++ [row] }
  return row

/-- A material line with the label and price of its spool. -/
def priced? (spools : List (Spool α)) (m : Material α) : Option (PricedMaterial α) :=
  (spools.find? fun s => s.id = m.spool).map fun s => ⟨m, s.label, s.costPerGram⟩

/-- The material lines of a run in the order of insertion. -/
def materialsOf (run : Uuid) : Tx α (List (PricedMaterial α)) := do
  let tables ← Tx.tables
  return (tables.materials.filter fun m => m.run = run).filterMap (priced? tables.spools)

/-- A material line of a run. -/
def material? (run id : Uuid) : Tx α (Option (PricedMaterial α)) := do
  let tables ← Tx.tables
  return (tables.materials.find? fun m => m.id = id && m.run = run).bind (priced? tables.spools)

/-- The line after a change at the time `now`. -/
def touchedMaterial (now : Timestamp) (m : Material α) : Material α :=
  { m with updatedAt := now.stored }

/-- The line with its figures as columns hold them. -/
def fixedMaterial (now : Timestamp) (figures : Reconciliation α) (m : Material α) : Material α :=
  { m with
    estimatedCost := Scalar.stored? figures.estimatedCost
    totalCost := storedOption figures.totalCost
    variance := storedOption figures.variance
    costPerGram := Scalar.stored? figures.costPerGram
    updatedAt := now.stored }

/-- Changes the material lines that are selected, and tells how many there are. -/
def changeMaterials (now : Timestamp) (fault : StorageFault) (selected : Material α → Bool)
    (change : Material α → Material α) : Tx α Nat := do
  let hits := (← Tx.tables).materials.filter selected
  Tx.require (hits.all fun m => acceptsMaterial (change m)) fault
  Tx.changeTables fun t =>
    { t with
      materials := changeRows selected (fun m => touchedMaterial now (change m)) t.materials }
  return hits.length

/-- Records what a line has used in place of what was recorded before. -/
def recordActual (now : Timestamp) (id : Uuid) (reading : Reading α) : Tx α Nat :=
  changeMaterials now .recordActual (fun m => m.id = id) fun m => m.record reading

/-- Records the estimate of every line of a run as what it has used. -/
def resetActuals (now : Timestamp) (run : Uuid) : Tx α Nat :=
  changeMaterials now .resetActuals (fun m => m.run = run) fun m =>
    m.record ⟨.manual, m.estimatedTotal, none, none⟩

/-- Fixes the figures of a line. -/
def fixFigures (now : Timestamp) (id : Uuid) (figures : Reconciliation α) : Tx α Unit :=
  Tx.changeTables fun t =>
    { t with materials := changeRows (fun m => m.id = id) (fixedMaterial now figures) t.materials }

/-- Removes a line from a run, and tells how many lines that were. -/
def deleteMaterial (run id : Uuid) : Tx α Nat := do
  let hits := (← Tx.tables).materials.countP fun m => m.id = id && m.run = run
  Tx.changeTables fun t =>
    { t with materials := t.materials.filter fun m => !(m.id = id && m.run = run) }
  return hits

end PrintFarm.Store
