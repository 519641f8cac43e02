import PrintFarm.Store.Basic

/-!
# The journal of deductions

The journal is only ever added to. It holds at most one row for a run, an end of it, and a spool.
-/

namespace PrintFarm.Store

variable {α : Type} [Scalar α]

/-- Draws the number of the next row. -/
def drawJournal : Tx α Int := do
  return (← Tx.draw .deduction).journal

/-- Whether the journal has a row for this end of the run and this spool. -/
def deductionExists (run : Uuid) (target : RunStatus) (spool : Uuid) : Tx α Bool := do
  return (← Tx.tables).deductions.any fun d => d.covers run target spool

/-- The row of a deduction. -/
def journalRow (now : Timestamp) (number : Int) (new : NewDeduction α) : Deduction α :=
  { new with number, recordedAt := now.stored }

/-- Journals a deduction unless the journal has one for the same end of the run and spool. The row
draws a number in any case. -/
def insertDeduction (now : Timestamp) (new : NewDeduction α) : Tx α (Option (Deduction α)) := do
  let number ← drawJournal
  let new ← Tx.expect new.stored? (.storage .insertDeduction)
  Tx.require (new.target.isTerminal && Scalar.lt Scalar.zero new.grams) .insertDeduction
  let tables ← Tx.tables
  if tables.deductions.any fun d => d.covers new.run new.target new.spool then return none
  else
    Tx.require (tables.runs.any fun r => r.id = new.run) .insertDeduction
    Tx.require (tables.spools.any fun s => s.id = new.spool) .insertDeduction
    let row := journalRow now number new
    Tx.changeTables fun t => { t with deductions := t.deductions ++ [row] }
    return some row

/-- The rows for a run, from the first one on. -/
def deductionsOf (run : Uuid) : Tx α (List (Deduction α)) := do
  return (← Tx.tables).deductions.filter fun d => d.run = run

/-- All that was ever deducted from a spool, as long as the sum is finite where its parts are. -/
def totalDeducted (spool : Uuid) : Tx α α := do
  let amounts := ((← Tx.tables).deductions.filter fun d => d.spool = spool).map fun d => d.grams
  let total := amounts.foldl (· + ·) Scalar.zero
  Tx.require (Scalar.isFinite total || !amounts.all Scalar.isFinite) .sumDeductions
  return total

/-- How many rows each table has. -/
def tableCounts : Tx α (List (String × Nat)) := do
  let t ← Tx.tables
  return [
    ("spools", t.spools.length),
    ("production_runs", t.runs.length),
    ("production_run_items", t.items.length),
    ("production_run_materials", t.materials.length),
    ("production_run_plates", t.plates.length),
    ("inventory_deductions", t.deductions.length)]

end PrintFarm.Store
