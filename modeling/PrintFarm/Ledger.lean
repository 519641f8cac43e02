import PrintFarm.Store.Journal
import PrintFarm.Store.Spools
import PrintFarm.Usage

/-!
# The ledger

The ledger alone changes the weight of a spool, and journals every change. A spool that has a
deduction for this end of the run is left alone, so that deducting again deducts nothing.
-/

namespace PrintFarm.Ledger

variable {α : Type} [Scalar α]

/-- Deducts from one spool of `spools`, or refuses if it is not among them or holds too little. -/
def deduct (now : Timestamp) (run : Uuid) (target : RunStatus) (reason : DeductionReason)
    (spools : List (Spool α)) (used : SpoolUsage α) : Tx α (Option (Deduction α)) := do
  let spool ← Tx.expect (spools.find? fun s => s.id = used.spool) (.notFound .spool used.spool)
  if ← Store.deductionExists run target used.spool then return none
  else if Scalar.lt spool.weight used.grams then
    Tx.refuse (.insufficientStock used.spool used.grams spool.weight)
  else
    let left := spool.weight - used.grams
    let row ← Store.insertDeduction now
      { run, spool := used.spool, target, reason, grams := used.grams, weightBefore := spool.weight,
        weightAfter := left }
    if row.isSome then
      let _ ← Store.setSpoolWeight now used.spool left
    return row

/-- Deducts from one spool after the other. -/
def deductAll (now : Timestamp) (run : Uuid) (target : RunStatus) (reason : DeductionReason)
    (spools : List (Spool α)) : UsageTable α → Tx α (List (Deduction α))
  | [] => return []
  | used :: rest => do
    let row ← deduct now run target reason spools used
    let rows ← deductAll now run target reason spools rest
    return row.toList ++ rows

/-- Deducts what a run has used when it ends as `target`, and gives the rows that were journaled. -/
def applyDeductions (now : Timestamp) (run : Uuid) (target : RunStatus) (reason : DeductionReason)
    (usage : UsageTable α) : Tx α (List (Deduction α)) := do
  let spools ← Store.spoolsOf (usage.map SpoolUsage.spool)
  deductAll now run target reason spools usage

/-- Every spool with all that was ever deducted from it. -/
def balances : Tx α (List (SpoolBalance α)) := do
  (← Store.listSpools).mapM fun s => return ⟨s, ← Store.totalDeducted s.id⟩

end PrintFarm.Ledger
