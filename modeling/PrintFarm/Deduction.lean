import PrintFarm.Scalar
import PrintFarm.Status
import PrintFarm.Timestamp.Basic
import PrintFarm.Uuid

/-!
# Deductions

The journal holds one row for each deduction from a spool. A run that ends deducts from a spool at
most once.
-/

namespace PrintFarm

/-- A deduction that is to be journaled. -/
structure NewDeduction (α : Type) where
  run : Uuid
  spool : Uuid
  target : RunStatus
  reason : DeductionReason
  grams : α
  weightBefore : α
  weightAfter : α

/-- The deduction with its amounts as columns hold them, if all are numbers. -/
def NewDeduction.stored? {α : Type} [Scalar α] (d : NewDeduction α) : Option (NewDeduction α) := do
  let grams ← Scalar.stored? d.grams
  let before ← Scalar.stored? d.weightBefore
  let after ← Scalar.stored? d.weightAfter
  some { d with grams, weightBefore := before, weightAfter := after }

/-- A row of the journal. -/
structure Deduction (α : Type) extends NewDeduction α where
  number : Int
  recordedAt : Timestamp

/-- Whether the row belongs to the end `target` of `run` and to `spool`. -/
def NewDeduction.covers {α : Type} (d : NewDeduction α) (run : Uuid) (target : RunStatus)
    (spool : Uuid) : Bool :=
  d.run = run && d.target = target && d.spool = spool

end PrintFarm
