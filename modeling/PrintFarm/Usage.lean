import PrintFarm.Scalar
import PrintFarm.Uuid

/-!
# Usage of spools

People report grams per spool in a list, in which spools may come more than once. `positiveUsage`
turns such a list into one amount per spool, in the order of the identifiers.
-/

namespace PrintFarm

/-- Grams taken from one spool. -/
structure SpoolUsage (α : Type) where
  spool : Uuid
  grams : α

/-- Grams per spool, each spool once and in the order of the identifiers. -/
abbrev UsageTable (α : Type) := List (SpoolUsage α)

variable {α : Type} [Scalar α]

/-- Adds `grams` to what `spool` has in the table. -/
def UsageTable.add (spool : Uuid) (grams : α) : UsageTable α → UsageTable α
  | [] => [⟨spool, Scalar.zero + grams⟩]
  | u :: rest =>
    if u.spool = spool then ⟨spool, u.grams + grams⟩ :: rest
    else if spool.before u.spool then ⟨spool, Scalar.zero + grams⟩ :: u :: rest
    else u :: UsageTable.add spool grams rest

/-- The finite amounts above zero, summed up for each spool in the order of the list. -/
def positiveUsage (entries : List (SpoolUsage α)) : UsageTable α :=
  (entries.filter fun e => Scalar.isPositive e.grams).foldl (fun t e => t.add e.spool e.grams) []

end PrintFarm
