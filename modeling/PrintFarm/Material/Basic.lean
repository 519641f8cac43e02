import PrintFarm.Refusal.Basic
import PrintFarm.Scalar
import PrintFarm.Status
import PrintFarm.Timestamp.Basic

/-!
# Materials of a run

A material line plans how much of a spool a run needs, and records how much it used.
-/

namespace PrintFarm

/-- A spool planned in a run, with the estimate, the recorded use, and the figures that are fixed
when the run ends. -/
structure Material (α : Type) where
  id : Uuid
  run : Uuid
  spool : Uuid
  estimatedModel : α
  estimatedFlushed : Option α
  estimatedTower : Option α
  estimatedTotal : α
  estimatedCost : Option α
  actualTotal : Option α
  entryMode : Option EntryMode
  weighedBefore : Option α
  weighedAfter : Option α
  variance : Option α
  totalCost : Option α
  costPerGram : Option α
  createdAt : Timestamp
  updatedAt : Timestamp

/-- A material line with the label and the present price of its spool. -/
structure PricedMaterial (α : Type) where
  material : Material α
  spoolLabel : String
  spoolCostPerGram : α

/-- A material line that is to be added. -/
structure NewMaterial (α : Type) where
  spool : Uuid
  estimatedModel : α
  estimatedFlushed : Option α
  estimatedTower : Option α

namespace NewMaterial

variable {α : Type} [Scalar α]

/-- The weight of the models, and of what is flushed and spent on a tower. -/
def estimatedTotal (m : NewMaterial α) : α :=
  m.estimatedModel + m.estimatedFlushed.getD Scalar.zero + m.estimatedTower.getD Scalar.zero

/-- What is wrong with the estimates. Field names get `place` in front. -/
def complaints (place : String) (m : NewMaterial α) : List (FieldError α) :=
  let check (field : String) (amount : Option α) : List (FieldError α) :=
    complaint (amount.any fun x => !Scalar.isNonNegative x) (place ++ field) .negative
  check "estimated_model_weight_grams" (some m.estimatedModel) ++
  check "estimated_flushed_grams" m.estimatedFlushed ++
  check "estimated_tower_grams" m.estimatedTower

end NewMaterial

end PrintFarm
