import PrintFarm.Refusal.Basic
import PrintFarm.Scalar
import PrintFarm.Text.Blank
import PrintFarm.Timestamp.Basic

/-!
# Spools

A spool of filament is the stock that runs take from. Its weight changes only by deductions.
-/

namespace PrintFarm

/-- A spool with what is left on it and what a gram of it costs. -/
structure Spool (α : Type) where
  id : Uuid
  label : String
  materialType : String
  color : Option String
  weight : α
  costPerGram : α
  createdAt : Timestamp
  updatedAt : Timestamp

/-- What is known of a spool when it is registered. -/
structure NewSpool (α : Type) where
  label : String
  materialType : String
  color : Option String
  weight : α
  costPerGram : α

/-- A spool and all that was ever deducted from it. -/
structure SpoolBalance (α : Type) where
  spool : Spool α
  deducted : α

/-- What is wrong with a spool that is to be registered. -/
def NewSpool.complaints {α : Type} [Scalar α] (s : NewSpool α) : List (FieldError α) :=
  complaint (Text.nonblank? s.label).isNone "label" .empty ++
  complaint (Text.nonblank? s.materialType).isNone "material_type" .empty ++
  complaint (!Scalar.isNonNegative s.weight) "current_weight_grams" .negative ++
  complaint (!Scalar.isNonNegative s.costPerGram) "cost_per_gram" .negative

end PrintFarm
