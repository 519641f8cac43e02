import PrintFarm.Refusal.Basic
import PrintFarm.Scalar
import PrintFarm.Timestamp.Basic

/-!
# Items of a run

An item plans how often a model is printed in a run, and counts what became of it: the successful
and the failed prints together are never more than planned.
-/

namespace PrintFarm

/-- A model planned in a run, and its outcome so far. -/
structure Item (α : Type) where
  id : Uuid
  run : Uuid
  model : Uuid
  modelName : Option String
  quantity : Int
  successful : Int
  failed : Int
  bedPosition : Option String
  modelWeight : Option α
  estimatedUnitCost : Option α
  actualUnitCost : Option α
  createdAt : Timestamp

/-- An item of a run that is to be created. -/
structure NewItem (α : Type) where
  model : Uuid
  modelName : Option String
  quantity : Int
  bedPosition : Option String
  modelWeight : Option α
  estimatedUnitCost : Option α

/-- How many prints of an item succeeded and failed. -/
structure Outcome where
  successful : Int
  failed : Int
  deriving DecidableEq, Repr

/-- Counts are kept in 32 bits. -/
def largestCount : Int := 2147483647

/-- Whether `n` can be kept as a count. -/
def fitsCount (n : Int) : Bool :=
  -2147483648 ≤ n && n ≤ largestCount

/-- What is wrong with an outcome of an item that plans `quantity` prints. Both counts are from
zero up, and their sum is within the plan. Field names get `place` in front. -/
def Outcome.complaints {α : Type} (place : String) (quantity : Int) (o : Outcome) :
    List (FieldError α) :=
  complaint (o.successful < 0) (place ++ "successful_quantity") .negative ++
  complaint (o.failed < 0) (place ++ "failed_quantity") .negative ++
  complaint (quantity < o.successful + o.failed) (place ++ "successful_quantity")
    (.outcomeBeyondPlan o.successful o.failed quantity)

namespace Outcome

/-- Whether both counts are zero. -/
def isEmpty (o : Outcome) : Bool :=
  o.successful = 0 && o.failed = 0

/-- Both counts added up. -/
def plus (a b : Outcome) : Outcome :=
  ⟨a.successful + b.successful, a.failed + b.failed⟩

/-- Limits the failed count to the units that are open, as far as a count can hold them. -/
def capFailed (o : Outcome) (openUnits : Int) : Outcome :=
  { o with failed := min o.failed (min (max openUnits 0) largestCount) }

end Outcome

namespace Item

variable {α : Type}

/-- The outcome so far. -/
def outcome (i : Item α) : Outcome := ⟨i.successful, i.failed⟩

/-- How many of the planned prints have no outcome yet. -/
def openUnits (i : Item α) : Int :=
  i.quantity - i.successful - i.failed

/-- The item with another outcome. -/
def withOutcome (i : Item α) (o : Outcome) : Item α :=
  { i with successful := o.successful, failed := o.failed }

end Item

end PrintFarm
