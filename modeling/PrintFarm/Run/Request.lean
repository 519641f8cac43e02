import PrintFarm.Item
import PrintFarm.Material.Basic
import PrintFarm.Run.Basic
import PrintFarm.Usage

/-!
# Requests about runs

A run is created with all its items and materials at once. `RunRequest.complaints` collects all
that is wrong with such a request: first the run, then each item, then each material, in order.
-/

namespace PrintFarm

/-- A run that is to be created, with its items and materials. -/
structure RunRequest (α : Type) where
  run : NewRun α
  items : List (NewItem α)
  materials : List (NewMaterial α)

/-- How a run is to be cancelled. -/
structure CancelRequest (α : Type) where
  mode : CancelMode
  usage : List (SpoolUsage α)
  notes : Option String

/-- Why a run has failed, and what it has wasted. -/
structure FailRequest (α : Type) where
  reason : String
  waste : List (SpoolUsage α)
  notes : Option String

variable {α : Type} [Scalar α]

/-- The place of an entry of a list in a field name. -/
def entryPlace (list : String) (index : Nat) : String :=
  s!"{list}[{index}]."

/-- What is wrong with an item whose place is `place`, after items for the models in `earlier`. -/
def NewItem.complaints (place : String) (earlier : List Uuid) (i : NewItem α) :
    List (FieldError α) :=
  complaint (i.quantity < 1) (place ++ "quantity") .belowOne ++
  complaint (i.modelWeight.any fun x => !Scalar.isNonNegative x) (place ++ "model_weight_grams")
    .negative ++
  complaint (earlier.contains i.model) (place ++ "model_id") .repeatedModel

/-- What is wrong with the items from the one at `index` on. -/
def itemComplaints (index : Nat) (earlier : List Uuid) : List (NewItem α) → List (FieldError α)
  | [] => []
  | i :: rest =>
    i.complaints (entryPlace "items" index) earlier ++
      itemComplaints (index + 1) (i.model :: earlier) rest

/-- What is wrong with the materials from the one at `index` on. -/
def materialComplaints (index : Nat) (earlier : List Uuid) :
    List (NewMaterial α) → List (FieldError α)
  | [] => []
  | m :: rest =>
    let place := entryPlace "materials" index
    m.complaints place ++
      complaint (earlier.contains m.spool) (place ++ "spool_id") .repeatedSpool ++
      materialComplaints (index + 1) (m.spool :: earlier) rest

/-- What is wrong with a run that is to be created. -/
def RunRequest.complaints (r : RunRequest α) : List (FieldError α) :=
  complaint (!Scalar.isNonNegative r.run.estimatedHours) "estimated_print_time_hours" .negative ++
  complaint r.items.isEmpty "items" .noItems ++
  itemComplaints 0 [] r.items ++
  materialComplaints 0 [] r.materials

/-- What a cancelled run has used: nothing, or what is reported. -/
def CancelRequest.deductible (r : CancelRequest α) : Except (Refusal α) (UsageTable α) :=
  match r.mode with
  | .fullReversal => .ok []
  | .recordPartial =>
    let usage := positiveUsage r.usage
    if usage.isEmpty then .error (.field "partial_usage" .noPartialUsage) else .ok usage

end PrintFarm
