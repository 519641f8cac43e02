import PrintFarm.Refusal.Basic
import PrintFarm.Scalar
import PrintFarm.Status
import PrintFarm.Timestamp.Basic

/-!
# Plates

A plate is one print bed within a run. It prints one model, several times at once.
-/

namespace PrintFarm

/-- A print bed of a run. -/
structure Plate (α : Type) where
  id : Uuid
  run : Uuid
  model : Uuid
  printer : Option Uuid
  number : Int
  name : String
  printsPerPlate : Int
  status : PlateStatus
  successful : Int
  failed : Int
  printMinutes : Option Int
  actualPrintMinutes : Option Int
  estimatedWeight : Option α
  actualWeight : Option α
  notes : Option String
  startedAt : Option Timestamp
  completedAt : Option Timestamp
  createdAt : Timestamp
  updatedAt : Timestamp

/-- A plate that is to be added. Its number and name may be left to the program. -/
structure NewPlate (α : Type) where
  model : Uuid
  printer : Option Uuid
  number : Option Int
  name : Option String
  printsPerPlate : Int
  printMinutes : Option Int
  estimatedWeight : Option α
  notes : Option String

/-- New details of a plate; what is absent stays as it is. -/
structure PlatePatch (α : Type) where
  name : Option String
  printer : Option Uuid
  printMinutes : Option Int
  estimatedWeight : Option α
  notes : Option String

/-- What is reported of a plate that is completed. -/
structure PlateReport (α : Type) where
  successful : Int
  failed : Int
  actualPrintMinutes : Option Int
  actualWeight : Option α
  notes : Option String

/-- What a change of status writes besides the status; what is absent stays as it is. -/
structure PlateMove (α : Type) where
  startedAt : Option Timestamp := none
  completedAt : Option Timestamp := none
  successful : Option Int := none
  failed : Option Int := none
  actualPrintMinutes : Option Int := none
  actualWeight : Option α := none
  notes : Option String := none

variable {α : Type}

/-- The plate with new details. -/
def PlatePatch.apply (patch : PlatePatch α) (p : Plate α) : Plate α :=
  { p with
    name := patch.name.getD p.name
    printer := patch.printer.or p.printer
    printMinutes := patch.printMinutes.or p.printMinutes
    estimatedWeight := patch.estimatedWeight.or p.estimatedWeight
    notes := patch.notes.or p.notes }

/-- The plate in status `next`. -/
def PlateMove.apply (move : PlateMove α) (next : PlateStatus) (p : Plate α) : Plate α :=
  { p with
    status := next
    startedAt := move.startedAt.or p.startedAt
    completedAt := move.completedAt.or p.completedAt
    successful := move.successful.getD p.successful
    failed := move.failed.getD p.failed
    actualPrintMinutes := move.actualPrintMinutes.or p.actualPrintMinutes
    actualWeight := move.actualWeight.or p.actualWeight
    notes := move.notes.or p.notes }

/-- Whether a time in minutes is below zero. -/
def isNegativeTime (minutes : Option Int) : Bool :=
  minutes.any fun m => m < 0

variable [Scalar α]

/-- Whether an optional amount is there but no number from zero up. -/
def isBadAmount (amount : Option α) : Bool :=
  amount.any fun x => !Scalar.isNonNegative x

/-- What is wrong with the planned time and weight of a plate. -/
def plateDetailComplaints (printMinutes : Option Int) (estimatedWeight : Option α) :
    List (FieldError α) :=
  complaint (isNegativeTime printMinutes) "print_time_minutes" .negative ++
  complaint (isBadAmount estimatedWeight) "estimated_material_weight_grams" .negative

/-- What is wrong with a plate that is to be added, as far as the request tells. -/
def NewPlate.complaints (p : NewPlate α) : List (FieldError α) :=
  plateDetailComplaints p.printMinutes p.estimatedWeight ++
  complaint (p.printsPerPlate < 1) "prints_per_plate" .belowOne ++
  complaint (p.number.any fun n => n < 1) "plate_number" .belowOne

/-- What is wrong with new details of a plate. -/
def PlatePatch.complaints (p : PlatePatch α) : List (FieldError α) :=
  plateDetailComplaints p.printMinutes p.estimatedWeight

/-- What is wrong with the time and weight in a report. -/
def PlateReport.complaints (r : PlateReport α) : List (FieldError α) :=
  complaint (isNegativeTime r.actualPrintMinutes) "actual_print_time_minutes" .negative ++
  complaint (isBadAmount r.actualWeight) "actual_material_weight_grams" .negative

end PrintFarm
