import PrintFarm.Uuid

/-!
# Refusals

An operation that is not carried out says why: fields of the request are wrong, a row is missing,
a status does not allow it, a spool holds too little, or the tables do not accept the row. Each
cause is a constructor; the wording is in `Refusal.Message`.
-/

namespace PrintFarm

/-- The kinds of row that a refusal can be about. -/
inductive Entity
  | run
  | item
  | material
  | plate
  | spool
  deriving DecidableEq, Repr

/-- Why the use of a material line cannot be told yet. -/
inductive MeasurementProblem
  | notRecorded
  | gainedWeight
  | incompletePair
  | notPositive
  deriving DecidableEq, Repr

/-- What is wrong with a field of a request. -/
inductive Problem (α : Type)
  | negative
  | belowOne
  | noNonNegativeNumber
  | empty
  | outcomeBeyondPlan (successful failed quantity : Int)
  | outcomeBeyondBed (successful failed printsPerPlate : Int)
  | bedBeyondOpenUnits
  | bedBeyondPlan (printsPerPlate quantity : Int)
  | noItems
  | repeatedModel
  | repeatedSpool
  | spoolInUse (spool : Uuid)
  | unplannedModel (model : Uuid)
  | untrackedModel (model : Uuid)
  | plateNumberTaken (number : Int)
  | heavierAfter (before after : α)
  | weighedAfterMissing
  | weighedBeforeMissing
  | noMeasurement
  | twoMeasurements
  | unmeasured (problem : MeasurementProblem) (label : String)
  | noPartialUsage
  | noWaste
  | unknownReason (reason : String)
  | other (message : String)

/-- A field of a request and what is wrong with it. -/
structure FieldError (α : Type) where
  field : String
  problem : Problem α

/-- What the tables were asked for when they broke one of their rules. -/
inductive StorageFault
  | insertSpool (label : String)
  | insertRun
  | insertItem (model : Uuid)
  | insertMaterial (spool : Uuid)
  | insertPlate (number : Int)
  | insertDeduction
  | updateRun
  | endRun
  | setOutcome
  | rollUp
  | recordActual
  | resetActuals
  | updatePlate
  | movePlate
  | numberPlate
  | setSpoolWeight
  | sumDeductions
  | other (message : String)
  deriving DecidableEq

/-- Why an operation was not carried out. -/
inductive Refusal (α : Type)
  | invalid (fields : List (FieldError α))
  | illegalTransition (entity : Entity) (id : Uuid) (current action : String)
  | notFound (entity : Entity) (id : Uuid)
  | insufficientStock (spool : Uuid) (requested available : α)
  | concurrentModification (entity : Entity) (id : Uuid) (expected actual : String)
  | storage (fault : StorageFault)

variable {α : Type}

/-- A complaint about `field` if `wrong` holds. -/
def complaint (wrong : Bool) (field : String) (problem : Problem α) : List (FieldError α) :=
  if wrong then [⟨field, problem⟩] else []

/-- A refusal because of a single field. -/
def Refusal.field (field : String) (problem : Problem α) : Refusal α :=
  .invalid [⟨field, problem⟩]

/-- Goes on if there are no complaints. -/
def refuseIfAny (complaints : List (FieldError α)) : Except (Refusal α) Unit :=
  if complaints.isEmpty then .ok () else .error (.invalid complaints)

end PrintFarm
