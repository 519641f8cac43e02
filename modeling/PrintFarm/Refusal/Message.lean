import PrintFarm.Refusal.Basic
import PrintFarm.Decimal.Fixed
import PrintFarm.Decimal.Notation
import PrintFarm.Text.Quoted

/-!
# The wording of refusals

Every cause has one text, and every refusal a code that stays the same when texts change.
-/

namespace PrintFarm

def Entity.word : Entity → String
  | run => "run"
  | item => "item"
  | material => "material"
  | plate => "plate"
  | spool => "spool"

def MeasurementProblem.message : MeasurementProblem → String
  | notRecorded => "no actual weight recorded"
  | gainedWeight => "spool weighed more after the run than before"
  | incompletePair => "weighing pair is incomplete"
  | notPositive => "manual actual weight must be greater than zero"

/-- A number as messages write it. -/
def amountText (x : Float) : String :=
  Decimal.Notation.message.text x

/-- How much of a spool is asked for or left, as messages write it. -/
def stockText (x : Float) : String :=
  Decimal.fixed .minusOnly 2 x

/-- The two counts of an outcome, as messages write them. -/
def countsText (successful failed : Int) : String :=
  s!"successful ({successful}) + failed ({failed})"

def Problem.message : Problem Float → String
  | negative => "must be >= 0"
  | belowOne => "must be >= 1"
  | noNonNegativeNumber => "must be a non-negative number"
  | empty => "must not be empty"
  | outcomeBeyondPlan successful failed quantity =>
    s!"{countsText successful failed} exceeds planned quantity ({quantity})"
  | outcomeBeyondBed successful failed printsPerPlate =>
    s!"{countsText successful failed} exceeds prints per plate ({printsPerPlate})"
  | bedBeyondOpenUnits => "plate results would exceed item quantity"
  | bedBeyondPlan printsPerPlate quantity =>
    s!"plate holds {printsPerPlate} prints but the item plans only {quantity}"
  | noItems => "at least one item is required"
  | repeatedModel => "model appears more than once"
  | repeatedSpool => "spool appears more than once"
  | spoolInUse spool => s!"spool {spool} is already used by this run"
  | unplannedModel model => s!"model {model} is not planned in this run"
  | untrackedModel model => s!"run has no item for model {model}"
  | plateNumberTaken number => s!"plate {number} already exists in this run"
  | heavierAfter before after =>
    s!"spool weighed {amountText after} g after the run but only {amountText before} g before"
  | weighedAfterMissing => "required when spool_weight_before_grams is given"
  | weighedBeforeMissing => "required when spool_weight_after_grams is given"
  | noMeasurement => "supply a manual weight or a before/after weighing pair"
  | twoMeasurements => "cannot be combined with a weighing pair"
  | unmeasured problem label => s!"{problem.message} ({label})"
  | noPartialUsage => "record_partial needs at least one spool with grams > 0"
  | noWaste => "at least one spool with grams > 0 is required"
  | unknownReason reason => "unknown failure reason " ++ Text.quoted reason
  | other message => message

/-- The field, then what is wrong with it. -/
def FieldError.message (e : FieldError Float) : String :=
  e.field ++ ": " ++ e.problem.message

def StorageFault.message : StorageFault → String
  | insertSpool label => "failed to insert spool " ++ Text.quoted label
  | insertRun => "failed to insert production run"
  | insertItem model => s!"failed to insert item for model {model}"
  | insertMaterial spool => s!"failed to insert material for spool {spool}"
  | insertPlate number => s!"failed to insert plate {number}"
  | insertDeduction => "failed to insert inventory deduction"
  | updateRun => "failed to update production run"
  | endRun => "failed to transition production run status"
  | setOutcome => "failed to update item outcome"
  | rollUp => "failed to roll plate results into item"
  | recordActual => "failed to record actual material weight"
  | resetActuals => "failed to reset material actuals"
  | updatePlate => "failed to update plate"
  | movePlate => "failed to transition plate status"
  | numberPlate => "failed to compute next plate number"
  | setSpoolWeight => "failed to update spool weight"
  | sumDeductions => "failed to sum spool deductions"
  | other message => message

namespace Refusal

/-- The code of a kind of refusal. -/
def code {α : Type} : Refusal α → String
  | invalid _ => "VALIDATION_FAILED"
  | illegalTransition .. => "ILLEGAL_TRANSITION"
  | notFound .. => "NOT_FOUND"
  | insufficientStock .. => "INSUFFICIENT_STOCK"
  | concurrentModification .. => "CONCURRENT_MODIFICATION"
  | storage _ => "STORAGE_ERROR"

def message : Refusal Float → String
  | invalid fields => "validation failed: " ++ "; ".intercalate (fields.map FieldError.message)
  | illegalTransition entity id current action =>
    s!"cannot {action} {entity.word} {id}: current status is {current}"
  | notFound entity id => s!"{entity.word} {id} not found"
  | insufficientStock spool requested available =>
    s!"insufficient stock on spool {spool}: requested {stockText requested} g, " ++
      s!"available {stockText available} g"
  | concurrentModification entity id expected actual =>
    s!"{entity.word} {id} was modified concurrently: expected status {expected}, found {actual}"
  | storage fault => fault.message

end Refusal

end PrintFarm
