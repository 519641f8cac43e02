import PrintFarm.Refusal.Basic
import PrintFarm.Scalar
import PrintFarm.Status
import PrintFarm.Text.Blank
import PrintFarm.Timestamp.Basic

/-!
# Runs

A production run is in progress until it is completed, cancelled or failed. After that nothing but
its notes can be edited.
-/

namespace PrintFarm

/-- A production run. -/
structure Run (α : Type) where
  id : Uuid
  number : String
  status : RunStatus
  startedAt : Timestamp
  completedAt : Option Timestamp
  durationHours : Option α
  estimatedHours : α
  printerName : Option String
  slicerSoftware : Option String
  bedTemperature : Option Int
  nozzleTemperature : Option Int
  notes : Option String
  wasteReason : Option String
  wasteGrams : Option α
  cancelMode : Option CancelMode
  createdAt : Timestamp
  updatedAt : Timestamp

/-- What is known of a run when it is created. -/
structure NewRun (α : Type) where
  startedAt : Option Timestamp
  estimatedHours : α
  printerName : Option String
  slicerSoftware : Option String
  bedTemperature : Option Int
  nozzleTemperature : Option Int
  notes : Option String

/-- New details of a run; what is absent stays as it is. -/
structure RunPatch (α : Type) where
  durationHours : Option α
  startedAt : Option Timestamp
  estimatedHours : Option α
  printerName : Option String
  slicerSoftware : Option String
  bedTemperature : Option Int
  nozzleTemperature : Option Int
  notes : Option String

/-- What the end of a run writes on it; what is absent stays as it is. -/
structure RunEnding (α : Type) where
  status : RunStatus
  completedAt : Timestamp
  durationHours : Option α := none
  wasteReason : Option String := none
  wasteGrams : Option α := none
  cancelMode : Option CancelMode := none
  notes : Option String := none

variable {α : Type}

namespace Run

/-- The refusal to do `action` to a run in its present status. -/
def illegal (r : Run α) (action : String) : Refusal α :=
  .illegalTransition .run r.id r.status.word action

/-- Changes are taken by a run that has not ended. -/
def checkMutable (r : Run α) (action : String) : Except (Refusal α) Unit :=
  if r.status.isTerminal then .error (r.illegal action) else .ok ()

/-- A run can take a status that can follow its own. -/
def checkMove (r : Run α) (next : RunStatus) (action : String) : Except (Refusal α) Unit :=
  if r.status.canBecome next then .ok () else .error (r.illegal action)

end Run

namespace RunPatch

/-- Whether the patch sets nothing but notes. -/
def isNotesOnly (p : RunPatch α) : Bool :=
  p.durationHours.isNone && p.startedAt.isNone && p.estimatedHours.isNone &&
    p.printerName.isNone && p.slicerSoftware.isNone && p.bedTemperature.isNone &&
    p.nozzleTemperature.isNone

/-- The run with new details. -/
def apply (p : RunPatch α) (r : Run α) : Run α :=
  { r with
    durationHours := p.durationHours.or r.durationHours
    startedAt := p.startedAt.getD r.startedAt
    estimatedHours := p.estimatedHours.getD r.estimatedHours
    printerName := p.printerName.or r.printerName
    slicerSoftware := p.slicerSoftware.or r.slicerSoftware
    bedTemperature := p.bedTemperature.or r.bedTemperature
    nozzleTemperature := p.nozzleTemperature.or r.nozzleTemperature
    notes := p.notes.or r.notes }

/-- What is wrong with a patch. -/
def complaints [Scalar α] (p : RunPatch α) : List (FieldError α) :=
  let check (field : String) (amount : Option α) : List (FieldError α) :=
    complaint (amount.any fun x => !Scalar.isNonNegative x) field .negative
  check "duration_hours" p.durationHours ++
  check "estimated_print_time_hours" p.estimatedHours

end RunPatch

/-- The run after its end. -/
def RunEnding.apply (e : RunEnding α) (r : Run α) : Run α :=
  { r with
    status := e.status
    completedAt := some e.completedAt
    durationHours := e.durationHours.or r.durationHours
    wasteReason := e.wasteReason.or r.wasteReason
    wasteGrams := e.wasteGrams.or r.wasteGrams
    cancelMode := e.cancelMode.or r.cancelMode
    notes := e.notes.or r.notes }

/-- The hours from `start` to `finish`, in whole seconds. -/
def elapsedHours [Scalar α] (start finish : Timestamp) : α :=
  Scalar.ofInt (start.elapsedSeconds finish) / Scalar.ofInt 3600

/-- Notes with an addition below them, both trimmed; nothing if nothing is added. -/
def mergedNotes (existing addition : Option String) : Option String := do
  let added ← addition.bind Text.nonblank?
  match existing.bind Text.nonblank? with
  | some kept => some (kept ++ "\n\n" ++ added)
  | none => some added

end PrintFarm
