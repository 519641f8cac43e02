import PrintFarm.Store.Basic

/-!
# The table of plates

The plates of a run have different numbers from one up, and are listed by them. The counts of a
plate are from zero up and together never more than the prints it holds. Numbers and prints are
kept in 32 bits.
-/

namespace PrintFarm.Store

variable {α : Type} [Scalar α]

/-- Draws the identifier of the next plate. -/
def drawPlate : Tx α Uuid := do
  return (← Tx.draw .plate).plateId

/-- The rules for the numbers of a plate. -/
def acceptsPlate (p : Plate α) : Bool :=
  fitsCount p.number && 1 ≤ p.number && fitsCount p.printsPerPlate && 1 ≤ p.printsPerPlate &&
    0 ≤ p.successful && 0 ≤ p.failed &&
    p.successful + p.failed ≤ p.printsPerPlate && !isNegativeTime p.printMinutes &&
    !isNegativeTime p.actualPrintMinutes && isNotNegative p.estimatedWeight &&
    isNotNegative p.actualWeight

/-- The row of a new plate with its number and name. -/
def plateRow (now : Timestamp) (run id : Uuid) (new : NewPlate α) (number : Int) (name : String) :
    Plate α where
  id := id
  run := run
  model := new.model
  printer := new.printer
  number := number
  name := name
  printsPerPlate := new.printsPerPlate
  status := .pending
  successful := 0
  failed := 0
  printMinutes := new.printMinutes
  actualPrintMinutes := none
  estimatedWeight := storedOption new.estimatedWeight
  actualWeight := none
  notes := new.notes
  startedAt := none
  completedAt := none
  createdAt := now.stored
  updatedAt := now.stored

/-- Adds a pending plate with its number and name to a run. -/
def insertPlate (now : Timestamp) (run : Uuid) (new : NewPlate α) (number : Int) (name : String) :
    Tx α (Plate α) := do
  let fault := StorageFault.insertPlate number
  Tx.require (allStorable [name, new.notes]) fault
  let id ← drawPlate
  let row := plateRow now run id new number name
  let tables ← Tx.tables
  Tx.require (acceptsPlate row) fault
  Tx.require (tables.plates.all fun p => p.id ≠ id) fault
  Tx.require (tables.plates.all fun p => !(p.run = run && p.number = number)) fault
  Tx.require (tables.runs.any fun r => r.id = run) fault
  Tx.changeTables fun t => { t with plates := t.plates ++ [row] }
  return row

/-- The plates of a run by their numbers. -/
def platesOf (run : Uuid) : Tx α (List (Plate α)) := do
  let found := (← Tx.tables).plates.filter fun p => p.run = run
  return inOrder (fun a b => a.number ≤ b.number) found

/-- A plate of a run. -/
def plate? (run id : Uuid) : Tx α (Option (Plate α)) := do
  return (← Tx.tables).plates.find? fun p => p.id = id && p.run = run

/-- Whether a plate of the run has that number. -/
def plateNumberTaken (run : Uuid) (number : Int) : Tx α Bool := do
  return (← Tx.tables).plates.any fun p => p.run = run && p.number = number

/-- The number after the highest one in the run. -/
def nextPlateNumber (run : Uuid) : Tx α Int := do
  let numbers := ((← Tx.tables).plates.filter fun p => p.run = run).map Plate.number
  let next := numbers.max?.getD 0 + 1
  Tx.require (fitsCount next) .numberPlate
  return next

/-- The plate after a change at the time `now`. -/
def touchedPlate (now : Timestamp) (p : Plate α) : Plate α :=
  { p with updatedAt := now.stored }

/-- The plate with new details as columns hold them. -/
def editedPlate (now : Timestamp) (patch : PlatePatch α) (p : Plate α) : Plate α :=
  touchedPlate now <|
    PlatePatch.apply { patch with estimatedWeight := storedOption patch.estimatedWeight } p

/-- The plate in status `next` as columns hold it. -/
def movedPlate (now : Timestamp) (next : PlateStatus) (move : PlateMove α) (p : Plate α) :
    Plate α :=
  touchedPlate now <|
    PlateMove.apply
      { move with
        startedAt := move.startedAt.map Timestamp.stored
        completedAt := move.completedAt.map Timestamp.stored
        actualWeight := storedOption move.actualWeight }
      next p

/-- The plate cancelled together with its run. -/
def cancelledPlate (now completedAt : Timestamp) (p : Plate α) : Plate α :=
  { p with
    status := .cancelled, completedAt := some completedAt.stored, updatedAt := now.stored }

/-- Gives new details to a plate that has not ended. -/
def updatePlate (now : Timestamp) (id : Uuid) (patch : PlatePatch α) : Tx α (Option (Plate α)) := do
  Tx.require (allStorable [patch.name, patch.notes]) .updatePlate
  match (← Tx.tables).plates.find? fun p => p.id = id && !p.status.isTerminal with
  | none => return none
  | some p =>
    let row := editedPlate now patch p
    Tx.require (acceptsPlate row) .updatePlate
    Tx.changeTables fun t =>
      { t with plates := changeRows (fun p => p.id = id) (fun _ => row) t.plates }
    return some row

/-- Moves a plate from status `current` to status `next`. -/
def movePlate (now : Timestamp) (id : Uuid) (current next : PlateStatus) (move : PlateMove α) :
    Tx α (Option (Plate α)) := do
  Tx.require (allStorable [move.notes]) .movePlate
  match (← Tx.tables).plates.find? fun p => p.id = id && p.status = current with
  | none => return none
  | some p =>
    let row := movedPlate now next move p
    Tx.require (acceptsPlate row) .movePlate
    Tx.changeTables fun t =>
      { t with plates := changeRows (fun p => p.id = id) (fun _ => row) t.plates }
    return some row

/-- Cancels the plates of a run that have not ended, and tells how many that were. -/
def cancelOpenPlates (now : Timestamp) (run : Uuid) (completedAt : Timestamp) : Tx α Nat := do
  let isOpen (p : Plate α) : Bool := p.run = run && !p.status.isTerminal
  let hits := (← Tx.tables).plates.countP isOpen
  Tx.changeTables fun t =>
    { t with
      plates := changeRows isOpen (cancelledPlate now completedAt) t.plates }
  return hits

/-- Removes a pending plate from a run, and tells how many plates that were. -/
def deletePendingPlate (run id : Uuid) : Tx α Nat := do
  let isHit (p : Plate α) : Bool := p.id = id && p.run = run && p.status = .pending
  let hits := (← Tx.tables).plates.countP isHit
  Tx.changeTables fun t => { t with plates := t.plates.filter fun p => !isHit p }
  return hits

end PrintFarm.Store
