import PrintFarm.Store.Basic

/-!
# The table of spools

Weights and prices are never negative. Spools are listed by label, and those with one label by
identifier.
-/

namespace PrintFarm.Store

variable {α : Type} [Scalar α]

/-- Draws the identifier of the next spool. -/
def drawSpool : Tx α Uuid := do
  return (← Tx.draw .spool).spoolId

/-- The row of a new spool. -/
def spoolRow (now : Timestamp) (id : Uuid) (new : NewSpool α) (weight price : α) : Spool α where
  id := id
  label := new.label
  materialType := new.materialType
  color := new.color
  weight := weight
  costPerGram := price
  createdAt := now.stored
  updatedAt := now.stored

/-- The row of a spool with another weight. -/
def weighed (now : Timestamp) (weight : α) (s : Spool α) : Spool α :=
  { s with weight, updatedAt := now.stored }

/-- Registers a spool. -/
def insertSpool (now : Timestamp) (new : NewSpool α) : Tx α (Spool α) := do
  let fault := StorageFault.insertSpool new.label
  Tx.require (allStorable [new.label, new.materialType, new.color]) fault
  let id ← drawSpool
  let weight ← Tx.expect (Scalar.stored? new.weight) (.storage fault)
  let price ← Tx.expect (Scalar.stored? new.costPerGram) (.storage fault)
  Tx.require (isNotNegative (some weight) && isNotNegative (some price)) fault
  Tx.require ((← Tx.tables).spools.all fun s => s.id ≠ id) fault
  let row := spoolRow now id new weight price
  Tx.changeTables fun t => { t with spools := t.spools ++ [row] }
  return row

/-- The spool with that identifier. -/
def spool? (id : Uuid) : Tx α (Option (Spool α)) := do
  return (← Tx.tables).spools.find? fun s => s.id = id

/-- Whether `a` is listed before `b` or at its place. -/
def spoolOrder (a b : Spool α) : Bool :=
  a.label < b.label || (a.label = b.label && !b.id.before a.id)

/-- All spools by label, then by identifier. -/
def listSpools : Tx α (List (Spool α)) := do
  return inOrder spoolOrder (← Tx.tables).spools

/-- The spools with these identifiers, in the order of the identifiers. -/
def spoolsOf (ids : List Uuid) : Tx α (List (Spool α)) := do
  let found := (← Tx.tables).spools.filter fun s => ids.contains s.id
  return inOrder (fun a b => !b.id.before a.id) found

/-- Sets what is left on a spool, and tells how many spools that were. -/
def setSpoolWeight (now : Timestamp) (id : Uuid) (weight : α) : Tx α Nat := do
  let hits := (← Tx.tables).spools.filter fun s => s.id = id
  if hits.isEmpty then return 0
  else
    let kept ← Tx.expect (Scalar.stored? weight) (.storage .setSpoolWeight)
    Tx.require (isNotNegative (some kept)) .setSpoolWeight
    Tx.changeTables fun t =>
      { t with
        spools := changeRows (fun s => s.id = id) (weighed now kept) t.spools }
    return hits.length

end PrintFarm.Store
