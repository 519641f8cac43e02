import PrintFarm.Store.Basic

/-!
# The table of items

A run has at most one item for each model. The counts of an item are from zero up and together
never more than its quantity, which is kept in 32 bits.
-/

namespace PrintFarm.Store

variable {α : Type} [Scalar α]

/-- Draws the identifier of the next item. -/
def drawItem : Tx α Uuid := do
  return (← Tx.draw .item).itemId

/-- The rules for the numbers of an item. -/
def acceptsItem (i : Item α) : Bool :=
  fitsCount i.quantity && 1 ≤ i.quantity && 0 ≤ i.successful && 0 ≤ i.failed &&
    i.successful + i.failed ≤ i.quantity && isNotNegative i.modelWeight

/-- The row of a new item. -/
def itemRow (now : Timestamp) (run id : Uuid) (new : NewItem α) : Item α where
  id := id
  run := run
  model := new.model
  modelName := new.modelName
  quantity := new.quantity
  successful := 0
  failed := 0
  bedPosition := new.bedPosition
  modelWeight := storedOption new.modelWeight
  estimatedUnitCost := storedOption new.estimatedUnitCost
  actualUnitCost := none
  createdAt := now.stored

/-- Adds an item to a run. -/
def insertItem (now : Timestamp) (run : Uuid) (new : NewItem α) : Tx α (Item α) := do
  let fault := StorageFault.insertItem new.model
  Tx.require (allStorable [new.modelName, new.bedPosition]) fault
  let id ← drawItem
  let row := itemRow now run id new
  let tables ← Tx.tables
  Tx.require (acceptsItem row) fault
  Tx.require (tables.items.all fun i => i.id ≠ id) fault
  Tx.require (tables.items.all fun i => !(i.run = run && i.model = new.model)) fault
  Tx.require (tables.runs.any fun r => r.id = run) fault
  Tx.changeTables fun t => { t with items := t.items ++ [row] }
  return row

/-- The items of a run in the order of insertion. -/
def itemsOf (run : Uuid) : Tx α (List (Item α)) := do
  return (← Tx.tables).items.filter fun i => i.run = run

/-- An item of a run. -/
def item? (run id : Uuid) : Tx α (Option (Item α)) := do
  return (← Tx.tables).items.find? fun i => i.id = id && i.run = run

/-- The item for a model within a run. -/
def itemFor? (run model : Uuid) : Tx α (Option (Item α)) := do
  return (← Tx.tables).items.find? fun i => i.run = run && i.model = model

/-- Sets the counts of an item. -/
def setOutcome (id : Uuid) (outcome : Outcome) : Tx α (Option (Item α)) := do
  match (← Tx.tables).items.find? fun i => i.id = id with
  | none => return none
  | some i =>
    let row := i.withOutcome outcome
    Tx.require (acceptsItem row) .setOutcome
    Tx.changeTables fun t =>
      { t with items := changeRows (fun i => i.id = id) (fun _ => row) t.items }
    return some row

/-- Adds to the counts of an item if the sum is within its quantity, and tells how many items that
were. -/
def addOutcome (id : Uuid) (added : Outcome) : Tx α Nat := do
  match (← Tx.tables).items.find? fun i => i.id = id with
  | none => return 0
  | some i =>
    let total := i.outcome.plus added
    if total.successful + total.failed ≤ i.quantity then
      let row := i.withOutcome total
      Tx.require (acceptsItem row) .rollUp
      Tx.changeTables fun t =>
        { t with items := changeRows (fun i => i.id = id) (fun _ => row) t.items }
      return 1
    else return 0

/-- The item with the cost of one print. -/
def pricedItem (cost : Option α) (i : Item α) : Item α :=
  { i with actualUnitCost := storedOption cost }

/-- Sets the cost of one print of an item. -/
def setUnitCost (id : Uuid) (cost : Option α) : Tx α Unit :=
  Tx.changeTables fun t =>
    { t with items := changeRows (fun i => i.id = id) (pricedItem cost) t.items }

end PrintFarm.Store
