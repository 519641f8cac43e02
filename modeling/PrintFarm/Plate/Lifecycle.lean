import PrintFarm.Item
import PrintFarm.Plate.Basic

/-!
# The life of a plate

A plate is pending, may be printing, and ends completed, failed or cancelled. What it adds to the
item of its model is its rollup: a completed plate adds the reported counts, a failed one loses the
whole bed, and a cancelled one adds nothing. A lost bed is capped at what the item has open.
-/

namespace PrintFarm

variable {α : Type}

/-- The refusal to do `action` to a plate in its present status. -/
def Plate.illegal (p : Plate α) (action : String) : Refusal α :=
  .illegalTransition .plate p.id p.status.word action

/-- A plate can take a status that can follow its own. -/
def Plate.checkMove (p : Plate α) (next : PlateStatus) (action : String) :
    Except (Refusal α) Unit :=
  if p.status.canBecome next then .ok () else .error (p.illegal action)

/-- Details can be edited until the plate ends. -/
def Plate.checkEditable (p : Plate α) (action : String) : Except (Refusal α) Unit :=
  if p.status.isTerminal then .error (p.illegal action) else .ok ()

/-- Only a plate that was never started can be deleted. -/
def Plate.checkDeletable (p : Plate α) : Except (Refusal α) Unit :=
  if p.status = .pending then .ok () else .error (p.illegal "delete")

/-- What is wrong with the counts reported of a plate that prints `printsPerPlate` at once. -/
def printCountComplaints (printsPerPlate : Int) (o : Outcome) : List (FieldError α) :=
  complaint (o.successful < 0) "successful_prints" .negative ++
  complaint (o.failed < 0) "failed_prints" .negative ++
  complaint (printsPerPlate < o.successful + o.failed) "successful_prints"
    (.outcomeBeyondBed o.successful o.failed printsPerPlate)

/-- What a plate adds to the item of its model when it takes status `next`. -/
def rollup (next : PlateStatus) (printsPerPlate : Int) (reported : Outcome) : Outcome :=
  match next with
  | .completed => reported
  | .failed => ⟨0, printsPerPlate⟩
  | _ => ⟨0, 0⟩

/-- The counts that a move reports. -/
def PlateMove.reported (move : PlateMove α) : Outcome :=
  ⟨move.successful.getD 0, move.failed.getD 0⟩

/-- The move with the counts that are kept on a plate with `bed` prints. A failed plate has lost all
of them. -/
def PlateMove.counted (move : PlateMove α) (next : PlateStatus) (bed : Int) : PlateMove α :=
  if next = .failed then { move with successful := some 0, failed := some bed } else move

/-- What an item gains when a plate with `bed` prints of its model takes status `next`. -/
def Item.gained (i : Item α) (next : PlateStatus) (bed : Int) (reported : Outcome) : Outcome :=
  if next = .failed then (rollup next bed reported).capFailed i.openUnits
  else rollup next bed reported

/-- What is wrong with adding `added` to the outcome of the item. -/
def Item.rollupComplaints (i : Item α) (added : Outcome) : List (FieldError α) :=
  let total := i.outcome.plus added
  if fitsCount total.successful && fitsCount total.failed then
    total.complaints "item." i.quantity
  else
    [⟨"item.successful_quantity",
      .outcomeBeyondPlan total.successful total.failed i.quantity⟩]

end PrintFarm
