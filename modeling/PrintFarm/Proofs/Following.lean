import PrintFarm.Proofs.Accepted

/-!
# What all operations follow

A relation between databases that is kept by doing nothing, by doing one thing after the other, and
by undoing what was done to the tables (`Tx.Path`) is kept by a computation as soon as it is kept by
the queries that write.

* `Tx.Follows` lifts a relation to computations, whatever they answer.
* `Store.Admits` says that the queries that write follow a relation.  The query that creates a run
  stands apart, so that relations can be told that only the creation of a run breaks.
* There is one lemma for each workflow, and `Operation.follows_perform` is about all operations.
-/

namespace PrintFarm

open Store Tx

variable {α β γ : Type}

/-! ## Relations that computations follow -/

namespace Tx

variable {R : Database α → Database α → Prop} {x : Tx α β} {f : β → Tx α γ}

/-- Whatever the computation answers, the database it leaves is related to the one it met. -/
def Follows (R : Database α → Database α → Prop) (body : Tx α β) : Prop :=
  ∀ db, R db (body.run db).2

/-- A relation that is kept by doing nothing, by doing one thing after the other, and by undoing
what was done to the tables. -/
structure Path (R : Database α → Database α → Prop) : Prop where
  refl : ∀ db, R db db
  trans : ∀ {db db₁ db₂}, R db db₁ → R db₁ db₂ → R db db₂
  undo : ∀ {db db₁}, R db db₁ → R db { db₁ with tables := db.tables }

theorem reads_refuse (why : Refusal α) : (refuse why : Tx α β).Reads :=
  fun _ => rfl

theorem reads_check (outcome : Except (Refusal α) β) : (check outcome : Tx α β).Reads := by
  cases outcome with
  | ok b => exact reads_pure b
  | error why => exact reads_refuse why

namespace Path

theorem reads (hR : Path R) (hx : x.Reads) : Follows R x := by
  intro db
  rw [hx db]
  exact hR.refl db

theorem bind (hR : Path R) (hx : Follows R x) (hf : ∀ b, Follows R (f b)) :
    Follows R (x >>= f) := by
  intro db
  have hfirst := hx db
  rw [run_bind]
  rcases h : x.run db with ⟨why | b, db₁⟩
  · rwa [h] at hfirst
  · rw [h] at hfirst
    exact hR.trans hfirst (hf b db₁)

/-- What is only read before does not matter. -/
theorem after (hR : Path R) (hx : x.Reads) (hf : ∀ b, Follows R (f b)) : Follows R (x >>= f) :=
  hR.bind (hR.reads hx) hf

/-- What comes after a rule may use it. -/
theorem require (hR : Path R) {holds : Bool} {fault : StorageFault} {f : Unit → Tx α γ}
    (hf : holds = true → Follows R (f ())) : Follows R (Tx.require holds fault >>= f) := by
  cases holds with
  | false => exact hR.reads (reads_refuse _)
  | true => exact hf rfl

/-- What is only read afterwards does not matter. -/
theorem first (hR : Path R) (hx : Follows R x) (hf : ∀ b, (f b).Reads) : Follows R (x >>= f) :=
  hR.bind hx fun b => hR.reads (hf b)

theorem map (hR : Path R) (hx : Follows R x) (f : β → γ) : Follows R (f <$> x) :=
  hR.first hx fun _ => reads_pure _

theorem atomically (hR : Path R) (hx : Follows R x) : Follows R (atomically x) := by
  intro db
  have hbody := hx db
  rw [run_atomically]
  rcases h : x.run db with ⟨why | b, db₁⟩
  · rw [h] at hbody
    exact hR.undo hbody
  · rwa [h] at hbody

theorem forM (hR : Path R) {xs : List β} {f : β → Tx α PUnit} (hf : ∀ x, Follows R (f x)) :
    Follows R (xs.forM f) := by
  induction xs with
  | nil => exact hR.reads (reads_pure _)
  | cons x xs ih => exact hR.bind (hf x) fun _ => ih

theorem ite (_hR : Path R) {p : Prop} [Decidable p] {x y : Tx α β} (hx : Follows R x)
    (hy : Follows R y) : Follows R (if p then x else y) := by
  split
  · exact hx
  · exact hy

end Path

end Tx

/-! ## What all operations follow -/

variable [Scalar α]

/-- The queries that write follow `R`, those that create a run apart. -/
structure Store.Admits (R : Database α → Database α → Prop) : Prop extends Tx.Path R where
  insertSpool : ∀ now new, Follows R (Store.insertSpool now new)
  insertItem : ∀ now run new, Follows R (Store.insertItem now run new)
  insertMaterial : ∀ now run new total, Follows R (Store.insertMaterial now run new total)
  insertPlate : ∀ now run new number name, Follows R (Store.insertPlate now run new number name)
  insertDeduction : ∀ now new, Follows R (Store.insertDeduction now new)
  setSpoolWeight : ∀ now id weight, Follows R (Store.setSpoolWeight now id weight)
  updateRun : ∀ now id patch, Follows R (Store.updateRun now id patch)
  endRun : ∀ now id current ending, Follows R (Store.endRun now id current ending)
  touchRun : ∀ now id, Follows R (Store.touchRun now id)
  setOutcome : ∀ id outcome, Follows R (Store.setOutcome id outcome)
  addOutcome : ∀ id added, Follows R (Store.addOutcome id added)
  setUnitCost : ∀ id cost, Follows R (Store.setUnitCost id cost)
  recordActual : ∀ now id reading, Follows R (Store.recordActual now id reading)
  resetActuals : ∀ now run, Follows R (Store.resetActuals now run)
  fixFigures : ∀ now id figures, Follows R (Store.fixFigures now id figures)
  deleteMaterial : ∀ run id, Follows R (Store.deleteMaterial run id)
  updatePlate : ∀ now id patch, Follows R (Store.updatePlate now id patch)
  movePlate : ∀ now id current next move, Follows R (Store.movePlate now id current next move)
  cancelOpenPlates : ∀ now run completedAt,
    Follows R (Store.cancelOpenPlates now run completedAt)
  deletePendingPlate : ∀ run id, Follows R (Store.deletePendingPlate run id)

omit [Scalar α] in
/-- Reading a run that has to take changes changes nothing. -/
theorem reads_runInProgress (id : Uuid) (action : String) :
    (Store.runInProgress id action : Tx α _).Reads :=
  (reads_run id).bind fun _ => (reads_check _).bind fun _ => reads_pure _

omit [Scalar α] in
theorem reads_plate (run id : Uuid) : (Store.plate run id : Tx α _).Reads :=
  (reads_tables.bind fun _ => reads_pure _).bind fun _ => reads_expect _ _

theorem reads_line (run id : Uuid) : (Store.line run id : Tx α _).Reads :=
  (reads_tables.bind fun _ => reads_pure _).bind fun _ => (reads_expect _ _).bind fun _ =>
    reads_pure _

section Workflows

variable {R : Database α → Database α → Prop} (h : Admits R)

include h

theorem Workflow.follows_createSpool (now : Timestamp) (new : NewSpool α) :
    Follows R (createSpool now new) :=
  h.atomically (h.after (reads_check _) fun _ => h.insertSpool now new)

/-- What belongs to a run that is new is added by queries that follow the relation. -/
theorem Workflow.follows_fillRun (now : Timestamp) (request : RunRequest α) (run : Uuid) :
    Follows R (do
      request.items.forM fun i => do
        let _ ← Store.insertItem now run i
      request.materials.forM fun m => do
        let _ ← Store.insertMaterial now run m m.estimatedTotal
      Store.snapshot run) := by
  refine h.bind (h.forM fun i => ?_) fun _ => h.bind (h.forM fun m => ?_) fun _ => ?_
  · exact h.first (h.insertItem now run i) fun _ => reads_pure _
  · exact h.first (h.insertMaterial now run m _) fun _ => reads_pure _
  · exact h.reads (reads_snapshot _)

/-- A run can be created where the query that creates it follows the relation too. -/
theorem Workflow.follows_createRun (hrun : ∀ now new, Follows R (Store.insertRun now new))
    (now : Timestamp) (request : RunRequest α) : Follows R (createRun now request) := by
  refine h.atomically (h.after (reads_check _) fun _ => ?_)
  refine h.bind (h.forM fun m => ?_) fun _ => h.bind (hrun now _) fun run => ?_
  · exact h.after (reads_tables.bind fun _ => reads_pure _) fun _ =>
      h.first (h.reads (reads_expect _ _)) fun _ => reads_pure _
  · exact follows_fillRun h now request run.id

theorem Workflow.follows_updateRun (now : Timestamp) (id : Uuid) (patch : RunPatch α) :
    Follows R (updateRun now id patch) := by
  have hwrite : Follows R (do expect (← Store.updateRun now id patch) (.notFound .run id)) :=
    h.first (h.updateRun now id patch) fun _ => reads_expect _ _
  refine h.atomically (h.after (reads_check _) fun _ => h.after (reads_run id) fun _ => ?_)
  exact h.ite (h.after (reads_check _) fun _ => hwrite) hwrite

theorem Workflow.follows_updateOutcome (now : Timestamp) (run id : Uuid) (outcome : Outcome) :
    Follows R (updateOutcome now run id outcome) := by
  refine h.atomically (h.after (reads_runInProgress run _) fun _ => ?_)
  refine h.after (reads_tables.bind fun _ => reads_pure _) fun _ => ?_
  refine h.after (reads_expect _ _) fun _ => h.after (reads_check _) fun _ => ?_
  refine h.bind (h.setOutcome id outcome) fun _ => h.after (reads_expect _ _) fun _ => ?_
  exact h.first (h.touchRun now run) fun _ => reads_pure _

theorem Workflow.follows_addMaterial (now : Timestamp) (run : Uuid) (new : NewMaterial α) :
    Follows R (addMaterial now run new) := by
  have hwrite : Follows R (do
      let row ← Store.insertMaterial now run new new.estimatedTotal
      Store.touchRun now run
      Store.line run row.id) :=
    h.bind (h.insertMaterial now run new _) fun _ =>
      h.first (h.touchRun now run) fun _ => reads_line run _
  refine h.atomically (h.after (reads_check _) fun _ => h.after (reads_runInProgress run _)
    fun _ => ?_)
  refine h.after (reads_tables.bind fun _ => reads_pure _) fun _ => ?_
  refine h.after (reads_expect _ _) fun _ => ?_
  refine h.after (reads_tables.bind fun _ => reads_pure _) fun _ => ?_
  exact h.ite (h.after (reads_refuse _) fun _ => hwrite) hwrite

theorem Workflow.follows_removeMaterial (now : Timestamp) (run id : Uuid) :
    Follows R (removeMaterial now run id : Tx α Unit) := by
  refine h.atomically (h.after (reads_runInProgress run _) fun _ => ?_)
  refine h.bind (h.deleteMaterial run id) fun _ => ?_
  exact h.ite (h.after (reads_refuse _) fun _ => h.touchRun now run) (h.touchRun now run)

theorem Workflow.follows_recordActual (now : Timestamp) (run id : Uuid)
    (request : MeasurementRequest α) : Follows R (recordActual now run id request) := by
  refine h.atomically (h.after (reads_check _) fun _ => h.after (reads_check _) fun reading => ?_)
  refine h.after (reads_runInProgress run _) fun _ => h.after (reads_line run id) fun _ => ?_
  refine h.bind (h.recordActual now id reading) fun _ => ?_
  exact h.first (h.touchRun now run) fun _ => reads_line run id

theorem Workflow.follows_resetActuals (now : Timestamp) (run : Uuid) :
    Follows R (resetActuals now run : Tx α _) := by
  refine h.atomically (h.after (reads_runInProgress run _) fun _ => ?_)
  refine h.bind (h.resetActuals now run) fun _ => h.first (h.touchRun now run) fun _ => ?_
  exact (reads_tables.bind fun _ => reads_pure _).bind fun _ => reads_pure _

omit [Scalar α] h in
theorem Workflow.reads_plateNumber (run : Uuid) (wanted : Option Int) :
    (plateNumber run wanted : Tx α Int).Reads := by
  unfold plateNumber
  cases wanted with
  | none => exact reads_tables.bind fun _ => (reads_require _ _).bind fun _ => reads_pure _
  | some number =>
    refine (reads_tables.bind fun _ => reads_pure _).bind fun taken => ?_
    cases taken with
    | true => exact (reads_refuse _).bind fun _ => reads_pure _
    | false => exact reads_pure _

theorem Workflow.follows_createPlate (now : Timestamp) (run : Uuid) (new : NewPlate α) :
    Follows R (createPlate now run new) := by
  have hwrite : Follows R (do
      let number ← plateNumber run new.number
      let name := (new.name.bind Text.nonblank?).getD s!"Plate {number}"
      let row ← Store.insertPlate now run new number name
      Store.touchRun now run
      return row) :=
    h.after (reads_plateNumber run _) fun _ => h.bind (h.insertPlate now run new _ _) fun _ =>
      h.first (h.touchRun now run) fun _ => reads_pure _
  refine h.atomically (h.after (reads_check _) fun _ => h.after (reads_runInProgress run _)
    fun _ => ?_)
  refine h.after (reads_tables.bind fun _ => reads_pure _) fun _ => ?_
  refine h.after (reads_expect _ _) fun _ => ?_
  exact h.ite (h.after (reads_refuse _) fun _ => hwrite) hwrite

theorem Workflow.follows_updatePlate (now : Timestamp) (run id : Uuid) (patch : PlatePatch α) :
    Follows R (updatePlate now run id patch) := by
  refine h.atomically (h.after (reads_check _) fun _ => h.after (reads_runInProgress run _)
    fun _ => ?_)
  refine h.after (reads_plate run id) fun _ => h.after (reads_check _) fun _ => ?_
  refine h.bind (h.updatePlate now id patch) fun _ => h.after (reads_expect _ _) fun _ => ?_
  exact h.first (h.touchRun now run) fun _ => reads_pure _

theorem Workflow.follows_deletePlate (now : Timestamp) (run id : Uuid) :
    Follows R (deletePlate now run id : Tx α Unit) := by
  refine h.atomically (h.after (reads_runInProgress run _) fun _ => ?_)
  refine h.after (reads_plate run id) fun _ => h.after (reads_check _) fun _ => ?_
  refine h.bind (h.deletePendingPlate run id) fun _ => ?_
  exact h.ite (h.after (reads_refuse _) fun _ => h.touchRun now run) (h.touchRun now run)

theorem Workflow.follows_rollIntoItem (run : Uuid) (plate : Plate α) (next : PlateStatus)
    (reported : Outcome) : Follows R (rollIntoItem run plate next reported) := by
  refine h.ite (h.reads (reads_pure _)) ?_
  refine h.after (reads_tables.bind fun _ => reads_pure _) fun _ => ?_
  refine h.after (reads_expect _ _) fun item => h.after (reads_check _) fun _ => ?_
  refine h.ite (h.bind (h.addOutcome item.id _) fun _ => ?_) (h.reads (reads_pure _))
  exact h.ite (h.reads (reads_refuse _)) (h.reads (reads_pure _))

theorem Workflow.follows_movePlate (now : Timestamp) (run id : Uuid) (next : PlateStatus)
    (action : String) (move : PlateMove α) : Follows R (movePlate now run id next action move) := by
  refine h.atomically (h.after (reads_runInProgress run _) fun _ => ?_)
  refine h.after (reads_plate run id) fun plate => h.after (reads_check _) fun _ => ?_
  -- the counts are checked only where the plate is completed
  suffices hwrite : Follows R _ from h.ite (h.after (reads_check _) fun _ => hwrite) hwrite
  refine h.bind (follows_rollIntoItem h run plate next _) fun _ => ?_
  refine h.bind (h.movePlate now id _ next _) fun row => ?_
  cases row with
  | some row => exact h.first (h.touchRun now run) fun _ => reads_pure _
  | none => exact h.reads ((reads_plate run id).bind fun _ => reads_refuse _)

theorem Workflow.follows_fixLines (now : Timestamp) :
    ∀ lines : List (PricedMaterial α), Follows R (fixLines now lines)
  | [] => h.reads (reads_pure _)
  | l :: rest => by
    refine h.bind (h.fixFigures now l.material.id _) fun _ => ?_
    exact h.first (follows_fixLines now rest) fun _ => reads_pure _

theorem Ledger.follows_deduct (now : Timestamp) (run : Uuid) (target : RunStatus)
    (reason : DeductionReason) (spools : List (Spool α)) (used : SpoolUsage α) :
    Follows R (deduct now run target reason spools used) := by
  refine h.after (reads_expect _ _) fun spool => ?_
  refine h.after (reads_tables.bind fun _ => reads_pure _) fun _ => ?_
  refine h.ite (h.reads (reads_pure _)) (h.ite (h.reads (reads_refuse _)) ?_)
  refine h.bind (h.insertDeduction now _) fun _ => h.ite ?_ (h.reads (reads_pure _))
  exact h.first (h.setSpoolWeight now _ _) fun _ => reads_pure _

theorem Ledger.follows_applyDeductions (now : Timestamp) (run : Uuid) (target : RunStatus)
    (reason : DeductionReason) (usage : UsageTable α) :
    Follows R (applyDeductions now run target reason usage) := by
  refine h.after (reads_tables.bind fun _ => reads_pure _) fun spools => ?_
  induction usage with
  | nil => exact h.reads (reads_pure _)
  | cons used rest ih =>
    exact h.bind (follows_deduct h now run target reason spools used) fun _ =>
      h.first ih fun _ => reads_pure _

theorem Workflow.follows_close (now : Timestamp) (run : Run α) (ending : RunEnding α) :
    Follows R (close now run ending) := by
  refine h.bind (h.cancelOpenPlates now run.id _) fun _ => ?_
  refine h.bind (h.endRun now run.id _ ending) fun _ => ?_
  refine h.ite (h.reads ?_) (h.reads (reads_snapshot _))
  exact (reads_run _).bind fun _ => (reads_refuse _).bind fun _ => reads_snapshot _

theorem Workflow.follows_completeRun (now : Timestamp) (id : Uuid) :
    Follows R (completeRun now id : Tx α _) := by
  refine h.atomically (h.after (reads_run id) fun run => h.after (reads_check _) fun _ => ?_)
  refine h.after (reads_tables.bind fun _ => reads_pure _) fun items => ?_
  refine h.after (reads_tables.bind fun _ => reads_pure _) fun lines => ?_
  refine h.after (reads_check _) fun _ => h.bind (follows_fixLines h now lines) fun _ => ?_
  refine h.bind (h.forM fun i => h.setUnitCost i.id _) fun _ => ?_
  exact h.bind (Ledger.follows_applyDeductions h now id _ _ _) fun _ =>
    follows_close h now run _

theorem Workflow.follows_cancelRun (now : Timestamp) (id : Uuid) (request : CancelRequest α) :
    Follows R (cancelRun now id request) := by
  refine h.atomically (h.after (reads_check _) fun usage => h.after (reads_run id) fun run => ?_)
  refine h.after (reads_check _) fun _ => ?_
  refine h.after (reads_tables.bind fun _ => reads_pure _) fun lines => ?_
  refine h.bind (follows_fixLines h now lines) fun _ => ?_
  exact h.bind (Ledger.follows_applyDeductions h now id _ _ _) fun _ =>
    follows_close h now run _

theorem Workflow.follows_failRun (catalog : Catalog) (now : Timestamp) (id : Uuid)
    (request : FailRequest α) : Follows R (failRun catalog now id request) := by
  refine h.atomically (h.after (reads_check _) fun _ => h.after (reads_run id) fun run => ?_)
  refine h.after (reads_check _) fun _ => ?_
  refine h.after (reads_tables.bind fun _ => reads_pure _) fun lines => ?_
  refine h.bind (follows_fixLines h now lines) fun _ => ?_
  exact h.bind (Ledger.follows_applyDeductions h now id _ _ _) fun _ =>
    follows_close h now run _

/-- What all queries that write follow, every operation follows. -/
theorem Operation.follows_perform (catalog : Catalog) (now : Timestamp) (op : Operation α)
    (hrun : ∀ request, op = .createRun request → ∀ now new, Follows R (Store.insertRun now new)) :
    Follows R (op.perform catalog now) := by
  cases op with
  | listSpools | listReasons | listRuns | showRun | listDeductions | listPlates =>
    exact h.reads (reads_perform rfl)
  | createSpool new => exact h.map (Workflow.follows_createSpool h now new) _
  | createRun request => exact h.map (Workflow.follows_createRun h (hrun request rfl) now _) _
  | updateRun run patch => exact h.map (Workflow.follows_updateRun h now run patch) _
  | completeRun run => exact h.map (Workflow.follows_completeRun h now run) _
  | cancelRun run request => exact h.map (Workflow.follows_cancelRun h now run request) _
  | failRun run request => exact h.map (Workflow.follows_failRun h catalog now run request) _
  | updateOutcome run item outcome =>
    exact h.map (Workflow.follows_updateOutcome h now run item outcome) _
  | addMaterial run new => exact h.map (Workflow.follows_addMaterial h now run new) _
  | recordActual run material request =>
    exact h.map (Workflow.follows_recordActual h now run material request) _
  | resetActuals run => exact h.map (Workflow.follows_resetActuals h now run) _
  | removeMaterial run material =>
    exact h.first (Workflow.follows_removeMaterial h now run material) fun _ => reads_pure _
  | createPlate run new => exact h.map (Workflow.follows_createPlate h now run new) _
  | updatePlate run plate patch => exact h.map (Workflow.follows_updatePlate h now run plate _) _
  | deletePlate run plate =>
    exact h.first (Workflow.follows_deletePlate h now run plate) fun _ => reads_pure _
  | startPlate run plate => exact h.map (Workflow.follows_movePlate h now run plate _ _ _) _
  | completePlate run plate report =>
    exact h.map (h.after (reads_check _) fun _ =>
      Workflow.follows_movePlate h now run plate _ _ _) _
  | failPlate run plate notes => exact h.map (Workflow.follows_movePlate h now run plate _ _ _) _
  | cancelPlate run plate notes =>
    exact h.map (Workflow.follows_movePlate h now run plate _ _ _) _

end Workflows

end PrintFarm
