import PrintFarm.Operation
import PrintFarm.Proofs.Consistency
import PrintFarm.Proofs.Deducting
import PrintFarm.Proofs.Usage

/-!
# What an accepted operation does to the tables

`Step catalog now t op t'` says that `t'` may come out of `t` when the operation `op` is accepted at
the time `now`.  There is one constructor for each way of changing the tables, and it holds all that
was checked on the way.  What is true of every accepted operation is proved by cases on `Step`.

* `Tables.closed` are the tables after the end of a run, and `Closes` says which operations end a
  run and what they write and deduct.
* `MovesPlate` says which operations move a plate, and `Item.gaining` what becomes of its item.
* `Step.consistent`: a step from consistent tables leads to consistent tables.
-/

namespace PrintFarm

open Store

variable {α : Type}

/-! ## The end of a run -/

section Ends

variable [Scalar α]

/-- No row of the journal keeps a run in progress from a deduction. -/
theorem Tables.Consistent.unjournaled {t : Tables α} (ht : t.Consistent) {r : Run α}
    (hr : r ∈ t.runs) (hprogress : r.status = .inProgress) (target : RunStatus)
    (u : SpoolUsage α) : Ledger.unjournaled t.deductions r.id target u = true := by
  have hnone : t.deductions.any (fun d => d.covers r.id target u.spool) = false := by
    refine List.any_eq_false.mpr fun d hd => ?_
    simp [NewDeduction.covers, ht.not_journaled hr hprogress d hd]
  simp [Ledger.unjournaled, hnone]

/-- The figures of a run that is completed after `duration`. -/
def completionMetrics (t : Tables α) (r : Run α) (duration : Option α) : RunMetrics α :=
  .compute (t.itemsOf r.id)
    ((t.linesOf r.id).map fun l => reconcile l.material l.spoolCostPerGram) duration
    r.estimatedHours

/-- A material line with the figures that are fixed at the present price of its spool. -/
def fixedLine (now : Timestamp) (spools : List (Spool α)) (m : Material α) : Material α :=
  match priced? spools m with
  | some l => fixedMaterial now (reconcile m l.spoolCostPerGram) m
  | none => m

theorem fixedLine_run (now : Timestamp) (spools : List (Spool α)) (m : Material α) :
    (fixedLine now spools m).run = m.run := by
  unfold fixedLine
  split <;> rfl

/-- The tables after the end of a run for which `rows` were journaled. -/
def Tables.closed (now : Timestamp) (t : Tables α) (r : Run α) (ending : RunEnding α)
    (rows : List (Deduction α)) : Tables α where
  spools := t.spools.map (Ledger.reweighed now rows)
  runs := changeRows (fun s => s.id = r.id) (endedRun now ending) t.runs
  items := changeRows (fun i => i.run = r.id && ending.status = .completed)
    (fun i => pricedItem ((completionMetrics t r ending.durationHours).unitCost i) i) t.items
  materials := changeRows (fun m => m.run = r.id) (fixedLine now t.spools) t.materials
  plates := changeRows (fun p => p.run = r.id && !p.status.isTerminal)
    (cancelledPlate now ending.completedAt) t.plates
  deductions := t.deductions ++ rows

/-- The operation ends the run `r`: it writes `ending` on it and deducts `usage`. -/
inductive Closes (catalog : Catalog) (now : Timestamp) (t : Tables α) (r : Run α) :
    Operation α → RunEnding α → DeductionReason → UsageTable α → Prop
  | complete (hmeasured : Workflow.completionComplaints (t.linesOf r.id) (t.itemsOf r.id) = []) :
    Closes catalog now t r (.completeRun r.id)
      { status := .completed
        completedAt := now
        durationHours := some (r.durationHours.getD (elapsedHours r.startedAt now)) }
      .consumption (positiveUsage (Workflow.consumed (t.linesOf r.id)))
  | cancel {request : CancelRequest α} {usage : UsageTable α}
      (husage : request.deductible = .ok usage) :
    Closes catalog now t r (.cancelRun r.id request)
      { status := .cancelled
        completedAt := now
        cancelMode := some request.mode
        notes := mergedNotes r.notes request.notes }
      .partialUsage usage
  | fail {request : FailRequest α}
      (hvalid : Workflow.failureComplaints catalog request.reason
        (positiveUsage request.waste) = []) :
    Closes catalog now t r (.failRun r.id request)
      { status := .failed
        completedAt := now
        wasteReason := some request.reason
        wasteGrams := some (Scalar.sum ((positiveUsage request.waste).map SpoolUsage.grams))
        notes := mergedNotes r.notes request.notes }
      .waste (positiveUsage request.waste)

end Ends

/-! ## Plates that move -/

/-- The operation moves a plate of a run to status `next`. -/
inductive MovesPlate [Scalar α] (now : Timestamp) :
    Operation α → Uuid → Uuid → PlateStatus → PlateMove α → Prop
  | start {run plate : Uuid} :
    MovesPlate now (.startPlate run plate) run plate .printing { startedAt := some now }
  | complete {run plate : Uuid} {report : PlateReport α} (hvalid : report.complaints = []) :
    MovesPlate now (.completePlate run plate report) run plate .completed
      { completedAt := some now
        successful := some report.successful
        failed := some report.failed
        actualPrintMinutes := report.actualPrintMinutes
        actualWeight := report.actualWeight
        notes := report.notes }
  | fail {run plate : Uuid} {notes : Option String} :
    MovesPlate now (.failPlate run plate notes) run plate .failed
      { completedAt := some now, notes }
  | cancel {run plate : Uuid} {notes : Option String} :
    MovesPlate now (.cancelPlate run plate notes) run plate .cancelled
      { completedAt := some now, notes }

/-- The item after a plate with `bed` prints of its model has moved to `next`. -/
def Item.gaining (i : Item α) (next : PlateStatus) (bed : Int) (reported : Outcome) : Item α :=
  i.withOutcome (i.outcome.plus (i.gained next bed reported))

/-! ## Steps -/

/-- The operation only reads. -/
def Operation.isReading : Operation α → Bool
  | .listSpools | .listReasons | .listRuns _ | .showRun _ | .listDeductions _ | .listPlates _ =>
    true
  | _ => false

/-- The run that the operation ends if it is accepted. -/
def Operation.ends? : Operation α → Option Uuid
  | .completeRun run | .cancelRun run _ | .failRun run _ => some run
  | _ => none

theorem Operation.ends?_of_isReading {op : Operation α} (h : op.isReading = true) :
    op.ends? = none := by
  cases op <;> simp_all [isReading, ends?]

/-- The tables after a change in the run. -/
def Tables.touched (now : Timestamp) (t : Tables α) (run : Uuid) : Tables α :=
  { t with runs := changeRows (fun r => r.id = run) (touchedRun now) t.runs }

/-- The run is there and takes changes. -/
def Tables.Takes (t : Tables α) (run : Uuid) : Prop :=
  ∃ r ∈ t.runs, r.id = run ∧ r.status = .inProgress

variable [Scalar α]

/-- The tables `t'` come out of `t` when the operation is accepted. -/
inductive Step (catalog : Catalog) (now : Timestamp) (t : Tables α) :
    Operation α → Tables α → Prop
  | read {op : Operation α} (hread : op.isReading = true) : Step catalog now t op t
  | createSpool {new : NewSpool α} {id : Uuid}
      (hvalid : new.complaints = [])
      (hid : ∀ s ∈ t.spools, ¬s.id = id)
      (hweight : Scalar.isNaN new.weight = false ∧ isNotNegative (some new.weight) = true)
      (hprice : Scalar.isNaN new.costPerGram = false ∧
        isNotNegative (some new.costPerGram) = true) :
    Step catalog now t (.createSpool new)
      { t with spools := t.spools ++ [spoolRow now id new new.weight new.costPerGram] }
  | createRun {request : RunRequest α} {id : Uuid} {counter : Int} {r : Run α}
      {items : List (Item α)} {materials : List (Material α)}
      (hvalid : request.complaints = [])
      (hrow : r = runRow now id counter request.run request.run.estimatedHours)
      (haccepts : acceptsRun r = true)
      (hid : ∀ s ∈ t.runs, ¬s.id = r.id)
      (hnumber : ∀ s ∈ t.runs, ¬s.number = r.number)
      (hitems : List.Forall₂ (fun new i => i = itemRow now r.id i.id new ∧ acceptsItem i = true)
        request.items items)
      (hitemIds : ((t.items ++ items).map Item.id).Nodup)
      (hmodels : ((t.items ++ items).map fun i => (i.run, i.model)).Nodup)
      (hmaterials : List.Forall₂ (fun new m =>
        m = materialRow now r.id m.id new new.estimatedModel new.estimatedTotal ∧
          acceptsMaterial m = true) request.materials materials)
      (hmaterialIds : ((t.materials ++ materials).map Material.id).Nodup)
      (hspools : ((t.materials ++ materials).map fun m => (m.run, m.spool)).Nodup)
      (hstock : ∀ m ∈ materials, m.spool ∈ t.spools.map Spool.id) :
    Step catalog now t (.createRun request)
      { t with
        runs := t.runs ++ [r], items := t.items ++ items, materials := t.materials ++ materials }
  | updateRun {run : Uuid} {patch : RunPatch α} {r : Run α}
      (hvalid : patch.complaints = [])
      (hr : r ∈ t.runs) (hrun : r.id = run)
      (hmutable : patch.isNotesOnly = true ∨ r.status = .inProgress)
      (haccepts : acceptsRun (editedRun now patch r) = true) :
    Step catalog now t (.updateRun run patch)
      { t with runs := changeRows (fun r => r.id = run) (editedRun now patch) t.runs }
  | close {op : Operation α} {r : Run α} {ending : RunEnding α} {reason : DeductionReason}
      {usage : UsageTable α} {rows : List (Deduction α)}
      (hr : r ∈ t.runs) (hprogress : r.status = .inProgress)
      (hcloses : Closes catalog now t r op ending reason usage)
      (haccepts : acceptsRun (endedRun now ending r) = true)
      (hrows : List.Forall₂ (Ledger.Deducted now r.id ending.status reason t.spools) usage rows) :
    Step catalog now t op (t.closed now r ending rows)
  | updateOutcome {run item : Uuid} {outcome : Outcome} {i : Item α}
      (htakes : t.Takes run)
      (hi : i ∈ t.items) (hid : i.id = item) (hrun : i.run = run)
      (haccepts : acceptsItem (i.withOutcome outcome) = true) :
    Step catalog now t (.updateOutcome run item outcome)
      (Tables.touched now { t with
        items := changeRows (fun i => i.id = item) (fun i => i.withOutcome outcome) t.items } run)
  | addMaterial {run : Uuid} {new : NewMaterial α} {m : Material α}
      (hvalid : new.complaints "" = [])
      (htakes : t.Takes run)
      (hrow : m = materialRow now run m.id new new.estimatedModel new.estimatedTotal)
      (haccepts : acceptsMaterial m = true)
      (hid : ∀ l ∈ t.materials, ¬l.id = m.id)
      (hspool : ∀ l ∈ t.materials, ¬l.run = run ∨ ¬l.spool = new.spool)
      (hstock : new.spool ∈ t.spools.map Spool.id) :
    Step catalog now t (.addMaterial run new)
      (Tables.touched now { t with materials := t.materials ++ [m] } run)
  | recordActual {run material : Uuid} {request : MeasurementRequest α}
      {measurement : Measurement α} {reading : Reading α} {m : Material α}
      (hmeasurement : request.measurement = .ok measurement)
      (hreading : measurement.reading = .ok reading)
      (htakes : t.Takes run)
      (hm : m ∈ t.materials) (hid : m.id = material) (hrun : m.run = run)
      (haccepts : acceptsMaterial (m.record reading) = true) :
    Step catalog now t (.recordActual run material request)
      (Tables.touched now { t with
        materials := changeRows (fun m => m.id = material)
          (fun m => touchedMaterial now (m.record reading)) t.materials } run)
  | resetActuals {run : Uuid} (htakes : t.Takes run)
      (haccepts : ∀ m ∈ t.materials, m.run = run →
        acceptsMaterial (m.record ⟨.manual, m.estimatedTotal, none, none⟩) = true) :
    Step catalog now t (.resetActuals run)
      (Tables.touched now { t with
        materials := changeRows (fun m => m.run = run)
          (fun m => touchedMaterial now (m.record ⟨.manual, m.estimatedTotal, none, none⟩))
          t.materials } run)
  | removeMaterial {run material : Uuid} (htakes : t.Takes run) :
    Step catalog now t (.removeMaterial run material)
      (Tables.touched now { t with
        materials := t.materials.filter fun m => !(m.id = material && m.run = run) } run)
  | createPlate {run : Uuid} {new : NewPlate α} {number : Int} {name : String} {p : Plate α}
      (hvalid : new.complaints = [])
      (htakes : t.Takes run)
      (hplanned : ∃ i ∈ t.items, i.run = run ∧ i.model = new.model ∧
        new.printsPerPlate ≤ i.quantity)
      (hrow : p = plateRow now run p.id new number name)
      (haccepts : acceptsPlate p = true)
      (hid : ∀ q ∈ t.plates, ¬q.id = p.id)
      (hnumber : ∀ q ∈ t.plates, ¬q.run = run ∨ ¬q.number = number) :
    Step catalog now t (.createPlate run new)
      (Tables.touched now { t with plates := t.plates ++ [p] } run)
  | updatePlate {run plate : Uuid} {patch : PlatePatch α} {p : Plate α}
      (hvalid : patch.complaints = [])
      (htakes : t.Takes run)
      (hp : p ∈ t.plates) (hid : p.id = plate) (hrun : p.run = run)
      (hopen : p.status.isTerminal = false)
      (haccepts : acceptsPlate (editedPlate now patch p) = true) :
    Step catalog now t (.updatePlate run plate patch)
      (Tables.touched now { t with
        plates := changeRows (fun p => p.id = plate) (editedPlate now patch) t.plates } run)
  | deletePlate {run plate : Uuid} {p : Plate α}
      (htakes : t.Takes run)
      (hp : p ∈ t.plates) (hid : p.id = plate) (hrun : p.run = run)
      (hpending : p.status = .pending) :
    Step catalog now t (.deletePlate run plate)
      (Tables.touched now { t with plates := t.plates.filter fun p => !(p.id = plate) } run)
  | movePlate {op : Operation α} {run plate : Uuid} {next : PlateStatus} {move : PlateMove α}
      {p : Plate α}
      (hmoves : MovesPlate now op run plate next move)
      (htakes : t.Takes run)
      (hp : p ∈ t.plates) (hid : p.id = plate) (hrun : p.run = run)
      (hnext : p.status.canBecome next = true)
      (hcounts : next = .completed →
        (printCountComplaints p.printsPerPlate move.reported : List (FieldError α)) = [])
      (hplanned : (rollup next p.printsPerPlate move.reported).isEmpty = false →
        ∃ i ∈ t.items, i.run = run ∧ i.model = p.model)
      (hfits : ∀ i ∈ t.items, i.run = run → i.model = p.model →
        acceptsItem (i.gaining next p.printsPerPlate move.reported) = true)
      (haccepts : acceptsPlate (movedPlate now next (move.counted next p.printsPerPlate) p) =
        true) :
    Step catalog now t op
      (Tables.touched now { t with
        items := changeRows (fun i => i.run = run && i.model = p.model)
          (fun i => i.gaining next p.printsPerPlate move.reported) t.items
        plates := changeRows (fun p => p.id = plate)
          (movedPlate now next (move.counted next p.printsPerPlate)) t.plates } run)

section Ends

variable {catalog : Catalog} {now : Timestamp} {t t' : Tables α} {op : Operation α} {r : Run α}
  {ending : RunEnding α} {reason : DeductionReason} {usage : UsageTable α}

theorem Closes.ends?_eq (h : Closes catalog now t r op ending reason usage) :
    op.ends? = some r.id := by
  cases h <;> rfl

theorem Closes.isTerminal (h : Closes catalog now t r op ending reason usage) :
    ending.status.isTerminal = true := by
  cases h <;> rfl

/-- What an operation that ends a run writes and deducts is determined. -/
theorem Closes.unique {ending' : RunEnding α} {reason' : DeductionReason} {usage' : UsageTable α}
    (h : Closes catalog now t r op ending reason usage)
    (h' : Closes catalog now t r op ending' reason' usage') :
    ending' = ending ∧ reason' = reason ∧ usage' = usage := by
  cases h with
  | complete =>
    cases h' with
    | complete => exact ⟨rfl, rfl, rfl⟩
  | cancel husage =>
    cases h' with
    | cancel husage' => exact ⟨rfl, rfl, Except.ok.inj (husage'.symm.trans husage)⟩
  | fail =>
    cases h' with
    | fail => exact ⟨rfl, rfl, rfl⟩

/-- Which plate an operation moves, and how, is determined. -/
theorem MovesPlate.unique {run run' plate plate' : Uuid} {next next' : PlateStatus}
    {move move' : PlateMove α} (h : MovesPlate now op run plate next move)
    (h' : MovesPlate now op run' plate' next' move') :
    run' = run ∧ plate' = plate ∧ next' = next ∧ move' = move := by
  cases h <;> cases h' <;> exact ⟨rfl, rfl, rfl, rfl⟩

/-- The operation that ends a run deducts from each spool once. -/
theorem Closes.nodup_spools (h : Closes catalog now t r op ending reason usage) :
    (usage.map SpoolUsage.spool).Nodup := by
  cases h with
  | complete => exact (positiveUsage_sorted _).nodup
  | cancel husage =>
    rcases CancelRequest.deductible_eq_ok.mp husage with ⟨-, rfl⟩ | ⟨-, -, rfl⟩
    · exact List.nodup_nil
    · exact (positiveUsage_sorted _).nodup
  | fail => exact (positiveUsage_sorted _).nodup

/-- A run is completed with what its lines have used, and with the hours that were entered or those
since its start. -/
theorem Closes.of_completed (h : Closes catalog now t r op ending reason usage)
    (hcompleted : ending.status = .completed) :
    op = .completeRun r.id ∧
      usage = positiveUsage (Workflow.consumed (t.linesOf r.id)) ∧
      ending.durationHours = some (r.durationHours.getD (elapsedHours r.startedAt now)) := by
  cases h with
  | complete => exact ⟨rfl, rfl, rfl⟩
  | cancel => exact nomatch hcompleted
  | fail => exact nomatch hcompleted

/-- Only the end of a run writes to the journal. -/
theorem Step.deductions_eq (h : Step catalog now t op t') (hop : op.ends? = none) :
    t'.deductions = t.deductions := by
  cases h with
  | close _ _ hcloses =>
    rw [hcloses.ends?_eq] at hop
    exact nomatch hop
  | _ => rfl

/-- An accepted operation that ends a run is the end of the run. -/
theorem Step.closes {run : Uuid} (h : Step catalog now t op t') (hop : op.ends? = some run) :
    ∃ r ending reason usage rows, r.id = run ∧ r ∈ t.runs ∧ r.status = .inProgress ∧
      Closes catalog now t r op ending reason usage ∧
      List.Forall₂ (Ledger.Deducted now r.id ending.status reason t.spools) usage rows ∧
      t' = t.closed now r ending rows := by
  cases h with
  | close hr hprogress hcloses _ hrows =>
    have hrun := hcloses.ends?_eq.symm.trans hop
    exact ⟨_, _, _, _, _, Option.some.inj hrun, hr, hprogress, hcloses, hrows, rfl⟩
  | read hread =>
    rw [Operation.ends?_of_isReading hread] at hop
    exact nomatch hop
  | movePlate hmoves => cases hmoves <;> exact nomatch hop
  | _ => exact nomatch hop

end Ends

/-! ## Steps keep the tables consistent -/

omit [Scalar α] in
theorem Tables.Takes.of_find? {t : Tables α} {run : Uuid} {r : Run α}
    (hr : t.runs.find? (fun r => r.id = run) = some r) (hp : r.status = .inProgress) :
    t.Takes run :=
  ⟨r, List.mem_of_find?_eq_some hr, by simpa using List.find?_some hr, hp⟩

omit [Scalar α] in
theorem Tables.Takes.mem {t : Tables α} {run : Uuid} (h : t.Takes run) :
    run ∈ t.runs.map Run.id := by
  obtain ⟨r, hr, rfl, -⟩ := h
  exact List.mem_map_of_mem hr

namespace Tables.Consistent

variable {t : Tables α}

theorem touched (h : t.Consistent) (now : Timestamp) (run : Uuid) :
    (t.touched now run).Consistent :=
  h.changeRuns (fun _ _ _ => rfl) fun _ _ _ _ => rfl

/-- The run that ends has no row yet, so its new rows and its new status agree. -/
theorem closed (h : t.Consistent) {now : Timestamp} {r : Run α} {ending : RunEnding α}
    {reason : DeductionReason} {usage : UsageTable α} {rows : List (Deduction α)}
    (hr : r ∈ t.runs) (hprogress : r.status = .inProgress)
    (hrows : List.Forall₂ (Ledger.Deducted now r.id ending.status reason t.spools) usage rows) :
    (t.closed now r ending rows).Consistent := by
  have hdeducted : ∀ d ∈ rows, ∃ u ∈ usage,
      Ledger.Deducted now r.id ending.status reason t.spools u d :=
    fun d hd => exists_of_forall₂ hrows hd
  have hruns : Tables.Consistent { t with
      runs := changeRows (fun s => s.id = r.id) (endedRun now ending) t.runs } := by
    refine h.changeRuns (fun _ _ _ => rfl) fun s hs hsel hend => ?_
    obtain rfl := eq_of_key_eq h.runIds hs hr (by simpa using hsel)
    rw [hprogress] at hend
    exact nomatch hend
  refine ((((hruns.changeSpools ?_ ?_).changeItems ?_ ?_).changeMaterials ?_).changePlates
    ?_ ?_).addDeductions ?_ ?_ ?_
  · exact fun s _ => Ledger.reweighed_id rows s
  · intro s hs
    unfold Ledger.reweighed
    split
    · rename_i d hd
      obtain ⟨u, -, hu⟩ := hdeducted d (List.mem_of_find?_eq_some hd)
      exact ⟨hu.numbers.2.2, hu.notNegative⟩
    · exact h.weights s hs
  · exact fun _ _ _ => ⟨rfl, rfl, rfl⟩
  · exact fun i hi _ => h.outcomes i hi
  · intro m _ _
    unfold fixedLine
    split <;> exact ⟨rfl, rfl, rfl⟩
  · exact fun _ _ _ => ⟨rfl, rfl⟩
  · exact fun p hp _ => h.beds p hp
  · intro d hd
    obtain ⟨u, -, hu⟩ := hdeducted d hd
    obtain ⟨s, hs, hid, -⟩ := hu.stock
    refine List.mem_map.mpr ⟨_, List.mem_map_of_mem hs, ?_⟩
    rw [Ledger.reweighed_id, hid]
  · intro d hd
    obtain ⟨u, -, hu⟩ := hdeducted d hd
    refine List.mem_map.mpr ⟨_, mem_changeRows.mpr ⟨r, hr, rfl⟩, ?_⟩
    rw [if_pos (by simp), hu.run_eq, hu.target_eq]
    rfl
  · intro d hd
    obtain ⟨u, -, hu⟩ := hdeducted d hd
    rw [hu.target_eq]
    exact hu.ends

end Tables.Consistent

/-- Steps keep the tables consistent. -/
theorem Step.consistent {catalog : Catalog} {now : Timestamp} {t t' : Tables α}
    {op : Operation α} (h : t.Consistent) (hstep : Step catalog now t op t') : t'.Consistent := by
  cases hstep with
  | read => exact h
  | createSpool _ hid hweight => exact h.addSpool hid hweight
  | @createRun _ _ _ r items materials _ _ _ hid _ hitems hitemIds hmodels hmaterials
      hmaterialIds hspools hstock =>
    have hown : r.id ∈ (t.runs ++ [r]).map Run.id := by simp
    refine (((h.addRun hid).addItems hitemIds hmodels ?_ ?_).addMaterials hmaterialIds hspools
      ?_ hstock)
    · intro i hi
      obtain ⟨new, -, hnew, -⟩ := exists_of_forall₂ hitems hi
      rw [hnew]
      exact hown
    · intro i hi
      obtain ⟨new, -, -, haccepts⟩ := exists_of_forall₂ hitems hi
      exact haccepts
    · intro m hm
      obtain ⟨new, -, hnew, -⟩ := exists_of_forall₂ hmaterials hm
      rw [hnew]
      exact hown
  | updateRun => exact h.changeRuns (fun _ _ _ => rfl) fun _ _ _ _ => rfl
  | close hr hprogress _ _ hrows => exact h.closed hr hprogress hrows
  | updateOutcome _ hi hid _ haccepts =>
    refine (h.changeItems ?_ ?_).touched ..
    · exact fun _ _ _ => ⟨rfl, rfl, rfl⟩
    · intro j hj hsel
      obtain rfl := eq_of_key_eq h.itemIds hj hi (by rw [hid]; simpa using hsel)
      exact haccepts
  | @addMaterial run new m _ htakes hrow _ hid hspool hstock =>
    refine (h.addMaterials (nodup_map_concat h.materialIds hid)
      (nodup_map_concat h.materialSpools ?_) ?_ ?_).touched ..
    · intro l hl heq
      obtain ⟨hrun, hsame⟩ := Prod.mk.injEq .. ▸ heq
      rw [hrow] at hrun hsame
      rcases hspool l hl with hne | hne
      · exact hne hrun
      · exact hne hsame
    · intro l hl
      obtain rfl := List.mem_singleton.mp hl
      rw [hrow]
      exact htakes.mem
    · intro l hl
      obtain rfl := List.mem_singleton.mp hl
      rw [hrow]
      exact hstock
  | recordActual =>
    refine (h.changeMaterials ?_).touched ..
    exact fun _ _ _ => ⟨rfl, rfl, rfl⟩
  | resetActuals =>
    refine (h.changeMaterials ?_).touched ..
    exact fun _ _ _ => ⟨rfl, rfl, rfl⟩
  | removeMaterial => exact (h.filterMaterials _).touched ..
  | createPlate _ htakes _ hrow haccepts hid _ =>
    refine (h.addPlate hid ?_ haccepts).touched ..
    rw [hrow]
    exact htakes.mem
  | updatePlate _ _ hp hid _ _ haccepts =>
    refine (h.changePlates ?_ ?_).touched ..
    · exact fun _ _ _ => ⟨rfl, rfl⟩
    · intro q hq hsel
      obtain rfl := eq_of_key_eq h.plateIds hq hp (by rw [hid]; simpa using hsel)
      exact haccepts
  | deletePlate => exact (h.filterPlates _).touched ..
  | movePlate _ _ hp hid _ _ _ _ hfits haccepts =>
    refine ((h.changeItems ?_ ?_).changePlates ?_ ?_).touched ..
    · exact fun _ _ _ => ⟨rfl, rfl, rfl⟩
    · intro i hi hsel
      obtain ⟨hrun, hmodel⟩ := Bool.and_eq_true_iff.mp hsel
      exact hfits i hi (of_decide_eq_true hrun) (of_decide_eq_true hmodel)
    · exact fun _ _ _ => ⟨rfl, rfl⟩
    · intro q hq hsel
      obtain rfl := eq_of_key_eq h.plateIds hq hp (by rw [hid]; simpa using hsel)
      exact haccepts

end PrintFarm
