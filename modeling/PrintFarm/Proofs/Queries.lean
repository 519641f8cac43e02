import PrintFarm.Proofs.Transaction
import PrintFarm.Store.Journal
import PrintFarm.Store.Spools
import PrintFarm.Store.View
import PrintFarm.Plate.Lifecycle
import PrintFarm.Run.Request

/-!
# What each query gives

One lemma for each query of the store: exactly when it gives an answer, which one, and which
database it leaves.  Proofs about workflows use these lemmas and do not open the queries.

The lemmas are equivalences.  A query that only reads leaves `db' = db`.  A query that writes leaves
the tables with the changed rows, and the sequences with what was drawn.
-/

namespace PrintFarm

variable {α : Type}

/-! ## Checks -/

@[simp] theorem complaint_eq_nil {wrong : Bool} {field : String} {problem : Problem α} :
    complaint wrong field problem = [] ↔ wrong = false := by
  cases wrong <;> simp [complaint]

/-- An outcome is in order if both counts are from zero up and together within the plan. -/
theorem Outcome.complaints_eq_nil {place : String} {quantity : Int} {o : Outcome} :
    (o.complaints place quantity : List (FieldError α)) = [] ↔
      0 ≤ o.successful ∧ 0 ≤ o.failed ∧ o.successful + o.failed ≤ quantity := by
  simp only [complaints, List.append_eq_nil_iff, complaint_eq_nil, decide_eq_false_iff_not]
  omega

/-- Reported counts are in order if both are from zero up and together within the bed. -/
theorem printCountComplaints_eq_nil {bed : Int} {o : Outcome} :
    (printCountComplaints bed o : List (FieldError α)) = [] ↔
      0 ≤ o.successful ∧ 0 ≤ o.failed ∧ o.successful + o.failed ≤ bed := by
  simp only [printCountComplaints, List.append_eq_nil_iff, complaint_eq_nil,
    decide_eq_false_iff_not]
  omega

@[simp] theorem refuseIfAny_eq_ok {complaints : List (FieldError α)} {u : Unit} :
    refuseIfAny complaints = .ok u ↔ complaints = [] := by
  cases complaints <;> simp [refuseIfAny]

theorem refuseIfAny_of_ne_nil {complaints : List (FieldError α)} (h : complaints ≠ []) :
    refuseIfAny complaints = .error (.invalid complaints) := by
  rw [refuseIfAny, if_neg (by simpa using h)]

/-- What follows a check is done where nothing is wrong. -/
theorem refuseIfAny_bind_eq_ok {β : Type} {complaints : List (FieldError α)}
    {rest : Unit → Except (Refusal α) β} {b : β} :
    refuseIfAny complaints >>= rest = .ok b ↔ complaints = [] ∧ rest () = .ok b := by
  cases complaints with
  | nil => exact ⟨fun h => ⟨rfl, h⟩, fun h => h.2⟩
  | cons first others => exact ⟨(nomatch ·), fun h => nomatch h.1⟩

theorem RunStatus.isTerminal_eq_false {s : RunStatus} : s.isTerminal = false ↔ s = .inProgress := by
  cases s <;> simp [isTerminal]

@[simp] theorem Run.checkMutable_eq_ok {r : Run α} {action : String} {u : Unit} :
    r.checkMutable action = .ok u ↔ r.status = .inProgress := by
  rw [← RunStatus.isTerminal_eq_false]
  unfold checkMutable
  cases r.status.isTerminal <;> simp

@[simp] theorem Run.checkMutable_eq_error {r : Run α} {action : String} {why : Refusal α} :
    r.checkMutable action = .error why ↔
      r.status.isTerminal = true ∧ why = r.illegal action := by
  unfold checkMutable
  cases r.status.isTerminal <;> simp [eq_comm]

@[simp] theorem Run.checkMove_eq_ok {r : Run α} {next : RunStatus} {action : String} {u : Unit} :
    r.checkMove next action = .ok u ↔ r.status = .inProgress ∧ next.isTerminal = true := by
  rw [← RunStatus.isTerminal_eq_false]
  unfold checkMove RunStatus.canBecome
  cases r.status.isTerminal <;> cases next.isTerminal <;> simp

theorem Run.checkMove_eq_error {r : Run α} {next : RunStatus} {action : String} {why : Refusal α} :
    r.checkMove next action = .error why ↔
      (r.status.isTerminal = true ∨ next.isTerminal = false) ∧ why = r.illegal action := by
  unfold checkMove RunStatus.canBecome
  cases r.status.isTerminal <;> cases next.isTerminal <;> simp [eq_comm]

theorem PlateStatus.not_isTerminal_of_canBecome {current next : PlateStatus}
    (h : current.canBecome next = true) : current.isTerminal = false := by
  cases current with
  | pending | printing => rfl
  | completed | failed | cancelled => cases next <;> exact nomatch h

@[simp] theorem Plate.checkMove_eq_ok {p : Plate α} {next : PlateStatus} {action : String}
    {u : Unit} : p.checkMove next action = .ok u ↔ p.status.canBecome next = true := by
  unfold checkMove
  cases p.status.canBecome next <;> simp

@[simp] theorem Plate.checkEditable_eq_ok {p : Plate α} {action : String} {u : Unit} :
    p.checkEditable action = .ok u ↔ p.status.isTerminal = false := by
  unfold checkEditable
  cases p.status.isTerminal <;> simp

@[simp] theorem Plate.checkDeletable_eq_ok {p : Plate α} {u : Unit} :
    p.checkDeletable = .ok u ↔ p.status = .pending := by
  unfold checkDeletable
  by_cases h : p.status = .pending <;> simp [h]

/-- A cancelled run has used nothing, or what is reported, which has to be something. -/
theorem CancelRequest.deductible_eq_ok [Scalar α] {request : CancelRequest α}
    {usage : UsageTable α} :
    request.deductible = .ok usage ↔
      request.mode = .fullReversal ∧ usage = [] ∨
        request.mode = .recordPartial ∧ positiveUsage request.usage ≠ [] ∧
          usage = positiveUsage request.usage := by
  unfold deductible
  cases request.mode with
  | fullReversal =>
    constructor
    · intro h
      cases h
      exact Or.inl ⟨rfl, rfl⟩
    · intro h
      rcases h with ⟨-, rfl⟩ | ⟨hmode, -⟩
      · rfl
      · exact nomatch hmode
  | recordPartial =>
    by_cases hnone : positiveUsage request.usage = []
    · simp [hnone]
    · simp only [hnone, List.isEmpty_iff, if_false]
      constructor
      · intro h
        cases h
        exact Or.inr ⟨trivial, hnone, rfl⟩
      · intro h
        rcases h with ⟨hmode, -⟩ | ⟨-, -, rfl⟩
        · exact nomatch hmode
        · rfl

theorem Scalar.stored?_eq_some [Scalar α] {x y : α} :
    Scalar.stored? x = some y ↔ Scalar.isNaN x = false ∧ y = x := by
  unfold Scalar.stored?
  cases Scalar.isNaN x <;> simp [eq_comm]

end PrintFarm

/-! ## What belongs to a run -/

namespace PrintFarm.Tables

variable {α : Type}

def itemsOf (t : Tables α) (run : Uuid) : List (Item α) :=
  t.items.filter fun i => i.run = run

def materialsOf (t : Tables α) (run : Uuid) : List (Material α) :=
  t.materials.filter fun m => m.run = run

def platesOf (t : Tables α) (run : Uuid) : List (Plate α) :=
  t.plates.filter fun p => p.run = run

def deductionsOf (t : Tables α) (run : Uuid) : List (Deduction α) :=
  t.deductions.filter fun d => d.run = run

/-- The material lines of a run with the labels and prices of their spools. -/
def linesOf (t : Tables α) (run : Uuid) : List (PricedMaterial α) :=
  (t.materialsOf run).filterMap (Store.priced? t.spools)

end PrintFarm.Tables

namespace PrintFarm.Store

open Tx

section Reading

variable {α : Type} {db db' : Database α} {id run : Uuid}

/-! ## Reading -/

@[simp] theorem gives_run? {r : Option (Run α)} :
    Gives (run? id) db r db' ↔ r = db.tables.runs.find? (fun r => r.id = id) ∧ db' = db :=
  gives_read _

@[simp] theorem refuses_run? {why : Refusal α} : ¬Refuses (run? id) db why db' :=
  refuses_read _

@[simp] theorem gives_run {r : Run α} :
    Gives (Store.run id) db r db' ↔
      db.tables.runs.find? (fun r => r.id = id) = some r ∧ db' = db := by
  simp only [Store.run, gives_bind, gives_run?, gives_expect]
  constructor
  · intro h
    obtain ⟨_, _, ⟨rfl, rfl⟩, hr, rfl⟩ := h
    exact ⟨hr, rfl⟩
  · intro h
    obtain ⟨hr, rfl⟩ := h
    exact ⟨_, _, ⟨rfl, rfl⟩, hr, rfl⟩

@[simp] theorem gives_runInProgress {action : String} {r : Run α} :
    Gives (runInProgress id action) db r db' ↔
      db.tables.runs.find? (fun r => r.id = id) = some r ∧ r.status = .inProgress ∧ db' = db := by
  simp only [runInProgress, gives_bind, gives_run, gives_check, gives_pure,
    Run.checkMutable_eq_ok]
  constructor
  · intro h
    obtain ⟨s, _, ⟨hs, rfl⟩, _, _, ⟨hp, rfl⟩, rfl, rfl⟩ := h
    exact ⟨hs, hp, rfl⟩
  · intro h
    obtain ⟨hr, hp, rfl⟩ := h
    exact ⟨r, _, ⟨hr, rfl⟩, (), _, ⟨hp, rfl⟩, rfl, rfl⟩

/-- A run that has ended refuses changes, whatever the action is called. -/
theorem refuses_runInProgress {r : Run α} {action : String}
    (hr : db.tables.runs.find? (fun r => r.id = id) = some r) (ht : r.status.isTerminal = true) :
    Refuses (runInProgress id action) db (r.illegal action) db := by
  refine refuses_bind.mpr (Or.inr ⟨r, db, gives_run.mpr ⟨hr, rfl⟩, ?_⟩)
  refine refuses_bind.mpr (Or.inl (refuses_check.mpr ⟨?_, rfl⟩))
  exact Run.checkMutable_eq_error.mpr ⟨ht, rfl⟩

@[simp] theorem gives_spool? {s : Option (Spool α)} :
    Gives (spool? id) db s db' ↔ s = db.tables.spools.find? (fun s => s.id = id) ∧ db' = db :=
  gives_read _

@[simp] theorem refuses_spool? {why : Refusal α} : ¬Refuses (spool? id) db why db' :=
  refuses_read _

@[simp] theorem gives_item? {i : Option (Item α)} :
    Gives (item? run id) db i db' ↔
      i = db.tables.items.find? (fun i => i.id = id && i.run = run) ∧ db' = db :=
  gives_read _

@[simp] theorem gives_itemFor? {model : Uuid} {i : Option (Item α)} :
    Gives (itemFor? run model) db i db' ↔
      i = db.tables.items.find? (fun i => i.run = run && i.model = model) ∧ db' = db :=
  gives_read _

@[simp] theorem gives_itemsOf {items : List (Item α)} :
    Gives (itemsOf run) db items db' ↔ items = db.tables.itemsOf run ∧ db' = db :=
  gives_read _

@[simp] theorem gives_materialsOf {lines : List (PricedMaterial α)} :
    Gives (materialsOf run) db lines db' ↔ lines = db.tables.linesOf run ∧ db' = db :=
  gives_read _

@[simp] theorem gives_material? {line : Option (PricedMaterial α)} :
    Gives (material? run id) db line db' ↔
      line = (db.tables.materials.find? fun m => m.id = id && m.run = run).bind
        (priced? db.tables.spools) ∧ db' = db :=
  gives_read _

@[simp] theorem gives_plate? {p : Option (Plate α)} :
    Gives (plate? run id) db p db' ↔
      p = db.tables.plates.find? (fun p => p.id = id && p.run = run) ∧ db' = db :=
  gives_read _

@[simp] theorem gives_plate {p : Plate α} :
    Gives (Store.plate run id) db p db' ↔
      db.tables.plates.find? (fun p => p.id = id && p.run = run) = some p ∧ db' = db := by
  simp only [Store.plate, gives_bind, gives_plate?, gives_expect]
  constructor
  · intro h
    obtain ⟨_, _, ⟨rfl, rfl⟩, hp, rfl⟩ := h
    exact ⟨hp, rfl⟩
  · intro h
    obtain ⟨hp, rfl⟩ := h
    exact ⟨_, _, ⟨rfl, rfl⟩, hp, rfl⟩

@[simp] theorem gives_platesOf {plates : List (Plate α)} :
    Gives (platesOf run) db plates db' ↔
      plates = inOrder (fun a b => a.number ≤ b.number) (db.tables.platesOf run) ∧ db' = db :=
  gives_read _

@[simp] theorem gives_deductionsOf {rows : List (Deduction α)} :
    Gives (deductionsOf run) db rows db' ↔ rows = db.tables.deductionsOf run ∧ db' = db :=
  gives_read _

@[simp] theorem gives_deductionExists {target : RunStatus} {spool : Uuid} {b : Bool} :
    Gives (deductionExists run target spool) db b db' ↔
      b = db.tables.deductions.any (fun d => d.covers run target spool) ∧ db' = db :=
  gives_read _

@[simp] theorem gives_spoolsOf {ids : List Uuid} {spools : List (Spool α)} :
    Gives (spoolsOf ids) db spools db' ↔
      spools = inOrder (fun a b => !b.id.before a.id)
        (db.tables.spools.filter fun s => ids.contains s.id) ∧ db' = db :=
  gives_read _

@[simp] theorem gives_plateNumberTaken {number : Int} {b : Bool} :
    Gives (plateNumberTaken run number) db b db' ↔
      b = db.tables.plates.any (fun p => p.run = run && p.number = number) ∧ db' = db :=
  gives_read _

@[simp] theorem gives_nextPlateNumber {number : Int} :
    Gives (nextPlateNumber run) db number db' ↔
      number = ((db.tables.platesOf run).map Plate.number).max?.getD 0 + 1 ∧
        fitsCount number = true ∧ db' = db := by
  simp only [nextPlateNumber, gives_bind, gives_tables, gives_require, gives_pure]
  constructor
  · intro h
    obtain ⟨_, _, ⟨rfl, rfl⟩, _, _, ⟨hfits, rfl⟩, rfl, rfl⟩ := h
    exact ⟨rfl, hfits, rfl⟩
  · intro h
    obtain ⟨rfl, hfits, rfl⟩ := h
    exact ⟨_, _, ⟨rfl, rfl⟩, (), _, ⟨hfits, rfl⟩, rfl, rfl⟩

end Reading

section Writing

variable {α : Type} [Scalar α] {now : Timestamp} {db db' : Database α} {id run : Uuid}

@[simp] theorem gives_line {line : MaterialLine α} :
    Gives (Store.line run id) db line db' ↔
      (∃ p, (db.tables.materials.find? fun m => m.id = id && m.run = run).bind
        (priced? db.tables.spools) = some p ∧ line = p.line) ∧ db' = db := by
  simp only [Store.line, gives_bind, gives_material?, gives_expect, gives_pure]
  constructor
  · intro h
    obtain ⟨_, _, ⟨rfl, rfl⟩, p, _, ⟨hp, rfl⟩, rfl, rfl⟩ := h
    exact ⟨⟨p, hp, rfl⟩, rfl⟩
  · intro h
    obtain ⟨⟨p, hp, rfl⟩, rfl⟩ := h
    exact ⟨_, _, ⟨rfl, rfl⟩, p, _, ⟨hp, rfl⟩, rfl, rfl⟩

omit [Scalar α] in
theorem reads_run (id : Uuid) : (Store.run id : Tx α _).Reads :=
  (reads_tables.bind fun _ => reads_pure _).bind fun _ => reads_expect _ _

/-- Reading a run with all it owns changes nothing. -/
theorem reads_snapshot (id : Uuid) : (snapshot id : Tx α _).Reads := by
  refine (reads_run id).bind fun _ => (reads_tables.bind fun _ => reads_pure _).bind fun _ => ?_
  refine (reads_tables.bind fun _ => reads_pure _).bind fun _ => ?_
  exact (reads_tables.bind fun _ => reads_pure _).bind fun _ => reads_pure _

/-- A run is shown with its items, lines and plates, if it is there. -/
theorem gives_snapshot {id : Uuid} {view : Snapshot α} :
    Gives (snapshot id) db view db' ↔
      ∃ r, db.tables.runs.find? (fun r => r.id = id) = some r ∧
        view = .assemble r (db.tables.itemsOf id) ((db.tables.linesOf id).map PricedMaterial.line)
          (inOrder (fun a b => a.number ≤ b.number) (db.tables.platesOf id)) ∧ db' = db := by
  simp only [snapshot, gives_bind, gives_run, gives_itemsOf, gives_materialsOf, gives_platesOf,
    gives_pure]
  constructor
  · intro h
    obtain ⟨r, _, ⟨hr, rfl⟩, _, _, ⟨rfl, rfl⟩, _, _, ⟨rfl, rfl⟩, _, _, ⟨rfl, rfl⟩, rfl, rfl⟩ := h
    exact ⟨r, hr, rfl, rfl⟩
  · intro h
    obtain ⟨r, hr, rfl, rfl⟩ := h
    exact ⟨r, _, ⟨hr, rfl⟩, _, _, ⟨rfl, rfl⟩, _, _, ⟨rfl, rfl⟩, _, _, ⟨rfl, rfl⟩, rfl, rfl⟩

/-! ## Adding rows -/

@[simp] theorem gives_insertSpool {new : NewSpool α} {s : Spool α} :
    Gives (insertSpool now new) db s db' ↔
      allStorable [some new.label, some new.materialType, new.color] = true ∧
      (∃ weight price, Scalar.stored? new.weight = some weight ∧
        Scalar.stored? new.costPerGram = some price ∧
        isNotNegative (some weight) = true ∧ isNotNegative (some price) = true ∧
        s = spoolRow now (db.sequences.draw .spool).spoolId new weight price) ∧
      (∀ r ∈ db.tables.spools, ¬r.id = (db.sequences.draw .spool).spoolId) ∧
      db' = ⟨{ db.tables with spools := db.tables.spools ++ [s] }, (db.sequences.draw .spool)⟩ := by
  constructor
  · intro h
    simp [insertSpool, drawSpool, and_assoc] at h
    obtain ⟨htext, weight, hweight, price, hprice, hw, hp, hid, rfl, rfl⟩ := h
    exact ⟨htext, ⟨weight, price, hweight, hprice, hw, hp, rfl⟩, hid, rfl⟩
  · intro h
    obtain ⟨htext, ⟨weight, price, hweight, hprice, hw, hp, rfl⟩, hid, rfl⟩ := h
    simpa [insertSpool, drawSpool, and_assoc, htext, hweight, hprice, hw, hp] using hid

@[simp] theorem gives_insertRun {new : NewRun α} {r : Run α} :
    Gives (insertRun now new) db r db' ↔
      storableRun new = true ∧
      (∃ estimated, Scalar.stored? new.estimatedHours = some estimated ∧
        r = runRow now (db.sequences.draw .run).runId (db.sequences.draw .run).runNumber new
          estimated) ∧
      acceptsRun r = true ∧
      (∀ s ∈ db.tables.runs, ¬s.id = (db.sequences.draw .run).runId) ∧
      (∀ s ∈ db.tables.runs, ¬s.number = r.number) ∧
      db' = ⟨{ db.tables with runs := db.tables.runs ++ [r] }, (db.sequences.draw .run)⟩ := by
  constructor
  · intro h
    simp [insertRun, drawRun, and_assoc] at h
    obtain ⟨htext, estimated, hestimated, haccepts, hid, hnumber, rfl, rfl⟩ := h
    exact ⟨htext, ⟨estimated, hestimated, rfl⟩, haccepts, hid, hnumber, rfl⟩
  · intro h
    obtain ⟨htext, ⟨estimated, hestimated, rfl⟩, haccepts, hid, hnumber, rfl⟩ := h
    simpa [insertRun, drawRun, and_assoc, htext, hestimated, haccepts] using ⟨hid, hnumber⟩

@[simp] theorem gives_insertItem {new : NewItem α} {i : Item α} :
    Gives (insertItem now run new) db i db' ↔
      i = itemRow now run (db.sequences.draw .item).itemId new ∧
      allStorable [new.modelName, new.bedPosition] = true ∧ acceptsItem i = true ∧
      (∀ j ∈ db.tables.items, ¬j.id = (db.sequences.draw .item).itemId) ∧
      (∀ j ∈ db.tables.items, ¬j.run = run ∨ ¬j.model = new.model) ∧
      (∃ r ∈ db.tables.runs, r.id = run) ∧
      db' = ⟨{ db.tables with items := db.tables.items ++ [i] }, (db.sequences.draw .item)⟩ := by
  constructor
  · intro h
    simp [insertItem, drawItem, and_assoc] at h
    obtain ⟨htext, haccepts, hid, hmodel, hrun, rfl, rfl⟩ := h
    exact ⟨rfl, htext, haccepts, hid, hmodel, hrun, rfl⟩
  · intro h
    obtain ⟨rfl, htext, haccepts, hid, hmodel, hrun, rfl⟩ := h
    simpa [insertItem, drawItem, and_assoc, htext, haccepts] using ⟨hid, hmodel, hrun⟩

@[simp] theorem gives_insertMaterial {new : NewMaterial α} {total : α} {m : Material α} :
    Gives (insertMaterial now run new total) db m db' ↔
      (∃ model whole, Scalar.stored? new.estimatedModel = some model ∧
        Scalar.stored? total = some whole ∧
        m = materialRow now run (db.sequences.draw .material).materialId new model whole) ∧
      acceptsMaterial m = true ∧
      (∀ l ∈ db.tables.materials, ¬l.id = (db.sequences.draw .material).materialId) ∧
      (∀ l ∈ db.tables.materials, ¬l.run = run ∨ ¬l.spool = new.spool) ∧
      (∃ r ∈ db.tables.runs, r.id = run) ∧ (∃ s ∈ db.tables.spools, s.id = new.spool) ∧
      db' = ⟨{ db.tables with materials := db.tables.materials ++ [m] },
        (db.sequences.draw .material)⟩ := by
  constructor
  · intro h
    simp [insertMaterial, drawMaterial, and_assoc] at h
    obtain ⟨model, hmodel, whole, hwhole, haccepts, hid, hline, hrun, hspool, rfl, rfl⟩ := h
    exact ⟨⟨model, whole, hmodel, hwhole, rfl⟩, haccepts, hid, hline, hrun, hspool, rfl⟩
  · intro h
    obtain ⟨⟨model, whole, hmodel, hwhole, rfl⟩, haccepts, hid, hline, hrun, hspool, rfl⟩ := h
    simpa [insertMaterial, drawMaterial, and_assoc, hmodel, hwhole, haccepts] using
      ⟨hid, hline, hrun, hspool⟩

@[simp] theorem gives_insertPlate {new : NewPlate α} {number : Int} {name : String} {p : Plate α} :
    Gives (insertPlate now run new number name) db p db' ↔
      p = plateRow now run (db.sequences.draw .plate).plateId new number name ∧
      allStorable [some name, new.notes] = true ∧ acceptsPlate p = true ∧
      (∀ q ∈ db.tables.plates, ¬q.id = (db.sequences.draw .plate).plateId) ∧
      (∀ q ∈ db.tables.plates, ¬q.run = run ∨ ¬q.number = number) ∧
      (∃ r ∈ db.tables.runs, r.id = run) ∧
      db' = ⟨{ db.tables with plates := db.tables.plates ++ [p] }, (db.sequences.draw .plate)⟩ := by
  constructor
  · intro h
    simp [insertPlate, drawPlate, and_assoc] at h
    obtain ⟨htext, haccepts, hid, hnumber, hrun, rfl, rfl⟩ := h
    exact ⟨rfl, htext, haccepts, hid, hnumber, hrun, rfl⟩
  · intro h
    obtain ⟨rfl, htext, haccepts, hid, hnumber, hrun, rfl⟩ := h
    simpa [insertPlate, drawPlate, and_assoc, htext, haccepts] using ⟨hid, hnumber, hrun⟩

/-- A row that is given was journaled; none is given if the journal has one for the same end of the
run and spool.  The number is drawn in both cases. -/
theorem gives_insertDeduction {new : NewDeduction α} {row : Option (Deduction α)} :
    Gives (insertDeduction now new) db row db' ↔
      ∃ kept, new.stored? = some kept ∧ kept.target.isTerminal = true ∧
        Scalar.lt Scalar.zero kept.grams = true ∧
        ((∃ d ∈ db.tables.deductions, d.covers kept.run kept.target kept.spool = true) ∧
            row = none ∧ db' = ⟨db.tables, (db.sequences.draw .deduction)⟩ ∨
          (∀ d ∈ db.tables.deductions, d.covers kept.run kept.target kept.spool = false) ∧
            (∃ r ∈ db.tables.runs, r.id = kept.run) ∧ (∃ s ∈ db.tables.spools, s.id = kept.spool) ∧
            row = some (journalRow now (db.sequences.draw .deduction).journal kept) ∧
            db' = ⟨{ db.tables with deductions := db.tables.deductions ++
              [journalRow now (db.sequences.draw .deduction).journal kept] },
              (db.sequences.draw .deduction)⟩) := by
  constructor
  · intro h
    simp [insertDeduction, drawJournal, and_assoc] at h
    obtain ⟨kept, hkept, hend, hpos, hcovered | ⟨hnew, hrun, hspool, rfl, rfl⟩⟩ := h
    · exact ⟨kept, hkept, hend, hpos, Or.inl hcovered⟩
    · exact ⟨kept, hkept, hend, hpos, Or.inr ⟨hnew, hrun, hspool, rfl, rfl⟩⟩
  · intro h
    obtain ⟨kept, hkept, hend, hpos, h⟩ := h
    simp [insertDeduction, drawJournal, and_assoc, hkept, hend, hpos]
    rcases h with hcovered | ⟨hnew, hrun, hspool, rfl, rfl⟩
    · exact Or.inl hcovered
    · exact Or.inr ⟨hnew, hrun, hspool, rfl, rfl⟩

/-! ## Changing rows -/

/-- The weight of a spool that is not there cannot be set. -/
theorem gives_setSpoolWeight {weight : α} {n : Nat} :
    Gives (setSpoolWeight now id weight) db n db' ↔
      (∀ s ∈ db.tables.spools, ¬s.id = id) ∧ n = 0 ∧ db' = db ∨
      (∃ s ∈ db.tables.spools, s.id = id) ∧
        ∃ kept, Scalar.stored? weight = some kept ∧ isNotNegative (some kept) = true ∧
          n = (db.tables.spools.filter fun s => s.id = id).length ∧
          db' = { db with tables := { db.tables with
            spools := changeRows (fun s => s.id = id) (weighed now kept) db.tables.spools } } := by
  constructor
  · intro h
    simp [setSpoolWeight, and_assoc] at h
    obtain hnone | ⟨hspool, kept, hkept, hnonneg, rfl, rfl⟩ := h
    · exact Or.inl hnone
    · exact Or.inr ⟨hspool, kept, hkept, hnonneg, rfl, rfl⟩
  · intro h
    simp [setSpoolWeight, and_assoc]
    obtain hnone | ⟨hspool, kept, hkept, hnonneg, rfl, rfl⟩ := h
    · exact Or.inl hnone
    · exact Or.inr ⟨hspool, kept, hkept, hnonneg, rfl, rfl⟩

/-- A run that is there gets the new details. -/
theorem gives_updateRun {patch : RunPatch α} {row : Run α} :
    Gives (updateRun now id patch) db (some row) db' ↔
      storableDetails patch = true ∧
      ∃ r, db.tables.runs.find? (fun r => r.id = id) = some r ∧
        acceptsRun (editedRun now patch r) = true ∧
        db' = { db with tables := { db.tables with
          runs := changeRows (fun r => r.id = id) (fun _ => editedRun now patch r)
            db.tables.runs } } ∧
        row = editedRun now patch r := by
  cases hfound : db.tables.runs.find? (fun r => r.id = id) with
  | none => simp [updateRun, and_assoc, hfound]
  | some r => simp [updateRun, and_assoc, hfound]

theorem gives_updateRun_none {patch : RunPatch α} :
    Gives (updateRun now id patch) db none db' ↔
      storableDetails patch = true ∧
        db.tables.runs.find? (fun r => r.id = id) = none ∧ db' = db := by
  cases hfound : db.tables.runs.find? (fun r => r.id = id) with
  | none => simp [updateRun, and_assoc, hfound]
  | some r => simp [updateRun, and_assoc, hfound]

/-- A run is ended in the status it is expected in, and left alone otherwise. -/
theorem gives_endRun {current : RunStatus} {ending : RunEnding α} {n : Nat} :
    Gives (endRun now id current ending) db n db' ↔
      allStorable [ending.wasteReason, ending.notes] = true ∧
      ((∃ r, db.tables.runs.find? (fun r => r.id = id) = some r ∧ r.status = current ∧
          acceptsRun (endedRun now ending r) = true ∧
          db' = { db with tables := { db.tables with
            runs := changeRows (fun r => r.id = id) (fun _ => endedRun now ending r)
              db.tables.runs } } ∧ n = 1) ∨
        (∀ r, db.tables.runs.find? (fun r => r.id = id) = some r → ¬r.status = current) ∧
          n = 0 ∧ db' = db) := by
  cases hfound : db.tables.runs.find? (fun r => r.id = id) with
  | none => simp [endRun, and_assoc, hfound]
  | some r => simp [endRun, and_assoc, hfound]

omit [Scalar α] in
@[simp] theorem gives_touchRun {u : Unit} :
    Gives (touchRun now id) db u db' ↔
      db' = { db with tables := { db.tables with
        runs := changeRows (fun r => r.id = id) (touchedRun now) db.tables.runs } } := by
  simp [touchRun]

/-- An item that is there gets the counts. -/
theorem gives_setOutcome {outcome : Outcome} {row : Item α} :
    Gives (setOutcome id outcome) db (some row) db' ↔
      ∃ i, db.tables.items.find? (fun i => i.id = id) = some i ∧
        acceptsItem (i.withOutcome outcome) = true ∧
        db' = { db with tables := { db.tables with
          items := changeRows (fun i => i.id = id) (fun _ => i.withOutcome outcome)
            db.tables.items } } ∧
        row = i.withOutcome outcome := by
  cases hfound : db.tables.items.find? (fun i => i.id = id) with
  | none => simp [setOutcome, and_assoc, hfound]
  | some i => simp [setOutcome, and_assoc, hfound]

theorem gives_setOutcome_none {outcome : Outcome} :
    Gives (setOutcome id outcome) db none db' ↔
      db.tables.items.find? (fun i => i.id = id) = none ∧ db' = db := by
  cases hfound : db.tables.items.find? (fun i => i.id = id) with
  | none => simp [setOutcome, and_assoc, hfound]
  | some i => simp [setOutcome, and_assoc, hfound]

/-- Counts are added where they fit. -/
theorem gives_addOutcome {added : Outcome} {n : Nat} :
    Gives (addOutcome id added) db n db' ↔
      (∃ i, db.tables.items.find? (fun i => i.id = id) = some i ∧
        (i.outcome.plus added).successful + (i.outcome.plus added).failed ≤ i.quantity ∧
        acceptsItem (i.withOutcome (i.outcome.plus added)) = true ∧
        db' = { db with tables := { db.tables with
          items := changeRows (fun i => i.id = id)
            (fun _ => i.withOutcome (i.outcome.plus added)) db.tables.items } } ∧ n = 1) ∨
      (∀ i, db.tables.items.find? (fun i => i.id = id) = some i →
          i.quantity < (i.outcome.plus added).successful + (i.outcome.plus added).failed) ∧
        n = 0 ∧ db' = db := by
  cases hfound : db.tables.items.find? (fun i => i.id = id) with
  | none => simp [addOutcome, and_assoc, hfound]
  | some i => simp [addOutcome, and_assoc, hfound]

@[simp] theorem gives_setUnitCost {cost : Option α} {u : Unit} :
    Gives (setUnitCost id cost) db u db' ↔
      db' = { db with tables := { db.tables with
        items := changeRows (fun i => i.id = id) (pricedItem cost) db.tables.items } } := by
  simp [setUnitCost]

@[simp] theorem gives_changeMaterials {fault : StorageFault} {selected : Material α → Bool}
    {change : Material α → Material α} {n : Nat} :
    Gives (changeMaterials now fault selected change) db n db' ↔
      (∀ m ∈ db.tables.materials, selected m = false ∨ acceptsMaterial (change m) = true) ∧
      db' = { db with tables := { db.tables with
        materials := changeRows selected (fun m => touchedMaterial now (change m))
          db.tables.materials } } ∧
      n = (db.tables.materials.filter selected).length := by
  simp [changeMaterials, and_assoc]

@[simp] theorem gives_fixFigures {figures : Reconciliation α} {u : Unit} :
    Gives (fixFigures now id figures) db u db' ↔
      db' = { db with tables := { db.tables with
        materials := changeRows (fun m => m.id = id) (fixedMaterial now figures)
          db.tables.materials } } := by
  simp [fixFigures]

omit [Scalar α] in
@[simp] theorem gives_deleteMaterial {n : Nat} :
    Gives (deleteMaterial run id) db n db' ↔
      db' = { db with tables := { db.tables with
        materials := db.tables.materials.filter fun m => !(m.id = id && m.run = run) } } ∧
      n = db.tables.materials.countP (fun m => m.id = id && m.run = run) := by
  simp [deleteMaterial, and_assoc]

/-- A plate that has not ended gets the new details. -/
theorem gives_updatePlate {patch : PlatePatch α} {row : Plate α} :
    Gives (updatePlate now id patch) db (some row) db' ↔
      allStorable [patch.name, patch.notes] = true ∧
      ∃ p, db.tables.plates.find? (fun p => p.id = id && !p.status.isTerminal) = some p ∧
        acceptsPlate (editedPlate now patch p) = true ∧
        db' = { db with tables := { db.tables with
          plates := changeRows (fun p => p.id = id) (fun _ => editedPlate now patch p)
            db.tables.plates } } ∧
        row = editedPlate now patch p := by
  cases hfound : db.tables.plates.find? (fun p => p.id = id && !p.status.isTerminal) with
  | none => simp [updatePlate, and_assoc, hfound]
  | some p => simp [updatePlate, and_assoc, hfound]

/-- One that has ended, or is not there, does not. -/
theorem gives_updatePlate_none {patch : PlatePatch α} :
    Gives (updatePlate now id patch) db none db' ↔
      allStorable [patch.name, patch.notes] = true ∧
        db.tables.plates.find? (fun p => p.id = id && !p.status.isTerminal) = none ∧ db' = db := by
  cases hfound : db.tables.plates.find? (fun p => p.id = id && !p.status.isTerminal) with
  | none => simp [updatePlate, and_assoc, hfound]
  | some p => simp [updatePlate, and_assoc, hfound]

/-- A plate in the expected status is moved. -/
theorem gives_movePlate {current next : PlateStatus} {move : PlateMove α} {row : Plate α} :
    Gives (movePlate now id current next move) db (some row) db' ↔
      allStorable [move.notes] = true ∧
      ∃ p, db.tables.plates.find? (fun p => p.id = id && p.status = current) = some p ∧
        acceptsPlate (movedPlate now next move p) = true ∧
        db' = { db with tables := { db.tables with
          plates := changeRows (fun p => p.id = id) (fun _ => movedPlate now next move p)
            db.tables.plates } } ∧
        row = movedPlate now next move p := by
  cases hfound : db.tables.plates.find? (fun p => p.id = id && p.status = current) with
  | none => simp [movePlate, and_assoc, hfound]
  | some p => simp [movePlate, and_assoc, hfound]

/-- One in another status is not. -/
theorem gives_movePlate_none {current next : PlateStatus} {move : PlateMove α} :
    Gives (movePlate now id current next move) db none db' ↔
      allStorable [move.notes] = true ∧
        db.tables.plates.find? (fun p => p.id = id && p.status = current) = none ∧ db' = db := by
  cases hfound : db.tables.plates.find? (fun p => p.id = id && p.status = current) with
  | none => simp [movePlate, and_assoc, hfound]
  | some p => simp [movePlate, and_assoc, hfound]

omit [Scalar α] in
@[simp] theorem gives_cancelOpenPlates {completedAt : Timestamp} {n : Nat} :
    Gives (cancelOpenPlates now run completedAt) db n db' ↔
      db' = { db with tables := { db.tables with
        plates := changeRows (fun p => p.run = run && !p.status.isTerminal)
          (cancelledPlate now completedAt) db.tables.plates } } ∧
      n = db.tables.plates.countP (fun p => p.run = run && !p.status.isTerminal) := by
  simp [cancelOpenPlates, and_assoc]

omit [Scalar α] in
@[simp] theorem gives_deletePendingPlate {n : Nat} :
    Gives (deletePendingPlate run id) db n db' ↔
      db' = { db with tables := { db.tables with
        plates := db.tables.plates.filter fun p =>
          !(p.id = id && p.run = run && p.status = .pending) } } ∧
      n = db.tables.plates.countP (fun p => p.id = id && p.run = run && p.status = .pending) := by
  simp [deletePendingPlate, and_assoc]

end Writing

end PrintFarm.Store
