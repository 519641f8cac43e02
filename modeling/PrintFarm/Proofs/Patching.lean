import PrintFarm.Proofs.Creating
import PrintFarm.Proofs.Moving

/-!
# New details, one after the other

The details of a run, and of a plate that has not ended, can be edited again and again.  A patch
sets some of them and leaves the others, and what counts in the end is, detail by detail, what was
set last.

* `lastSet` is the value that a list of edits sets last.  `Run.patched` and `Plate.patched` are the
  rows after the edits, read off these values with no regard to how the edits were done.
* `Editing` is what runs and plates have in common, and `runDetails` and `plateDetails` are the two
  kinds of editing.  `Editing.Lawful` says what one edit does, and `Editing.Lawful.afterAll` is the
  induction along a list of edits.
* `details_compose` draws the conclusions for every history: an edit made twice counts once, and
  edits of different details can be made in either order.
-/

namespace PrintFarm

open Store Tx

variable {α π κ : Type}

/-! ## Edits -/

/-- New details with the failure reasons and the time they are asked for with. -/
structure Edit (π : Type) where
  catalog : Catalog
  now : Timestamp
  patch : π

/-- The value of a detail that the edits set last, if one of them sets it. -/
def lastSet (detail : Edit π → Option κ) (edits : List (Edit π)) : Option κ :=
  (edits.filterMap detail).getLast?

section LastSet

variable {detail : Edit π → Option κ} {edits : List (Edit π)} {e : Edit π}

theorem lastSet_nil : lastSet detail [] = none :=
  rfl

theorem lastSet_concat : lastSet detail (edits ++ [e]) = (detail e).or (lastSet detail edits) :=
  getLast?_filterMap_concat

theorem lastSet_singleton : lastSet detail [e] = detail e := by
  rw [← List.nil_append [e], lastSet_concat, lastSet_nil, Option.or_none]

theorem lastSet_pair {e₁ e₂ : Edit π} : lastSet detail [e₁, e₂] = (detail e₂).or (detail e₁) := by
  rw [show [e₁, e₂] = [e₁] ++ [e₂] from rfl, lastSet_concat, lastSet_singleton]

end LastSet

/-- The time of the last edit as columns hold it, or what was there before. -/
def lastChange (edits : List (Edit π)) (old : Timestamp) : Timestamp :=
  (lastSet (fun e => some e.now.stored) edits).getD old

/-- The run with each of its details at the value that was set last. -/
def Run.patched (edits : List (Edit (RunPatch α))) (r : Run α) : Run α :=
  { r with
    durationHours := (lastSet (·.patch.durationHours) edits).or r.durationHours
    startedAt := (lastSet (·.patch.startedAt.map Timestamp.stored) edits).getD r.startedAt
    estimatedHours := (lastSet (·.patch.estimatedHours) edits).getD r.estimatedHours
    printerName := (lastSet (·.patch.printerName) edits).or r.printerName
    slicerSoftware := (lastSet (·.patch.slicerSoftware) edits).or r.slicerSoftware
    bedTemperature := (lastSet (·.patch.bedTemperature) edits).or r.bedTemperature
    nozzleTemperature := (lastSet (·.patch.nozzleTemperature) edits).or r.nozzleTemperature
    notes := (lastSet (·.patch.notes) edits).or r.notes
    updatedAt := lastChange edits r.updatedAt }

/-- The run whose plates were edited. -/
def Run.stamped (edits : List (Edit π)) (r : Run α) : Run α :=
  { r with updatedAt := lastChange edits r.updatedAt }

/-- The plate with each of its details at the value that was set last. -/
def Plate.patched (edits : List (Edit (PlatePatch α))) (p : Plate α) : Plate α :=
  { p with
    name := (lastSet (·.patch.name) edits).getD p.name
    printer := (lastSet (·.patch.printer) edits).or p.printer
    printMinutes := (lastSet (·.patch.printMinutes) edits).or p.printMinutes
    estimatedWeight := (lastSet (·.patch.estimatedWeight) edits).or p.estimatedWeight
    notes := (lastSet (·.patch.notes) edits).or p.notes
    updatedAt := lastChange edits p.updatedAt }

/-- No detail is set by both patches. -/
structure RunPatch.Disjoint (p q : RunPatch α) : Prop where
  durationHours : p.durationHours = none ∨ q.durationHours = none
  startedAt : p.startedAt = none ∨ q.startedAt = none
  estimatedHours : p.estimatedHours = none ∨ q.estimatedHours = none
  printerName : p.printerName = none ∨ q.printerName = none
  slicerSoftware : p.slicerSoftware = none ∨ q.slicerSoftware = none
  bedTemperature : p.bedTemperature = none ∨ q.bedTemperature = none
  nozzleTemperature : p.nozzleTemperature = none ∨ q.nozzleTemperature = none
  notes : p.notes = none ∨ q.notes = none

/-- No detail is set by both patches. -/
structure PlatePatch.Disjoint (p q : PlatePatch α) : Prop where
  name : p.name = none ∨ q.name = none
  printer : p.printer = none ∨ q.printer = none
  printMinutes : p.printMinutes = none ∨ q.printMinutes = none
  estimatedWeight : p.estimatedWeight = none ∨ q.estimatedWeight = none
  notes : p.notes = none ∨ q.notes = none

/-! ## Rows -/

section Rows

/-- Edits that were made before count where nothing was set after them. -/
theorem Run.patched_concat (edits : List (Edit (RunPatch α))) (e : Edit (RunPatch α)) (r : Run α) :
    (r.patched edits).patched [e] = r.patched (edits ++ [e]) := by
  simp only [patched, lastChange, lastSet_concat, lastSet_singleton, Option.or_assoc,
    Option.getD_or, Option.some_or, Option.getD_some]

theorem Run.stamped_concat (edits : List (Edit π)) (e : Edit π) (r : Run α) :
    (r.stamped edits).stamped [e] = r.stamped (edits ++ [e]) := by
  simp only [stamped, lastChange, lastSet_concat, lastSet_singleton, Option.some_or,
    Option.getD_some]

theorem Plate.patched_concat (edits : List (Edit (PlatePatch α))) (e : Edit (PlatePatch α))
    (p : Plate α) : (p.patched edits).patched [e] = p.patched (edits ++ [e]) := by
  simp only [patched, lastChange, lastSet_concat, lastSet_singleton, Option.or_assoc,
    Option.getD_or, Option.some_or, Option.getD_some]

/-- Edits with the same patches set the same details. -/
theorem Run.patched_twice {e₁ e₂ e : Edit (RunPatch α)} (h₁ : e₁.patch = e.patch)
    (h₂ : e₂.patch = e.patch) (now : Timestamp) (r : Run α) :
    touchedRun now (r.patched [e₁, e₂]) = touchedRun now (r.patched [e]) := by
  simp only [touchedRun, patched, lastSet_pair, lastSet_singleton, h₁, h₂, Option.or_self]

theorem Plate.patched_twice {e₁ e₂ e : Edit (PlatePatch α)} (h₁ : e₁.patch = e.patch)
    (h₂ : e₂.patch = e.patch) (now : Timestamp) (p : Plate α) :
    touchedPlate now (p.patched [e₁, e₂]) = touchedPlate now (p.patched [e]) := by
  simp only [touchedPlate, patched, lastSet_pair, lastSet_singleton, h₁, h₂, Option.or_self]

/-- A detail that only one of two patches sets has the same value whichever comes first. -/
theorem lastSet_swap (detail : π → Option κ) {e₁ e₂ e₃ e₄ : Edit π} (h₁ : e₄.patch = e₁.patch)
    (h₂ : e₃.patch = e₂.patch) (h : detail e₁.patch = none ∨ detail e₂.patch = none) :
    lastSet (fun e => detail e.patch) [e₁, e₂] = lastSet (fun e => detail e.patch) [e₃, e₄] := by
  rw [lastSet_pair, lastSet_pair, h₁, h₂]
  rcases h with h | h <;> simp [h]

theorem Run.patched_swap {e₁ e₂ e₃ e₄ : Edit (RunPatch α)} (h₁ : e₄.patch = e₁.patch)
    (h₂ : e₃.patch = e₂.patch) (h : e₁.patch.Disjoint e₂.patch) (now : Timestamp) (r : Run α) :
    touchedRun now (r.patched [e₁, e₂]) = touchedRun now (r.patched [e₃, e₄]) := by
  have hstart : e₁.patch.startedAt.map Timestamp.stored = none ∨
      e₂.patch.startedAt.map Timestamp.stored = none := by
    simpa only [Option.map_eq_none_iff] using h.startedAt
  simp only [touchedRun, patched, lastSet_swap RunPatch.durationHours h₁ h₂ h.durationHours,
    lastSet_swap (fun p : RunPatch α => p.startedAt.map Timestamp.stored) h₁ h₂ hstart,
    lastSet_swap RunPatch.estimatedHours h₁ h₂ h.estimatedHours,
    lastSet_swap RunPatch.printerName h₁ h₂ h.printerName,
    lastSet_swap RunPatch.slicerSoftware h₁ h₂ h.slicerSoftware,
    lastSet_swap RunPatch.bedTemperature h₁ h₂ h.bedTemperature,
    lastSet_swap RunPatch.nozzleTemperature h₁ h₂ h.nozzleTemperature,
    lastSet_swap RunPatch.notes h₁ h₂ h.notes]

theorem Plate.patched_swap {e₁ e₂ e₃ e₄ : Edit (PlatePatch α)} (h₁ : e₄.patch = e₁.patch)
    (h₂ : e₃.patch = e₂.patch) (h : e₁.patch.Disjoint e₂.patch) (now : Timestamp) (p : Plate α) :
    touchedPlate now (p.patched [e₁, e₂]) = touchedPlate now (p.patched [e₃, e₄]) := by
  simp only [touchedPlate, patched, lastSet_swap PlatePatch.name h₁ h₂ h.name,
    lastSet_swap PlatePatch.printer h₁ h₂ h.printer,
    lastSet_swap PlatePatch.printMinutes h₁ h₂ h.printMinutes,
    lastSet_swap PlatePatch.estimatedWeight h₁ h₂ h.estimatedWeight,
    lastSet_swap PlatePatch.notes h₁ h₂ h.notes]

variable [Scalar α] [StockScalar α]

/-- One edit writes what is read off a list with that edit alone. -/
theorem editedRun_eq_patched {e : Edit (RunPatch α)} (h : e.patch.complaints = []) (r : Run α) :
    editedRun e.now e.patch r = r.patched [e] := by
  obtain ⟨hduration, hestimate⟩ := RunPatch.valid h
  rw [editedRun, storedOption_asked hduration, storedOption_asked hestimate, touchedRun,
    Run.patched]
  simp only [lastSet_singleton, lastChange]
  rfl

end Rows

/-! ## Kinds of editing -/

/-- A way of editing rows: the event that makes an edit, where it can be made, what is wrong with a
patch, whether columns can hold what it sets and how it is refused if not, the tables after some
edits, the tables but for the times of the last change, and patches that set no detail in common. -/
structure Editing (α π : Type) where
  event : Edit π → Event α
  target : Tables α → Prop
  complaints : π → List (FieldError α)
  storable : π → Bool
  fault : StorageFault
  patched : List (Edit π) → Tables α → Tables α
  restamped : Timestamp → Tables α → Tables α
  Disjoint : π → π → Prop

variable [Scalar α]

/-- The details of a run in progress. -/
def runDetails (run : Uuid) : Editing α (RunPatch α) where
  event e := ⟨e.catalog, e.now, .updateRun run e.patch⟩
  target t := t.Takes run
  complaints := RunPatch.complaints
  storable := storableDetails
  fault := .updateRun
  patched edits t := { t with runs := changeRows (fun r => r.id = run) (Run.patched edits) t.runs }
  restamped now t := t.touched now run
  Disjoint := RunPatch.Disjoint

/-- The details of a plate that has not ended, in a run in progress. -/
def plateDetails (run plate : Uuid) : Editing α (PlatePatch α) where
  event e := ⟨e.catalog, e.now, .updatePlate run plate e.patch⟩
  target t := t.Takes run ∧
    ∃ p ∈ t.plates, p.id = plate ∧ p.run = run ∧ p.status.isTerminal = false
  complaints := PlatePatch.complaints
  storable p := allStorable [p.name, p.notes]
  fault := .updatePlate
  patched edits t := { t with
    runs := changeRows (fun r => r.id = run) (Run.stamped edits) t.runs
    plates := changeRows (fun p => p.id = plate) (Plate.patched edits) t.plates }
  restamped now t := Tables.touched now
    { t with plates := changeRows (fun p => p.id = plate) (touchedPlate now) t.plates } run
  Disjoint := PlatePatch.Disjoint

/-- What has to be known of a way of editing: what one edit does to tables that take it, and that
more edits do what is read off all of them. -/
structure Editing.Lawful (k : Editing α π) : Prop where
  taken : ∀ (db : Database α), db.Sound → db.tables.Valued → k.target db.tables →
    ∀ e, k.complaints e.patch = [] → (k.event e).result db =
      if k.storable e.patch then .ok (k.patched [e] db.tables) else .error (.storage k.fault)
  target : ∀ (t : Tables α) edits, k.target t → k.target (k.patched edits t)
  nil : ∀ (t : Tables α), k.patched [] t = t
  concat : ∀ (t : Tables α) edits e, k.patched [e] (k.patched edits t) = k.patched (edits ++ [e]) t
  twice : ∀ (t : Tables α) now e₁ e₂ e, e₁.patch = e.patch → e₂.patch = e.patch →
    k.restamped now (k.patched [e₁, e₂] t) = k.restamped now (k.patched [e] t)
  swap : ∀ (t : Tables α) now e₁ e₂ e₃ e₄, e₄.patch = e₁.patch → e₃.patch = e₂.patch →
    k.Disjoint e₁.patch e₂.patch →
      k.restamped now (k.patched [e₁, e₂] t) = k.restamped now (k.patched [e₃, e₄] t)

/-! ## One edit -/

section One

open Workflow

variable {catalog : Catalog} {now : Timestamp} {db : Database α} {r : Run α} {p : Plate α}

/-- Valid details of a run in progress are refused only for a text or a start that cannot be
stored. -/
theorem Workflow.refusal?_updateRun (now : Timestamp) (hdb : db.tables.Consistent)
    (hv : db.tables.Valued) (hr : r ∈ db.tables.runs) (hprogress : r.status = .inProgress)
    {patch : RunPatch α} (hvalid : patch.complaints = []) :
    refusal? (updateRun now r.id patch) db =
      if storableDetails patch then none else some (.storage .updateRun) := by
  have hfound := hdb.find_run hr
  have hmutable : r.checkMutable "edit" = .ok () := Run.checkMutable_eq_ok.mpr hprogress
  have hwrite : refusal? (do expect (← Store.updateRun now r.id patch) (.notFound .run r.id)) db =
      if storableDetails patch then none else some (.storage .updateRun) := by
    cases hstorable : storableDetails patch with
    | true =>
      rw [refusal?_bind_of_gives (gives_updateRun.mpr ⟨hstorable, r, hfound,
        acceptsRun_edited hvalid (hv.hours r hr), rfl, rfl⟩)]
      rfl
    | false =>
      have hrefused : Refuses (Store.updateRun now r.id patch) db (.storage .updateRun) db :=
        refuses_first (refuses_require.mpr ⟨hstorable, rfl, rfl⟩)
      exact refusal?_bind_of_refuses hrefused
  rw [updateRun, refusal?_atomically, refusal?_refuseIfAny, if_pos hvalid,
    refusal?_bind_of_gives (gives_run.mpr ⟨hfound, rfl⟩), hmutable]
  split
  · exact hwrite
  · exact hwrite

/-- Valid details of a plate that has not ended are refused only for a text that cannot be
stored. -/
theorem Workflow.refusal?_updatePlate (now : Timestamp) (hdb : db.tables.Consistent)
    (hr : r ∈ db.tables.runs) (hprogress : r.status = .inProgress) (hp : p ∈ db.tables.plates)
    (hpr : p.run = r.id) (hopen : p.status.isTerminal = false) {patch : PlatePatch α}
    (hvalid : patch.complaints = []) :
    refusal? (updatePlate now p.run p.id patch) db =
      if allStorable [patch.name, patch.notes] then none else some (.storage .updatePlate) := by
  have hread := gives_runInProgress_of_mem hdb hr hprogress "edit plates of"
  rw [← hpr] at hread
  have heditable : p.checkEditable "edit" = .ok () := Plate.checkEditable_eq_ok.mpr hopen
  rw [updatePlate, refusal?_atomically, refusal?_refuseIfAny, if_pos hvalid,
    refusal?_bind_of_gives hread, refusal?_bind_of_gives (gives_plate_of_mem hdb.plateIds hp),
    heditable, refusal?_check_ok]
  cases htexts : allStorable [patch.name, patch.notes] with
  | true =>
    have hfound : db.tables.plates.find? (fun q => q.id = p.id && !q.status.isTerminal) = some p :=
      find?_of_unique hp (by simp [hopen]) fun q hq hsel =>
        eq_of_key_eq hdb.plateIds hq hp (of_decide_eq_true (Bool.and_eq_true_iff.mp hsel).1)
    rw [refusal?_bind_of_gives (gives_updatePlate.mpr ⟨htexts, p, hfound,
      acceptsPlate_edited hvalid (hdb.beds p hp), rfl, rfl⟩)]
    rfl
  | false =>
    have hrefused : Refuses (Store.updatePlate now p.id patch) db (.storage .updatePlate) db :=
      refuses_first (refuses_require.mpr ⟨htexts, rfl, rfl⟩)
    exact refusal?_bind_of_refuses hrefused

end One

omit [Scalar α] in
/-- A run that takes changes does so after any change that keeps its identifier and status. -/
theorem Tables.Takes.changeRuns {t t' : Tables α} {run : Uuid} (h : t.Takes run)
    {selected : Run α → Bool} {change : Run α → Run α}
    (hruns : t'.runs = changeRows selected change t.runs)
    (hkeeps : ∀ r, (change r).id = r.id ∧ (change r).status = r.status) : t'.Takes run := by
  obtain ⟨r, hr, hid, hprogress⟩ := h
  refine ⟨_, hruns ▸ mem_changeRows.mpr ⟨r, hr, rfl⟩, ?_, ?_⟩
  · split
    · exact (hkeeps r).1.trans hid
    · exact hid
  · split
    · exact (hkeeps r).2.trans hprogress
    · exact hprogress

omit [Scalar α] in
theorem restamped_patchedRuns (run : Uuid) (now : Timestamp) (edits : List (Edit (RunPatch α)))
    (rows : List (Run α)) :
    changeRows (fun r => r.id = run) (touchedRun now)
        (changeRows (fun r => r.id = run) (Run.patched edits) rows) =
      changeRows (fun r => r.id = run) (fun r => touchedRun now (r.patched edits)) rows :=
  changeRows_changeRows _ (fun _ => rfl) fun _ => rfl

theorem runDetails_lawful [StockScalar α] (run : Uuid) :
    (runDetails run : Editing α (RunPatch α)).Lawful where
  taken db hdb hv htakes e hvalid := by
    obtain ⟨r, hr, rfl, hprogress⟩ := htakes
    have hrefusal := Workflow.refusal?_updateRun e.now hdb.consistent hv hr hprogress hvalid
    show Event.result ⟨e.catalog, e.now, .updateRun r.id e.patch⟩ db =
      if storableDetails e.patch = true then _ else _
    cases hstorable : storableDetails e.patch with
    | false =>
      rw [hstorable] at hrefusal
      exact Event.result_of_refusal? (refusal?_map.trans hrefusal)
    | true =>
      rw [hstorable] at hrefusal
      obtain ⟨t', hresult, hstep⟩ := Event.result_of_accepted hdb
        (e := ⟨e.catalog, e.now, .updateRun r.id e.patch⟩) (refusal?_map.trans hrefusal)
      rw [hresult]
      cases hstep with
      | read hread => exact nomatch hread
      | close _ _ hcloses => exact nomatch hcloses.ends?_eq
      | movePlate hmoves => exact nomatch hmoves
      | updateRun =>
        rw [funext (editedRun_eq_patched hvalid)]
        rfl
  target t edits htakes := htakes.changeRuns rfl fun _ => ⟨rfl, rfl⟩
  nil t := congrArg (fun runs => { t with runs }) (changeRows_eq_self fun _ _ _ => rfl)
  concat t edits e := congrArg (fun runs => { t with runs })
    (changeRows_changeRows (Run.patched edits) (fun _ => rfl) (Run.patched_concat edits e))
  twice t now e₁ e₂ e h₁ h₂ := by
    simp only [runDetails, Tables.touched, restamped_patchedRuns, Run.patched_twice h₁ h₂]
  swap t now e₁ e₂ e₃ e₄ h₁ h₂ hdisjoint := by
    simp only [runDetails, Tables.touched, restamped_patchedRuns, Run.patched_swap h₁ h₂ hdisjoint]

/-- One edit of a plate writes what is read off a list with that edit alone. -/
theorem editedPlate_eq_patched [StockScalar α] {e : Edit (PlatePatch α)}
    (h : e.patch.complaints = []) (p : Plate α) : editedPlate e.now e.patch p = p.patched [e] := by
  simp only [PlatePatch.complaints, plateDetailComplaints, List.append_eq_nil_iff,
    complaint_eq_nil, isBadAmount, any_not_isNonNegative] at h
  rw [editedPlate, storedOption_asked h.2, touchedPlate, Plate.patched]
  simp only [lastSet_singleton, lastChange]
  rfl

omit [Scalar α] in
theorem restamped_patchedPlates (plate : Uuid) (now : Timestamp)
    (edits : List (Edit (PlatePatch α))) (rows : List (Plate α)) :
    changeRows (fun p => p.id = plate) (touchedPlate now)
        (changeRows (fun p => p.id = plate) (Plate.patched edits) rows) =
      changeRows (fun p => p.id = plate) (fun p => touchedPlate now (p.patched edits)) rows :=
  changeRows_changeRows _ (fun _ => rfl) fun _ => rfl

omit [Scalar α] in
theorem restamped_stampedRuns (run : Uuid) (now : Timestamp) (edits : List (Edit π))
    (rows : List (Run α)) :
    changeRows (fun r => r.id = run) (touchedRun now)
        (changeRows (fun r => r.id = run) (Run.stamped edits) rows) =
      changeRows (fun r => r.id = run) (touchedRun now) rows :=
  changeRows_changeRows _ (fun _ => rfl) fun _ => rfl

theorem plateDetails_lawful [StockScalar α] (run plate : Uuid) :
    (plateDetails run plate : Editing α (PlatePatch α)).Lawful where
  taken db hdb _ htarget e hvalid := by
    obtain ⟨⟨r, hr, rfl, hprogress⟩, p, hp, rfl, hpr, hopen⟩ := htarget
    have hrefusal := Workflow.refusal?_updatePlate e.now hdb.consistent hr hprogress hp hpr hopen
      hvalid
    rw [hpr] at hrefusal
    show Event.result ⟨e.catalog, e.now, .updatePlate r.id p.id e.patch⟩ db =
      if allStorable [e.patch.name, e.patch.notes] = true then _ else _
    cases htexts : allStorable [e.patch.name, e.patch.notes] with
    | false =>
      rw [htexts] at hrefusal
      exact Event.result_of_refusal? (refusal?_map.trans hrefusal)
    | true =>
      rw [htexts] at hrefusal
      obtain ⟨t', hresult, hstep⟩ := Event.result_of_accepted hdb
        (e := ⟨e.catalog, e.now, .updatePlate r.id p.id e.patch⟩) (refusal?_map.trans hrefusal)
      rw [hresult]
      cases hstep with
      | read hread => exact nomatch hread
      | close _ _ hcloses => exact nomatch hcloses.ends?_eq
      | movePlate hmoves => exact nomatch hmoves
      | updatePlate =>
        rw [funext (editedPlate_eq_patched hvalid)]
        rfl
  target t edits htarget := by
    obtain ⟨htakes, p, hp, hid, hpr, hopen⟩ := htarget
    refine ⟨htakes.changeRuns rfl fun _ => ⟨rfl, rfl⟩, _, mem_changeRows.mpr ⟨p, hp, rfl⟩, ?_⟩
    split <;> exact ⟨hid, hpr, hopen⟩
  nil t := by
    have hruns : changeRows (fun r => r.id = run) (Run.stamped ([] : List (Edit (PlatePatch α))))
        t.runs = t.runs := changeRows_eq_self fun _ _ _ => rfl
    have hplates : changeRows (fun p => p.id = plate) (Plate.patched []) t.plates = t.plates :=
      changeRows_eq_self fun _ _ _ => rfl
    simp only [plateDetails, hruns, hplates]
  concat t edits e := by
    simp only [plateDetails]
    rw [changeRows_changeRows (Run.stamped edits) (fun _ => rfl) (Run.stamped_concat edits e),
      changeRows_changeRows (Plate.patched edits) (fun _ => rfl) (Plate.patched_concat edits e)]
  twice t now e₁ e₂ e h₁ h₂ := by
    simp only [plateDetails, Tables.touched, restamped_patchedPlates, restamped_stampedRuns,
      Plate.patched_twice h₁ h₂]
  swap t now e₁ e₂ e₃ e₄ h₁ h₂ hdisjoint := by
    simp only [plateDetails, Tables.touched, restamped_patchedPlates, restamped_stampedRuns,
      Plate.patched_swap h₁ h₂ hdisjoint]

/-! ## One edit after the other -/

namespace Editing

variable {k : Editing α π} {db : Database α}

/-- The edits that are taken: those that columns can hold. -/
def stored (k : Editing α π) (edits : List (Edit π)) : List (Edit π) :=
  edits.filter fun e => k.storable e.patch

omit [Scalar α] in
theorem stored_nil : k.stored [] = [] :=
  rfl

omit [Scalar α] in
theorem stored_cons {e : Edit π} {edits : List (Edit π)} :
    k.stored (e :: edits) =
      if k.storable e.patch then e :: k.stored edits else k.stored edits :=
  List.filter_cons

omit [Scalar α] in
theorem stored_append {edits later : List (Edit π)} :
    k.stored (edits ++ later) = k.stored edits ++ k.stored later :=
  List.filter_append _ _

/-- What comes of an edit with valid numbers: only what cannot be stored is refused. -/
def Answered (k : Editing α π) (e : Edit π) (m : Moment α) : Prop :=
  m.event = k.event e ∧
    if k.storable e.patch then m.isAccepted = true else m.outcome = .error (.storage k.fault)

/-- Edits of rows that take them compose detail by detail. -/
structure Composes (k : Editing α π) (db : Database α) : Prop where
  outcomes : ∀ edits, (∀ e ∈ edits, k.complaints e.patch = []) →
    List.Forall₂ k.Answered edits (db.history (edits.map k.event))
  /-- Every detail has the value that was set last, and nothing else has changed. -/
  tables : ∀ edits, (∀ e ∈ edits, k.complaints e.patch = []) →
    (db.afterAll (edits.map k.event)).tables = k.patched (k.stored edits) db.tables
  /-- An edit that is made twice counts once. -/
  twice : ∀ now e₁ e₂ e, k.complaints e.patch = [] → e₁.patch = e.patch → e₂.patch = e.patch →
    k.restamped now (db.afterAll [k.event e₁, k.event e₂]).tables =
      k.restamped now (db.afterAll [k.event e]).tables
  /-- Edits of different details can be made in either order. -/
  swap : ∀ now e₁ e₂ e₃ e₄, k.complaints e₁.patch = [] → k.complaints e₂.patch = [] →
    e₄.patch = e₁.patch → e₃.patch = e₂.patch → k.Disjoint e₁.patch e₂.patch →
      k.restamped now (db.afterAll [k.event e₁, k.event e₂]).tables =
        k.restamped now (db.afterAll [k.event e₃, k.event e₄]).tables

/-- One edit. -/
theorem Lawful.after (hk : k.Lawful) (hdb : db.Sound) (hv : db.tables.Valued)
    (htarget : k.target db.tables) {e : Edit π} (hvalid : k.complaints e.patch = []) :
    k.Answered e ⟨k.event e, db⟩ ∧
      ((k.event e).after db).tables = k.patched (k.stored [e]) db.tables := by
  have hresult := hk.taken db hdb hv htarget e hvalid
  unfold Answered
  cases hstorable : k.storable e.patch with
  | true =>
    rw [hstorable, if_pos rfl] at hresult
    obtain ⟨⟨answer, haccepted⟩, hafter⟩ := Event.after_of_result hresult
    rw [if_pos rfl, stored_cons, if_pos hstorable, stored_nil]
    exact ⟨⟨rfl, Moment.isAccepted_of_ok haccepted⟩, hafter⟩
  | false =>
    rw [hstorable, if_neg Bool.false_ne_true] at hresult
    obtain ⟨hrefused, hafter⟩ := Event.unchanged_of_result hdb hresult
    rw [if_neg Bool.false_ne_true, stored_cons, hstorable, if_neg Bool.false_ne_true, stored_nil]
    exact ⟨⟨rfl, hrefused⟩, hafter.trans (hk.nil db.tables).symm⟩

/-- Edits that were made before the last one. -/
theorem Lawful.patched_stored (hk : k.Lawful) (t : Tables α) (edits : List (Edit π)) (e : Edit π) :
    k.patched (k.stored [e]) (k.patched (k.stored edits) t) =
      k.patched (k.stored (edits ++ [e])) t := by
  rw [stored_append, stored_cons, stored_nil]
  split
  · exact hk.concat t _ e
  · rw [List.append_nil]
    exact hk.nil _

/-- The induction along a list of edits: each of them meets tables that take it. -/
theorem Lawful.afterAll [StockScalar α] (hk : k.Lawful) (hdb : db.Sound) (hv : db.tables.Valued)
    (htarget : k.target db.tables) (edits : List (Edit π))
    (hvalid : ∀ e ∈ edits, k.complaints e.patch = []) :
    List.Forall₂ k.Answered edits (db.history (edits.map k.event)) ∧
      (db.afterAll (edits.map k.event)).tables = k.patched (k.stored edits) db.tables := by
  induction edits using List.reverseRecOn with
  | nil => exact ⟨.nil, (hk.nil db.tables).symm⟩
  | append_singleton edits e ih =>
    obtain ⟨houtcomes, htables⟩ := ih fun e he => hvalid e (List.mem_append_left _ he)
    have hlast := hk.after (Database.sound_afterAll hdb (edits.map k.event))
      (Database.valued_afterAll hdb hv (edits.map k.event)) (htables ▸ hk.target _ _ htarget)
      (hvalid e (by simp))
    rw [List.map_append, Database.history_append, Database.afterAll_append, ← hk.patched_stored,
      ← htables]
    exact ⟨List.rel_append houtcomes (.cons hlast.1 .nil), hlast.2⟩

/-- What an edit sets does not depend on its time. -/
theorem Lawful.once (hk : k.Lawful) (t : Tables α) (now : Timestamp) {e e' : Edit π}
    (h : e.patch = e'.patch) :
    k.restamped now (k.patched [e] t) = k.restamped now (k.patched [e'] t) :=
  (hk.twice t now e e e rfl rfl).symm.trans (hk.twice t now e e e' h h)

/-- Every row that takes edits is left by a list of them as the last values say. -/
theorem Lawful.composes [StockScalar α] (hk : k.Lawful) (hdb : db.Sound) (hv : db.tables.Valued)
    (htarget : k.target db.tables) : k.Composes db where
  outcomes edits hvalid := (hk.afterAll hdb hv htarget edits hvalid).1
  tables edits hvalid := (hk.afterAll hdb hv htarget edits hvalid).2
  twice now e₁ e₂ e hvalid h₁ h₂ := by
    have htables := fun edits hvalid => (hk.afterAll hdb hv htarget edits hvalid).2
    have hpair := htables [e₁, e₂] (by simp [h₁, h₂, hvalid])
    have hone := htables [e] (by simp [hvalid])
    simp only [List.map_cons, List.map_nil] at hpair hone
    rw [hpair, hone]
    simp only [stored_cons, stored_nil, h₁, h₂]
    cases k.storable e.patch with
    | true => exact hk.twice db.tables now e₁ e₂ e h₁ h₂
    | false => rfl
  swap now e₁ e₂ e₃ e₄ hvalid₁ hvalid₂ h₁ h₂ hdisjoint := by
    have htables := fun edits hvalid => (hk.afterAll hdb hv htarget edits hvalid).2
    have hfirst := htables [e₁, e₂] (by simp [hvalid₁, hvalid₂])
    have hsecond := htables [e₃, e₄] (by simp [h₁, h₂, hvalid₁, hvalid₂])
    simp only [List.map_cons, List.map_nil] at hfirst hsecond
    rw [hfirst, hsecond]
    simp only [stored_cons, stored_nil, h₁, h₂]
    cases k.storable e₁.patch <;> cases k.storable e₂.patch
    · rfl
    · exact hk.once db.tables now h₂.symm
    · exact hk.once db.tables now h₁.symm
    · exact hk.swap db.tables now e₁ e₂ e₃ e₄ h₁ h₂ hdisjoint

end Editing

/-- Whatever operations were performed, the details of a run in progress, and those of its plates
that have not ended, are what was set last, and nothing but the times of the last change differs
otherwise.  Editing a plate leaves its number, its bed, its status and its counts. -/
theorem details_compose (start : Sequences) (events : List (Event Float)) :
    let db := (Database.fresh start).afterAll events
    ∀ r ∈ db.tables.runs, r.status = .inProgress →
      (runDetails r.id).Composes db ∧
      ∀ p ∈ db.tables.plates, p.run = r.id → p.status.isTerminal = false →
        (plateDetails r.id p.id).Composes db ∧
        ∀ edits : List (Edit (PlatePatch Float)), (∀ e ∈ edits, e.patch.complaints = []) →
          (db.afterAll (edits.map (plateDetails r.id p.id).event)).tables.plates.map
              (fun q => (q.id, q.number, q.printsPerPlate, q.status, q.successful, q.failed)) =
            db.tables.plates.map
              fun q => (q.id, q.number, q.printsPerPlate, q.status, q.successful, q.failed) := by
  intro db r hr hprogress
  obtain ⟨hsound, hvalued, -⟩ := staged_afterAll start events
  have htakes : db.tables.Takes r.id := ⟨r, hr, rfl, hprogress⟩
  refine ⟨(runDetails_lawful r.id).composes hsound hvalued htakes, fun p hp hpr hopen => ?_⟩
  have hcomposes := (plateDetails_lawful r.id p.id).composes hsound hvalued
    ⟨htakes, p, hp, rfl, hpr, hopen⟩
  refine ⟨hcomposes, fun edits hvalid => ?_⟩
  rw [hcomposes.tables edits hvalid]
  exact map_changeRows fun _ _ _ => rfl

/-- New details of the run in the session: a printer, a printer and a note that no column can hold,
a printer and a start in the year -5000, and a note. -/
def runEdits : List (Edit (RunPatch Float)) :=
  [⟨.builtin, ⟨1767232800, 0⟩, ⟨none, none, some 3.0, some "A", none, none, none, none⟩⟩,
    ⟨.builtin, ⟨1767232801, 0⟩, ⟨none, none, none, some "B", none, none, none, some "a\x00b"⟩⟩,
    ⟨.builtin, ⟨1767232802, 0⟩,
      ⟨none, some ⟨-219951936000, 0⟩, none, some "C", none, none, none, none⟩⟩,
    ⟨.builtin, ⟨1767232803, 0⟩, ⟨none, none, none, none, none, none, none, some "done"⟩⟩]

/-- The first and the last of the edits count, and the plate that is printing can be edited too. -/
theorem crowded_details_composed :
    let db := (Database.fresh {}).afterAll crowdedSession
    ∃ r ∈ db.tables.runs, r.id = .numbered 2 1 ∧ (∀ e ∈ runEdits, e.patch.complaints = []) ∧
      (db.afterAll (runEdits.map (runDetails r.id).event)).tables.runs.map
          (fun r => (r.printerName, r.notes, r.updatedAt.seconds)) =
        [(some "A", some "done", 1767232803)] ∧
      ∃ p ∈ db.tables.plates, p.status = .printing ∧ (plateDetails r.id p.id).Composes db := by
  intro db
  have hplate : ∃ r ∈ db.tables.runs, r.id = .numbered 2 1 ∧ r.status = .inProgress ∧
      ∃ p ∈ db.tables.plates, p.run = r.id ∧ p.status = .printing := by decide +kernel
  obtain ⟨r, hr, hid, hprogress, p, hp, hpr, hprinting⟩ := hplate
  have hvalid : ∀ e ∈ runEdits, e.patch.complaints = [] := by
    have hnone : runEdits.all (fun e => e.patch.complaints.isEmpty) = true := by decide +kernel
    exact fun e he => List.isEmpty_iff.mp (List.all_eq_true.mp hnone e he)
  obtain ⟨hrun, hplates⟩ := details_compose {} crowdedSession r hr hprogress
  refine ⟨r, hr, hid, hvalid, ?_, p, hp, hprinting, (hplates p hp hpr (by rw [hprinting]; rfl)).1⟩
  rw [hrun.tables runEdits hvalid, hid]
  decide +kernel

/-- A note that no column can hold and a start in the year -5000 pass the checks of their fields,
and the run does not get them. -/
theorem unstorable_details_lost :
    let db := (Database.fresh {}).afterAll crowdedSession
    db.tables.Takes (.numbered 2 1) ∧
      ∀ patch ∈ ([⟨none, none, none, none, none, none, none, some "a\x00b"⟩,
          ⟨none, some ⟨-219951936000, 0⟩, none, none, none, none, none, none⟩] :
            List (RunPatch Float)),
        let e : Edit (RunPatch Float) := ⟨.builtin, ⟨1767232800, 0⟩, patch⟩
        patch.complaints = [] ∧
          (∃ fault, ((runDetails (.numbered 2 1)).event e).result db = .error (.storage fault)) ∧
          (((runDetails (.numbered 2 1)).event e).after db).tables.runs.map
            (fun r => (r.notes, r.startedAt)) = db.tables.runs.map fun r => (r.notes, r.startedAt) := by
  intro db
  refine ⟨by unfold Tables.Takes; decide +kernel,
    List.forall_mem_cons.mpr ⟨?_, List.forall_mem_singleton.mpr ?_⟩⟩
  all_goals
    intro e
    exact ⟨rfl, isStorageFault_iff.mp (by decide +kernel), by decide +kernel⟩

end PrintFarm
