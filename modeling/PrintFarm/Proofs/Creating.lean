import PrintFarm.Proofs.Deciding
import PrintFarm.Proofs.Settling

/-!
# How a run is created

A run is created with its items and lines or not at all.  `Creation` says for every request which of
the two it is, why it is refused if it is, and else what is answered and what has become of the
tables.

* `NewRun.Opens`, `NewItem.Planned` and `NewMaterial.Planned` say what the rows hold of what was
  requested.
* `Workflow.created` reads the answer off the tables, and `creation_decided` holds of every history.
-/

namespace PrintFarm

open Store Tx

variable {α : Type} [Scalar α]

/-! ## What is created -/

/-- The run is in progress, with the details that were requested and nothing of its end. -/
structure NewRun.Opens (new : NewRun α) (now : Timestamp) (r : Run α) : Prop where
  status_eq : r.status = .inProgress
  startedAt_eq : r.startedAt = (new.startedAt.getD now).stored
  estimatedHours_eq : r.estimatedHours = new.estimatedHours
  printer_eq : r.printerName = new.printerName ∧ r.slicerSoftware = new.slicerSoftware
  temperatures_eq : r.bedTemperature = new.bedTemperature ∧
    r.nozzleTemperature = new.nozzleTemperature
  notes_eq : r.notes = new.notes
  unended : r.completedAt = none ∧ r.durationHours = none ∧ r.wasteReason = none ∧
    r.wasteGrams = none ∧ r.cancelMode = none
  stamps_eq : r.createdAt = now.stored ∧ r.updatedAt = now.stored

/-- The item plans what was requested, and no print of it is counted. -/
structure NewItem.Planned (new : NewItem α) (run : Uuid) (i : Item α) : Prop where
  run_eq : i.run = run
  model_eq : i.model = new.model
  name_eq : i.modelName = new.modelName
  quantity_eq : i.quantity = new.quantity
  position_eq : i.bedPosition = new.bedPosition
  weight_eq : i.modelWeight = new.modelWeight
  cost_eq : i.estimatedUnitCost = storedOption new.estimatedUnitCost
  uncounted : i.successful = 0 ∧ i.failed = 0
  unpriced : i.actualUnitCost = none

/-- The line plans what was requested, and nothing of it is measured. -/
structure NewMaterial.Planned (new : NewMaterial α) (run : Uuid) (m : Material α) : Prop where
  run_eq : m.run = run
  spool_eq : m.spool = new.spool
  model_eq : m.estimatedModel = new.estimatedModel
  flushed_eq : m.estimatedFlushed = new.estimatedFlushed
  tower_eq : m.estimatedTower = new.estimatedTower
  total_eq : m.estimatedTotal = new.estimatedModel + new.estimatedFlushed.getD Scalar.zero +
    new.estimatedTower.getD Scalar.zero
  unmeasured : m.actualTotal = none ∧ m.entryMode = none ∧ m.weighedBefore = none ∧
    m.weighedAfter = none
  unfixed : m.estimatedCost = none ∧ m.totalCost = none ∧ m.variance = none ∧ m.costPerGram = none

/-- The start of the run can be stored, and so can all texts of the request. -/
def RunRequest.storable (request : RunRequest α) : Bool :=
  storableRun request.run && request.items.all fun i => allStorable [i.modelName, i.bedPosition]

omit [Scalar α] in
theorem RunRequest.storable_of_decodable {request : RunRequest α}
    (h : request.decodable = true) : request.storable = true := by
  obtain ⟨hrun, hitems⟩ := Bool.and_eq_true_iff.mp h
  refine Bool.and_eq_true_iff.mpr ⟨hrun, List.all_eq_true.mpr fun i hi => ?_⟩
  exact (Bool.and_eq_true_iff.mp (List.all_eq_true.mp hitems i hi)).1

/-- What comes of creating a run: why it is refused, and then the tables stay, or what is answered
and the tables with the rows that were added. -/
inductive Creation (now : Timestamp) (t : Tables α) (request : RunRequest α) :
    Except (Refusal α) (Answer α) → Tables α → Prop
  | invalid (hinvalid : ¬(request.Valid ∧ request.items ≠ []))
    (hcomplaints : request.complaints ≠ []) :
    Creation now t request (.error (.invalid request.complaints)) t
  | missing {earlier later : List (NewMaterial α)} {m : NewMaterial α}
    (hvalid : request.Valid ∧ request.items ≠ [])
    (hsplit : request.materials = earlier ++ m :: later)
    (hearlier : ∀ l ∈ earlier, ∃ s ∈ t.spools, s.id = l.spool)
    (hmissing : ∀ s ∈ t.spools, s.id ≠ m.spool) :
    Creation now t request (.error (.notFound .spool m.spool)) t
  | unstorable {fault : StorageFault} (hvalid : request.Valid ∧ request.items ≠ [])
    (hspools : ∀ m ∈ request.materials, ∃ s ∈ t.spools, s.id = m.spool)
    (hstorable : request.storable = false) :
    Creation now t request (.error (.storage fault)) t
  | created {r : Run α} {items : List (Item α)} {materials : List (Material α)}
    {lines : List (MaterialLine α)} (hvalid : request.Valid ∧ request.items ≠ [])
    (hspools : ∀ m ∈ request.materials, ∃ s ∈ t.spools, s.id = m.spool)
    (hstorable : request.storable = true)
    (hrun : request.run.Opens now r) (hnew : ∀ s ∈ t.runs, s.id ≠ r.id)
    (hjournal : ∀ d ∈ t.deductions, d.run ≠ r.id)
    (hitems : List.Forall₂ (fun new i => new.Planned r.id i) request.items items)
    (hmaterials : List.Forall₂ (fun new m => new.Planned r.id m) request.materials materials)
    (hlines : List.Forall₂ (fun m l => ∃ s ∈ t.spools, s.id = m.spool ∧
      l = PricedMaterial.line ⟨m, s.label, s.costPerGram⟩) materials lines) :
    Creation now t request (.ok (.snapshot (.assemble r items lines [])))
      { t with
        runs := t.runs ++ [r], items := t.items ++ items, materials := t.materials ++ materials }

/-! ## Rows and requests -/

section Rows

variable {now : Timestamp} {run id : Uuid}

/-- A column holds an amount that is asked for, and nothing where nothing is. -/
theorem storedOption_asked [StockScalar α] {x : Option α}
    (h : ∀ y ∈ x, Scalar.isNonNegative y = true) : storedOption x = x := by
  cases x with
  | none => rfl
  | some y => exact storedOption_some (isAmount_of_isNonNegative (h y rfl))

omit [Scalar α] in
theorem NewRun.opens_row (now : Timestamp) (id : Uuid) (counter : Int) (new : NewRun α) :
    new.Opens now (runRow now id counter new new.estimatedHours) where
  status_eq := rfl
  startedAt_eq := rfl
  estimatedHours_eq := rfl
  printer_eq := ⟨rfl, rfl⟩
  temperatures_eq := ⟨rfl, rfl⟩
  notes_eq := rfl
  unended := ⟨rfl, rfl, rfl, rfl, rfl⟩
  stamps_eq := ⟨rfl, rfl⟩

variable [StockScalar α]

theorem NewItem.Valid.planned_row {new : NewItem α} (h : new.Valid) :
    new.Planned run (itemRow now run id new) where
  run_eq := rfl
  model_eq := rfl
  name_eq := rfl
  quantity_eq := rfl
  position_eq := rfl
  weight_eq := storedOption_asked h.weight
  cost_eq := rfl
  uncounted := ⟨rfl, rfl⟩
  unpriced := rfl

theorem NewMaterial.Valid.planned_row {new : NewMaterial α} (h : new.Valid) :
    new.Planned run (materialRow now run id new new.estimatedModel new.estimatedTotal) where
  run_eq := rfl
  spool_eq := rfl
  model_eq := rfl
  flushed_eq := storedOption_asked h.flushed
  tower_eq := storedOption_asked h.tower
  total_eq := rfl
  unmeasured := ⟨rfl, rfl, rfl, rfl⟩
  unfixed := ⟨rfl, rfl, rfl, rfl⟩

/-- Items that are added plan one by one what was requested. -/
theorem planned_items {news : List (NewItem α)} {items : List (Item α)}
    (hvalid : ∀ new ∈ news, new.Valid) (h : List.Forall₂ (fun new i =>
      i = itemRow now run i.id new ∧ acceptsItem i = true) news items) :
    List.Forall₂ (fun new i => new.Planned run i) news items := by
  refine ((List.forall₂_and_left _ _).mpr ⟨hvalid, h⟩).imp fun new i h => ?_
  obtain ⟨hnew, hrow, -⟩ := h
  rw [hrow]
  exact hnew.planned_row

/-- Lines that are added plan one by one what was requested. -/
theorem planned_materials {news : List (NewMaterial α)} {materials : List (Material α)}
    (hvalid : ∀ new ∈ news, new.Valid) (h : List.Forall₂ (fun new m =>
      m = materialRow now run m.id new new.estimatedModel new.estimatedTotal ∧
        acceptsMaterial m = true) news materials) :
    List.Forall₂ (fun new m => new.Planned run m) news materials := by
  refine ((List.forall₂_and_left _ _).mpr ⟨hvalid, h⟩).imp fun new m h => ?_
  obtain ⟨hnew, hrow, -⟩ := h
  rw [hrow]
  exact hnew.planned_row

omit [Scalar α] [StockScalar α] in
/-- Of rows with new ones behind them, those that are selected are the new ones. -/
theorem filter_append_new {ρ : Type} {p : ρ → Bool} {old new : List ρ}
    (hold : ∀ r ∈ old, p r = false) (hnew : ∀ r ∈ new, p r = true) :
    (old ++ new).filter p = new := by
  rw [List.filter_append, List.filter_eq_nil_iff.mpr fun r hr => by simp [hold r hr],
    List.filter_eq_self.mpr hnew, List.nil_append]

omit [StockScalar α] in
/-- Lines of spools that are there are shown one by one with their label and price. -/
theorem forall₂_lines {spools : List (Spool α)} {rows : List (Material α)}
    (h : ∀ m ∈ rows, m.spool ∈ spools.map Spool.id) :
    List.Forall₂ (fun m l => ∃ s ∈ spools, s.id = m.spool ∧
      l = PricedMaterial.line ⟨m, s.label, s.costPerGram⟩) rows
      ((rows.filterMap (priced? spools)).map PricedMaterial.line) := by
  induction rows with
  | nil => exact .nil
  | cons m rows ih =>
    obtain ⟨hm, hrows⟩ := List.forall_mem_cons.mp h
    obtain ⟨s, hs, hid, hpriced⟩ := Workflow.priced?_of_mem hm
    rw [List.filterMap_cons_some hpriced, List.map_cons]
    exact .cons ⟨s, hs, hid, rfl⟩ (ih hrows)

end Rows

/-! ## One call -/

namespace Workflow

variable {now : Timestamp} {db db' : Database α} {run : Uuid}

/-- The texts of items that were added can be stored, and their quantities are counts. -/
theorem decodable_of_gives_insertItems {items : List (NewItem α)} {u : PUnit}
    (h : Gives (items.forM fun i => do let _ ← insertItem now run i) db u db') :
    ∀ i ∈ items, i.decodable = true := by
  induction items generalizing db with
  | nil => simp
  | cons i items ih =>
    obtain ⟨_, db₁, hfirst, hrest⟩ := gives_bind.mp h
    obtain ⟨row, _, hrow, -⟩ := gives_bind.mp hfirst
    obtain ⟨rfl, htexts, haccepts, -⟩ := gives_insertItem.mp hrow
    simp only [acceptsItem, Bool.and_eq_true] at haccepts
    refine List.forall_mem_cons.mpr ⟨?_, ih hrest⟩
    exact Bool.and_eq_true_iff.mpr ⟨htexts, haccepts.1.1.1.1.1⟩

/-- A run is created only where nothing is wrong with it, its spools are there, and its texts and its
start can be stored. -/
theorem decodable_of_createRun {request : RunRequest α} {view : Snapshot α}
    (h : Gives (createRun now request) db view db') :
    request.complaints = [] ∧ (∀ m ∈ request.materials, ∃ s ∈ db.tables.spools, s.id = m.spool) ∧
      request.decodable = true := by
  simp only [createRun, gives_atomically, gives_bind, gives_check] at h
  obtain ⟨_, _, ⟨hvalid, rfl⟩, _, _, hfound, _, _, hrun, _, _, hitems, -⟩ := h
  have hspools := found_of_gives_findSpools hfound
  have hstorable := (gives_insertRun.mp hrun).1
  refine ⟨refuseIfAny_eq_ok.mp hvalid, hspools, Bool.and_eq_true_iff.mpr ⟨hstorable, ?_⟩⟩
  exact List.all_eq_true.mpr (decodable_of_gives_insertItems hitems)

/-- What belongs to a run that is new is what was added with it. -/
theorem belongings_of_created {t : Tables α} (ht : t.Consistent) {r : Run α}
    (hnew : ∀ s ∈ t.runs, s.id ≠ r.id) {items : List (Item α)} {materials : List (Material α)}
    (hitems : ∀ i ∈ items, i.run = r.id) (hmaterials : ∀ m ∈ materials, m.run = r.id) :
    let t' : Tables α := { t with
      runs := t.runs ++ [r], items := t.items ++ items, materials := t.materials ++ materials }
    t'.itemsOf r.id = items ∧ t'.materialsOf r.id = materials ∧ t'.platesOf r.id = [] := by
  have hnone : r.id ∉ t.runs.map Run.id := by
    intro hmem
    obtain ⟨s, hs, hid⟩ := List.mem_map.mp hmem
    exact hnew s hs hid
  refine ⟨filter_append_new (fun i hi => ?_) fun i hi => decide_eq_true (hitems i hi),
    filter_append_new (fun m hm => ?_) fun m hm => decide_eq_true (hmaterials m hm),
    List.filter_eq_nil_iff.mpr fun p hp => ?_⟩
  · exact decide_eq_false fun hrun => hnone (hrun ▸ ht.itemRuns i hi)
  · exact decide_eq_false fun hrun => hnone (hrun ▸ ht.materialRuns m hm)
  · simpa using fun hrun : p.run = r.id => hnone (hrun ▸ ht.plateRuns p hp)

variable [StockScalar α]

/-- A run that was created is as it was requested. -/
theorem created (catalog : Catalog) (hdb : db.tables.Consistent) {request : RunRequest α}
    {view : Snapshot α} (h : Gives (createRun now request) db view db') :
    Creation now db.tables request (.ok (.snapshot view)) db'.tables := by
  obtain ⟨-, hspools, hdecodable⟩ := decodable_of_createRun h
  have hstorable := RunRequest.storable_of_decodable hdecodable
  obtain ⟨r, -, hnew, hruns, hview⟩ := shown_of_createRun h
  have hstep : Step catalog now db.tables (.createRun request) db'.tables := step_createRun hdb h
  have ht' := hstep.consistent hdb
  obtain ⟨q, hq, rfl, -⟩ := gives_snapshot.mp hview
  generalize htables : db'.tables = t' at *
  cases hstep with
  | read hread => exact nomatch hread
  | close _ _ hcloses => exact nomatch hcloses.ends?_eq
  | movePlate hmoves => exact nomatch hmoves
  | @createRun _ id counter r₁ items materials hvalid hrow _ _ _ hitems _ _ hmaterials _ _ hstock =>
    have hvalid := RunRequest.complaints_eq_nil.mp hvalid
    -- the row that was added is the one that is shown
    obtain rfl : r₁ = r := List.singleton_inj.mp (List.append_cancel_left hruns)
    have hr : r₁ ∈ db.tables.runs ++ [r₁] := List.mem_append_right _ List.mem_cons_self
    obtain rfl : r₁ = q := Option.some.inj ((ht'.find_run hr).symm.trans hq)
    have hitems := planned_items hvalid.1.items hitems
    have hmaterials := planned_materials hvalid.1.materials hmaterials
    obtain ⟨hitemsOf, hmaterialsOf, hplatesOf⟩ := belongings_of_created hdb hnew
      (fun i hi => by
        obtain ⟨_, -, hplanned⟩ := exists_of_forall₂ hitems hi
        exact hplanned.run_eq)
      (fun m hm => by
        obtain ⟨_, -, hplanned⟩ := exists_of_forall₂ hmaterials hm
        exact hplanned.run_eq)
    have hopens : request.run.Opens now r₁ := hrow ▸ NewRun.opens_row now id counter request.run
    rw [Tables.linesOf, hitemsOf, hmaterialsOf, hplatesOf]
    refine .created hvalid hspools hstorable hopens hnew (fun d hd hrun => ?_) hitems hmaterials
      (forall₂_lines hstock)
    obtain ⟨s, hs, hpair⟩ := List.mem_map.mp (hdb.deductionRuns d hd)
    exact hnew s hs ((congrArg Prod.fst hpair).trans hrun)

/-- Where no run is created, this is why. -/
theorem not_created (hdb : db.Orderly) {request : RunRequest α} {why : Refusal α}
    (hquantities : ∀ i ∈ request.items, fitsCount i.quantity = true)
    (h : Refuses (createRun now request) db why db') (hdistinct : db'.sequences.Distinct) :
    Creation now db.tables request (.error why) db.tables := by
  obtain ⟨db₁, hbody, -⟩ := refuses_atomically.mp h
  rcases refuses_bind.mp hbody with hrefused | ⟨_, _, hcheck, hsearch⟩
  · have hwhy := (refuses_check.mp hrefused).1
    have hsome : request.complaints ≠ [] := by
      intro hnil
      rw [hnil] at hwhy
      exact nomatch hwhy
    obtain rfl := Except.error.inj ((refuseIfAny_of_ne_nil hsome).symm.trans hwhy)
    exact .invalid (fun hvalid => hsome (RunRequest.complaints_eq_nil.mpr hvalid)) hsome
  obtain ⟨hvalid, rfl⟩ := gives_check.mp hcheck
  have hvalid := RunRequest.complaints_eq_nil.mp (refuseIfAny_eq_ok.mp hvalid)
  rcases refuses_bind.mp hsearch with hrefused | ⟨_, _, hspools, hcreate⟩
  · obtain ⟨earlier, m, later, hsplit, hearlier, hmissing, rfl⟩ := refuses_findSpools hrefused
    exact .missing hvalid hsplit hearlier hmissing
  have hfound := found_of_gives_findSpools hspools
  obtain ⟨fault, rfl⟩ := refusedByTables_addRun now request _ _ _ hcreate
  refine .unstorable hvalid hfound ?_
  -- what can be stored the tables take
  refine Bool.eq_false_iff.mpr fun hstorable => ?_
  obtain ⟨hrun, hitems⟩ := Bool.and_eq_true_iff.mp hstorable
  refine clean_createRun hdb (Bool.and_eq_true_iff.mpr ⟨hrun, ?_⟩) fault _ h hdistinct
  refine List.all_eq_true.mpr fun i hi => Bool.and_eq_true_iff.mpr ⟨?_, hquantities i hi⟩
  exact List.all_eq_true.mp hitems i hi

end Workflow

/-! ## Every history -/

/-- Whatever operations were performed before, it is decided for every request whether it creates a
run, and if not, why. -/
theorem creation_decided [StockScalar α] (start : Sequences) (hstart : 0 ≤ start.runNumber)
    (events : List (Event α)) (catalog : Catalog) (now : Timestamp) (request : RunRequest α)
    (hquantities : ∀ i ∈ request.items, fitsCount i.quantity = true)
    (hdistinct : (Event.after ⟨catalog, now, .createRun request⟩
      ((Database.fresh start).afterAll events)).sequences.Distinct) :
    let db := (Database.fresh start).afterAll events
    let e : Event α := ⟨catalog, now, .createRun request⟩
    Creation now db.tables request (e.run db).1 (e.after db).tables := by
  intro db e
  have horderly : db.Orderly := orderly_afterAll hstart events
  exact e.run_cases rfl (fun _ _ h => Workflow.created catalog horderly.consistent h)
    fun _ h => Workflow.not_created horderly hquantities h hdistinct

/-- A spool, and no run yet. -/
def shelvedSession : List (Event Float) :=
  [⟨.builtin, ⟨1767225600, 0⟩, .createSpool ⟨"PLA", "PLA", none, 1000.0, 0.02⟩⟩]

/-- A run for two models with a line on the spool. -/
def benchRequest (startedAt : Option Timestamp) (notes : String) : RunRequest Float :=
  ⟨⟨startedAt, 2.0, none, none, none, none, some notes⟩,
    [⟨.numbered 9 1, none, 2, none, none, none⟩, ⟨.numbered 9 2, none, 1, none, some 12.5, none⟩],
    [⟨.numbered 1 1, 40.0, some 1.0, none⟩]⟩

/-- The run is created, also with a start in the first second that a table can keep. -/
theorem early_run_created :
    let db := (Database.fresh {}).afterAll shelvedSession
    let request := benchRequest (some ⟨-210866803200, 0⟩) "two benches"
    let e : Event Float := ⟨.builtin, ⟨1767232800, 0⟩, .createRun request⟩
    (0 : Int) ≤ ({} : Sequences).runNumber ∧
      (∀ i ∈ request.items, fitsCount i.quantity = true) ∧ (e.after db).sequences.Distinct ∧
      (e.run db).1.isOk = true ∧
      Creation ⟨1767232800, 0⟩ db.tables request (e.run db).1 (e.after db).tables := by
  intro db request e
  have hstart : (0 : Int) ≤ ({} : Sequences).runNumber := by decide
  have hquantities : ∀ i ∈ request.items, fitsCount i.quantity = true := by decide +kernel
  have hdistinct : (e.after db).sequences.Distinct := by constructor <;> decide +kernel
  have hcreated := creation_decided {} hstart shelvedSession .builtin ⟨1767232800, 0⟩ request
    hquantities hdistinct
  exact ⟨hstart, hquantities, hdistinct, by decide +kernel, hcreated⟩

/-- The run with a note that no column can hold, and the run with a start in the year -5000. -/
def unstorableRequests : List (RunRequest Float) :=
  [benchRequest none "a\x00b", benchRequest (some ⟨-219951936000, 0⟩) "two benches"]

/-- Neither of them is created, although the rest of the request is in order and the spool is
there. -/
theorem unstorable_requests_refused :
    let db := (Database.fresh {}).afterAll shelvedSession
    ∀ request ∈ unstorableRequests,
      let e : Event Float := ⟨.builtin, ⟨1767232800, 0⟩, .createRun request⟩
      (request.Valid ∧ request.items ≠ []) ∧
        (∀ m ∈ request.materials, ∃ s ∈ db.tables.spools, s.id = m.spool) ∧
        (e.after db).sequences.Distinct ∧ ∃ fault, (e.run db).1 = .error (.storage fault) := by
  intro db
  have hvalid : ∀ request ∈ unstorableRequests, request.complaints.isEmpty = true := by
    decide +kernel
  have hspools : ∀ request ∈ unstorableRequests, ∀ m ∈ request.materials,
      ∃ s ∈ db.tables.spools, s.id = m.spool := by decide +kernel
  intro request hrequest e
  refine ⟨RunRequest.complaints_eq_nil.mp (List.isEmpty_iff.mp (hvalid request hrequest)),
    hspools request hrequest, ?_⟩
  obtain rfl | rfl : request = _ ∨ request = _ := by simpa [unstorableRequests] using hrequest
  · exact ⟨by constructor <;> decide +kernel, isStorageFault_iff.mp (by decide +kernel)⟩
  · exact ⟨by constructor <;> decide +kernel, isStorageFault_iff.mp (by decide +kernel)⟩

end PrintFarm
