import PrintFarm.Proofs.Steps
import PrintFarm.Workflow.Measuring
import PrintFarm.Workflow.Planning

/-!
# Planning and measuring, step by step

Every accepted operation that plans a run or measures its materials is a step.
-/

namespace PrintFarm.Workflow

open Store Tx

variable {α : Type} [Scalar α] {catalog : Catalog} {now : Timestamp} {db db' : Database α}
  {run : Uuid}

/-! ## Registering spools -/

theorem step_createSpool {new : NewSpool α} {s : Spool α}
    (h : Gives (createSpool now new) db s db') :
    Step catalog now db.tables (.createSpool new) db'.tables := by
  simp only [createSpool, gives_atomically, gives_bind, gives_check, refuseIfAny_eq_ok,
    gives_insertSpool, Scalar.stored?_eq_some] at h
  obtain ⟨_, _, ⟨hvalid, rfl⟩, -, ⟨_, _, ⟨hw, rfl⟩, ⟨hp, rfl⟩, hwn, hpn, rfl⟩, hid, rfl⟩ := h
  exact .createSpool hvalid hid ⟨hw, hwn⟩ ⟨hp, hpn⟩

/-! ## Creating runs -/

/-- The items of a new run come one by one. -/
theorem gives_insertItems :
    ∀ {items : List (NewItem α)} {db : Database α} {u : PUnit},
      Gives (items.forM fun i => do let _ ← insertItem now run i) db u db' →
      (db.tables.items.map Item.id).Nodup →
      (db.tables.items.map fun i => (i.run, i.model)).Nodup →
      ∃ rows, db'.tables = { db.tables with items := db.tables.items ++ rows } ∧
        List.Forall₂ (fun new i => i = itemRow now run i.id new ∧ acceptsItem i = true)
          items rows ∧
        ((db.tables.items ++ rows).map Item.id).Nodup ∧
        ((db.tables.items ++ rows).map fun i => (i.run, i.model)).Nodup
  | [], db, _, h, hids, hmodels => by
    obtain ⟨-, rfl⟩ := gives_pure.mp h
    refine ⟨[], by simp, List.Forall₂.nil, ?_, ?_⟩
    · rwa [List.append_nil]
    · rwa [List.append_nil]
  | new :: items, db, _, h, hids, hmodels => by
    obtain ⟨_, db₁, hnew, hrest⟩ := gives_bind.mp h
    simp only [gives_bind, gives_pure, gives_insertItem] at hnew
    obtain ⟨_, _, ⟨rfl, -, haccepts, hid, hmodel, -, rfl⟩, -, rfl⟩ := hnew
    have hmodel' : ∀ j ∈ db.tables.items, (j.run, j.model) ≠ (run, new.model) := by
      intro j hj heq
      obtain ⟨hr, hm⟩ := Prod.mk.injEq .. ▸ heq
      rcases hmodel j hj with hne | hne
      · exact hne hr
      · exact hne hm
    obtain ⟨rows, htables, hrows, hids', hmodels'⟩ := gives_insertItems hrest
      (nodup_map_concat hids hid) (nodup_map_concat hmodels hmodel')
    refine ⟨_ :: rows, ?_, List.Forall₂.cons ⟨rfl, haccepts⟩ hrows, ?_, ?_⟩
    · rw [htables]
      simp
    · simpa using hids'
    · simpa using hmodels'

/-- The material lines of a new run come one by one. -/
theorem gives_insertMaterials :
    ∀ {materials : List (NewMaterial α)} {db : Database α} {u : PUnit},
      Gives (materials.forM fun m => do let _ ← insertMaterial now run m m.estimatedTotal)
        db u db' →
      (db.tables.materials.map Material.id).Nodup →
      (db.tables.materials.map fun m => (m.run, m.spool)).Nodup →
      ∃ rows, db'.tables = { db.tables with materials := db.tables.materials ++ rows } ∧
        List.Forall₂ (fun new m =>
          m = materialRow now run m.id new new.estimatedModel new.estimatedTotal ∧
            acceptsMaterial m = true) materials rows ∧
        ((db.tables.materials ++ rows).map Material.id).Nodup ∧
        ((db.tables.materials ++ rows).map fun m => (m.run, m.spool)).Nodup ∧
        ∀ m ∈ rows, m.spool ∈ db.tables.spools.map Spool.id
  | [], db, _, h, hids, hspools => by
    obtain ⟨-, rfl⟩ := gives_pure.mp h
    refine ⟨[], by simp, List.Forall₂.nil, ?_, ?_, by simp⟩
    · rwa [List.append_nil]
    · rwa [List.append_nil]
  | new :: materials, db, _, h, hids, hspools => by
    obtain ⟨_, db₁, hnew, hrest⟩ := gives_bind.mp h
    simp only [gives_bind, gives_pure, gives_insertMaterial, Scalar.stored?_eq_some] at hnew
    obtain ⟨_, _, ⟨⟨_, _, ⟨-, rfl⟩, ⟨-, rfl⟩, rfl⟩, haccepts, hid, hspool, -, ⟨s, hs, hstock⟩,
      rfl⟩, -, rfl⟩ := hnew
    have hspool' : ∀ l ∈ db.tables.materials, (l.run, l.spool) ≠ (run, new.spool) := by
      intro l hl heq
      obtain ⟨hr, hm⟩ := Prod.mk.injEq .. ▸ heq
      rcases hspool l hl with hne | hne
      · exact hne hr
      · exact hne hm
    obtain ⟨rows, htables, hrows, hids', hspools', hlines⟩ := gives_insertMaterials hrest
      (nodup_map_concat hids hid) (nodup_map_concat hspools hspool')
    refine ⟨_ :: rows, ?_, List.Forall₂.cons ⟨rfl, haccepts⟩ hrows, ?_, ?_, ?_⟩
    · rw [htables]
      simp
    · simpa using hids'
    · simpa using hspools'
    · refine List.forall_mem_cons.mpr ⟨?_, hlines⟩
      exact List.mem_map.mpr ⟨s, hs, hstock⟩

omit [Scalar α] in
/-- Looking for spools changes nothing. -/
theorem gives_findSpools {materials : List (NewMaterial α)} {u : PUnit}
    (h : Gives (materials.forM fun m => do
      let _ ← expect (← spool? m.spool) (.notFound .spool m.spool)) db u db') : db' = db := by
  refine gives_forM (fun d => d = db) (fun m _ d u d' hd h => ?_) rfl h
  simp only [gives_bind, gives_spool?, gives_expect, gives_pure] at h
  obtain ⟨_, _, ⟨_, rfl⟩, _, _, ⟨_, rfl⟩, _, rfl⟩ := h
  exact hd

theorem step_createRun (hdb : db.tables.Consistent) {request : RunRequest α} {view : Snapshot α}
    (h : Gives (createRun now request) db view db') :
    Step catalog now db.tables (.createRun request) db'.tables := by
  simp only [createRun, gives_atomically, gives_bind, gives_check, refuseIfAny_eq_ok] at h
  obtain ⟨_, _, ⟨hvalid, rfl⟩, _, db₁, hfound, r, db₂, hrun, _, db₃, hitems, _, db₄, hmaterials,
    hview⟩ := h
  obtain rfl := gives_findSpools hfound
  obtain rfl := (reads_snapshot _).gives hview
  simp only [gives_insertRun, Scalar.stored?_eq_some] at hrun
  obtain ⟨-, ⟨_, ⟨-, rfl⟩, hrow⟩, haccepts, hid, hnumber, rfl⟩ := hrun
  obtain ⟨items, htables₁, hitems, hitemIds, hmodels⟩ :=
    gives_insertItems hitems hdb.itemIds hdb.itemModels
  obtain ⟨materials, htables₂, hmaterials, hmaterialIds, hspools, hstock⟩ :=
    gives_insertMaterials hmaterials (htables₁ ▸ hdb.materialIds) (htables₁ ▸ hdb.materialSpools)
  rw [htables₁] at hmaterialIds hspools hstock
  rw [htables₂, htables₁]
  have hid' : ∀ s ∈ db₁.tables.runs, ¬s.id = r.id := by
    rw [hrow]
    exact hid
  exact .createRun hvalid hrow haccepts hid' hnumber hitems hitemIds hmodels hmaterials
    hmaterialIds hspools hstock

/-! ## Editing runs and items -/

theorem step_updateRun (hdb : db.tables.Consistent) {patch : RunPatch α} {row : Run α}
    (h : Gives (updateRun now run patch) db row db') :
    Step catalog now db.tables (.updateRun run patch) db'.tables := by
  simp [updateRun, and_assoc, gives_updateRun] at h
  obtain ⟨hvalid, r, hfound, h⟩ := h
  have hr : r ∈ db.tables.runs := List.mem_of_find?_eq_some hfound
  have hrun : r.id = run := by simpa using List.find?_some hfound
  have hmutable : patch.isNotesOnly = true ∨ r.status = .inProgress := by
    rcases h with ⟨-, hp, -⟩ | ⟨hnotes, -⟩
    · exact Or.inr hp
    · exact Or.inl hnotes
  have hwrite : acceptsRun (editedRun now patch r) = true ∧
      db'.tables = { db.tables with
        runs := changeRows (fun r => r.id = run) (fun _ => editedRun now patch r)
          db.tables.runs } := by
    rcases h with ⟨-, -, -, s, hs, haccepts, rfl, -⟩ | ⟨-, -, s, hs, haccepts, rfl, -⟩
    · obtain rfl := Option.some.inj (hfound.symm.trans hs)
      exact ⟨haccepts, rfl⟩
    · obtain rfl := Option.some.inj (hfound.symm.trans hs)
      exact ⟨haccepts, rfl⟩
  rw [hwrite.2]
  subst hrun
  rw [changeRows_const hdb.runIds hr]
  exact .updateRun hvalid hr rfl hmutable hwrite.1

theorem step_updateOutcome (hdb : db.tables.Consistent) {item : Uuid} {outcome : Outcome}
    {row : Item α} (h : Gives (updateOutcome now run item outcome) db row db') :
    Step catalog now db.tables (.updateOutcome run item outcome) db'.tables := by
  simp [updateOutcome, and_assoc, gives_setOutcome] at h
  obtain ⟨r, hr, hp, i, hfound, -, j, hj, haccepts, -, rfl⟩ := h
  have hi : i ∈ db.tables.items := List.mem_of_find?_eq_some hfound
  obtain ⟨hid, hrun⟩ : i.id = item ∧ i.run = run := by simpa using List.find?_some hfound
  have hji : j = i := by
    refine eq_of_key_eq hdb.itemIds (List.mem_of_find?_eq_some hj) hi ?_
    rw [hid]
    simpa using List.find?_some hj
  subst hji hid
  rw [changeRows_const hdb.itemIds hi fun i => i.withOutcome outcome]
  exact .updateOutcome (.of_find? hr hp) hi rfl hrun haccepts

/-! ## Materials -/

theorem step_addMaterial {new : NewMaterial α} {line : MaterialLine α}
    (h : Gives (addMaterial now run new) db line db') :
    Step catalog now db.tables (.addMaterial run new) db'.tables := by
  simp [addMaterial, and_assoc, Scalar.stored?_eq_some] at h
  obtain ⟨hvalid, r, hr, hp, -, -, -, -, haccepts, hid, hspool, -, ⟨s, hs, hstock⟩, -, rfl⟩ := h
  exact .addMaterial hvalid (.of_find? hr hp) rfl haccepts hid hspool
    (List.mem_map.mpr ⟨s, hs, hstock⟩)

theorem step_removeMaterial {material : Uuid} {u : Unit}
    (h : Gives (removeMaterial now run material) db u db') :
    Step catalog now db.tables (.removeMaterial run material) db'.tables := by
  simp [removeMaterial, and_assoc] at h
  obtain ⟨r, hr, hp, -, rfl⟩ := h
  have hstep : Step catalog now db.tables (.removeMaterial run material) _ :=
    .removeMaterial (.of_find? hr hp)
  simpa [Tables.touched] using hstep

/-! ## Measuring -/

theorem step_recordActual {material : Uuid} {request : MeasurementRequest α}
    {line : MaterialLine α} (h : Gives (recordActual now run material request) db line db') :
    Step catalog now db.tables (.recordActual run material request) db'.tables := by
  simp [recordActual, Store.recordActual, and_assoc] at h
  obtain ⟨measurement, hmeasurement, reading, hreading, r, hr, hp, ⟨l, hl⟩, haccepts, -, rfl⟩ := h
  obtain ⟨m, hfound, -⟩ := Option.bind_eq_some_iff.mp hl
  have hm : m ∈ db.tables.materials := List.mem_of_find?_eq_some hfound
  obtain ⟨hid, hrun⟩ : m.id = material ∧ m.run = run := by simpa using List.find?_some hfound
  have hrow : acceptsMaterial (m.record reading) = true := by
    rcases haccepts m hm with hne | hrow
    · exact absurd hid hne
    · exact hrow
  exact .recordActual hmeasurement hreading (.of_find? hr hp) hm hid hrun hrow

theorem step_resetActuals {lines : List (MaterialLine α)}
    (h : Gives (resetActuals now run) db lines db') :
    Step catalog now db.tables (.resetActuals run) db'.tables := by
  simp [resetActuals, Store.resetActuals, and_assoc] at h
  obtain ⟨r, hr, hp, haccepts, rfl, -⟩ := h
  refine .resetActuals (.of_find? hr hp) fun m hm hrun => ?_
  rcases haccepts m hm with hne | hrow
  · exact absurd hrun hne
  · exact hrow

end PrintFarm.Workflow
