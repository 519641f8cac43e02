import PrintFarm.Proofs.Refusing

/-!
# Refusals that never happen

Between a check and the change it allows, somebody else might change the row.  The workflows are
ready for that: where a guarded query takes no row, or a row that was found is gone, they refuse.
As long as one operation is performed after the other, none of these refusals happens.

* There is one lemma for each workflow, named `founded_` and its name.  Every refusal is one that the
  tables bear out as they were before the operation (`Refusal.Founded`).  What closes a fallback is
  what was given before it: the row that was found, or the agreement of check and guard.
* A run in progress has no row in the journal, so nothing is skipped when it ends
  (`Run.undeducted`).
* `fallbacks_unreachable` puts this together with `Item.Guarded` and `Plate.Guarded`.
-/

namespace PrintFarm

open Store Tx

variable {α : Type}

/-! ## Planning and measuring -/

namespace Workflow

variable [Scalar α] {now : Timestamp} {db : Database α} {run : Uuid}

theorem founded_createSpool (new : NewSpool α) :
    RefusesOnly (Refusal.Founded db.tables (.createSpool new)) (createSpool now new) db :=
  .atomically (.refuseIfAny new.regular_complaints fun _ =>
    (refusedByTables_insertSpool new).founded)

theorem founded_findSpools {op : Operation α} (materials : List (NewMaterial α)) :
    RefusesOnly (Refusal.Founded db.tables op) (materials.forM fun m => do
      let _ ← expect (← spool? m.spool) (.notFound .spool m.spool)) db := by
  induction materials with
  | nil => exact .pure _
  | cons m materials ih =>
    refine .bind (.read (.expect (fun hnone => ?_) fun _ _ => .pure _)) fun _ db₁ h => ?_
    · exact .noSpool (by simpa using hnone)
    · obtain rfl := (reads_findSpool m.spool).gives h
      exact ih

theorem founded_createRun (request : RunRequest α) :
    RefusesOnly (Refusal.Founded db.tables (.createRun request)) (createRun now request) db := by
  refine .atomically (.refuseIfAny request.regular_complaints fun _ => ?_)
  exact .bind (founded_findSpools _) fun _ _ _ => (refusedByTables_addRun now request).founded

theorem founded_updateRun (patch : RunPatch α) :
    RefusesOnly (Refusal.Founded db.tables (.updateRun run patch)) (updateRun now run patch) db := by
  refine .atomically (.refuseIfAny patch.regular_complaints fun _ => .run rfl fun r hr hid => ?_)
  have hwrite : RefusesOnly (Refusal.Founded db.tables (.updateRun run patch))
      (do expect (← Store.updateRun now run patch) (.notFound .run run)) db := by
    refine .bind (refusedByTables_updateRun patch).founded fun row db₁ h => .expected fun hnone => ?_
    -- the run was read, so it is there
    subst hnone
    have hmissing := (gives_updateRun_none.mp h).2.1
    simpa [hid] using List.find?_eq_none.mp hmissing r hr
  exact .ite (fun _ => .checkMutable (hid ▸ rfl) hr fun _ => hwrite) fun _ => hwrite

theorem founded_updateOutcome (item : Uuid) (outcome : Outcome) :
    RefusesOnly (Refusal.Founded db.tables (.updateOutcome run item outcome))
      (updateOutcome now run item outcome) db := by
  refine .atomically (.runInProgress rfl fun r hr _ _ => .read (.expect (fun hnone => ?_)
    fun i hi => .refuseIfAny (Outcome.regular_complaints _ _ _) fun _ => ?_))
  · refine .noRow rfl rfl fun howns => ?_
    obtain ⟨i, hi, hid, hrun⟩ := howns
    simpa [hid, hrun] using List.find?_eq_none.mp hnone i hi
  · refine .bind (refusedByTables_setOutcome outcome).founded fun row db₁ h => ?_
    refine .expect (fun hnone => ?_) fun _ _ => .of_gives rfl
    subst hnone
    obtain ⟨hid, -⟩ : i.id = item ∧ i.run = run := by simpa using List.find?_some hi
    simpa [hid] using List.find?_eq_none.mp (gives_setOutcome_none.mp h).1 i
      (List.mem_of_find?_eq_some hi)

theorem founded_addMaterial (hdb : db.tables.Consistent) (new : NewMaterial α) :
    RefusesOnly (Refusal.Founded db.tables (.addMaterial run new)) (addMaterial now run new) db := by
  refine .atomically (.refuseIfAny (new.regular_complaints _) fun _ => .runInProgress rfl
    fun r hr _ _ => .read (.expect (fun hnone => .noSpool (by simpa using hnone)) fun s hs => ?_))
  refine .read (.ite (fun _ => .refused (.fields (by simp [Problem.isFallback]))) fun _ => ?_)
  refine .bind (refusedByTables_insertMaterial now run new _).founded fun row db₁ hrow => ?_
  refine .bind (.of_gives rfl) fun _ db₂ htouch => fun why db' h => ?_
  obtain rfl := gives_touchRun.mp htouch
  obtain ⟨⟨_, _, -, -, hnew⟩, -, -, -, -, hstock, rfl⟩ := gives_insertMaterial.mp hrow
  -- the line was added a moment before
  refine absurd h (not_refuses_line (fun m hm => ?_) ⟨row, by simp, rfl, by rw [hnew]; rfl⟩)
  rcases List.mem_append.mp hm with hm | hm
  · exact hdb.lineSpools m hm
  · obtain rfl := List.mem_singleton.mp hm
    obtain ⟨s, hs, hid⟩ := hstock
    rw [hnew]
    exact List.mem_map.mpr ⟨s, hs, hid⟩

theorem founded_removeMaterial (material : Uuid) :
    RefusesOnly (Refusal.Founded db.tables (.removeMaterial run material))
      (removeMaterial now run material : Tx α Unit) db := by
  refine .atomically (.runInProgress rfl fun r hr _ _ => .bind (.of_gives rfl) fun hits db₁ h => ?_)
  refine .ite (fun hzero => .refused ?_) fun _ => .of_gives rfl
  refine .noRow rfl rfl fun howns => ?_
  obtain ⟨m, hm, hid, hrun⟩ := howns
  have hnone := (gives_deleteMaterial.mp h).2.symm.trans hzero
  simpa [hid, hrun] using List.countP_eq_zero.mp hnone m hm

theorem founded_line {op : Operation α} {id : Uuid} (hdb : db.tables.Consistent)
    (hop : op.run? = some run) (hchild : op.child? = some (.material, id)) :
    RefusesOnly (Refusal.Founded db.tables op) (Store.line run id) db := by
  intro why db' h
  by_cases howns : db.tables.Owns run .material id
  · exact absurd h (not_refuses_line hdb.lineSpools howns)
  · rcases refuses_bind.mp h with h | ⟨found, _, hfound, h⟩
    · exact absurd h (refuses_read _)
    · rcases refuses_bind.mp h with h | ⟨_, _, -, h⟩
      · obtain ⟨-, rfl, -⟩ := refuses_expect.mp h
        exact .noRow hop hchild howns
      · exact absurd h refuses_pure

theorem founded_recordActual (hdb : db.tables.Consistent) (material : Uuid)
    (request : MeasurementRequest α) :
    RefusesOnly (Refusal.Founded db.tables (.recordActual run material request))
      (recordActual now run material request) db := by
  refine .atomically (.checkFields request.checksFields fun measurement _ => .checkFields
    measurement.checksFields fun reading _ => .runInProgress rfl fun r hr _ _ => ?_)
  refine .bind (founded_line hdb rfl rfl) fun line db₁ hline => ?_
  obtain ⟨⟨p, hp, -⟩, rfl⟩ := gives_line.mp hline
  refine .bind (refusedByTables_changeMaterials _ _ _).founded fun _ db₂ hchange => ?_
  refine .bind (.of_gives rfl) fun _ db₃ htouch => fun why db' h => ?_
  obtain rfl := gives_touchRun.mp htouch
  obtain ⟨-, rfl, -⟩ := gives_changeMaterials.mp hchange
  -- the line keeps its identifier, its run and its spool
  refine absurd h (not_refuses_line (fun m hm => ?_) ?_)
  · obtain ⟨n, hn, rfl⟩ := mem_changeRows.mp hm
    split <;> exact hdb.lineSpools n hn
  · obtain ⟨m, hm, -⟩ := Option.bind_eq_some_iff.mp hp
    obtain ⟨hid, hrun⟩ : m.id = material ∧ m.run = run := by simpa using List.find?_some hm
    refine ⟨_, mem_changeRows.mpr ⟨m, List.mem_of_find?_eq_some hm, rfl⟩, ?_⟩
    split <;> exact ⟨hid, hrun⟩

theorem founded_resetActuals :
    RefusesOnly (Refusal.Founded db.tables (.resetActuals run)) (resetActuals now run : Tx α _)
      db := by
  refine .atomically (.runInProgress rfl fun r hr _ _ => ?_)
  exact .bind (refusedByTables_changeMaterials _ _ _).founded fun _ _ _ =>
    .bind (.of_gives rfl) fun _ _ _ => .of_gives rfl

/-! ## Printing -/

theorem founded_plateNumber {op : Operation α} (wanted : Option Int) :
    RefusesOnly (Refusal.Founded db.tables op) (plateNumber run wanted) db := by
  cases wanted with
  | none => exact refusedByTables_nextPlateNumber.founded
  | some number =>
    refine .read (.ite (fun _ => .refused (.fields ?_)) fun _ => .pure _)
    simp [Problem.isFallback]

theorem founded_createPlate (new : NewPlate α) :
    RefusesOnly (Refusal.Founded db.tables (.createPlate run new)) (createPlate now run new) db := by
  refine .atomically (.refuseIfAny new.regular_complaints fun _ => .runInProgress rfl
    fun r hr _ _ => .read (.expect (fun _ => .fields (by simp [Problem.isFallback])) fun i hi => ?_))
  refine .ite (fun _ => .refused (.fields (by simp [Problem.isFallback]))) fun _ => ?_
  refine .bind (founded_plateNumber new.number) fun number db₁ hnumber => ?_
  exact .bind (refusedByTables_insertPlate new number _).founded fun _ _ _ => .of_gives rfl

theorem founded_updatePlate (hdb : db.tables.Consistent) (plate : Uuid) (patch : PlatePatch α) :
    RefusesOnly (Refusal.Founded db.tables (.updatePlate run plate patch))
      (updatePlate now run plate patch) db := by
  refine .atomically (.refuseIfAny patch.regular_complaints fun _ => .runInProgress rfl
    fun r hr _ _ => .plate rfl rfl fun p hp hid hrun => .check (fun why hwhy => ?_) fun _ hok => ?_)
  · unfold Plate.checkEditable at hwhy
    split at hwhy
    · rename_i hended
      cases hwhy
      refine .plateStarted (hid ▸ rfl) hp fun hpending => ?_
      rw [hpending] at hended
      exact nomatch hended
    · exact nomatch hwhy
  · refine .bind (refusedByTables_updatePlate patch).founded fun row db₁ h => ?_
    refine .expect (fun hnone => ?_) fun _ _ => .of_gives rfl
    -- what can be edited is not passed over
    subst hnone hid
    obtain ⟨htexts, -, rfl⟩ := gives_updatePlate_none.mp h
    exact absurd hok ((Plate.not_editable_iff hdb hp now "edit" htexts).mpr h)

theorem founded_deletePlate (plate : Uuid) :
    RefusesOnly (Refusal.Founded db.tables (.deletePlate run plate))
      (deletePlate now run plate : Tx α Unit) db := by
  refine .atomically (.runInProgress rfl fun r hr _ _ => .plate rfl rfl fun p hp hid hrun =>
    .check (fun why hwhy => ?_) fun _ hok => ?_)
  · unfold Plate.checkDeletable at hwhy
    split at hwhy
    · exact nomatch hwhy
    · rename_i hstarted
      cases hwhy
      exact .plateStarted (hid ▸ rfl) hp hstarted
  · refine .bind (.of_gives rfl) fun hits db₁ h => .ite (fun hzero => ?_) fun _ => .of_gives rfl
    -- what can be deleted is not passed over
    have hnone := (gives_deletePendingPlate.mp h).2.symm.trans hzero
    have hpending := Plate.checkDeletable_eq_ok.mp hok
    simpa [hid, hrun, hpending] using List.countP_eq_zero.mp hnone p hp

/-- The item of a plate is there, and it gains what was checked. -/
theorem founded_rollIntoItem (hdb : db.tables.Consistent) {op : Operation α} (p : Plate α)
    (next : PlateStatus) (reported : Outcome)
    (hplanned : ∃ i ∈ db.tables.items, i.run = run ∧ i.model = p.model) :
    RefusesOnly (Refusal.Founded db.tables op) (rollIntoItem run p next reported) db := by
  refine .ite (fun _ => .pure _) fun _ => .read (.expect (fun hnone => ?_) fun i hi => ?_)
  · obtain ⟨i, hi, hrun, hmodel⟩ := hplanned
    simpa [hrun, hmodel] using List.find?_eq_none.mp hnone i hi
  · refine .refuseIfAny (i.regular_rollupComplaints _) fun hvalid => .ite (fun _ => ?_)
      fun _ => .pure _
    refine .bind (refusedByTables_addOutcome _).founded fun hits db₁ h => ?_
    refine .ite (fun hzero => ?_) fun _ => .pure _
    obtain ⟨_, hone⟩ := gives_addOutcome_of_check hdb (List.mem_of_find?_eq_some hi) hvalid
    exact nomatch hzero.symm.trans (h.unique hone).1

theorem founded_movePlate (hdb : db.tables.Consistent)
    (hplanned : ∀ p ∈ db.tables.plates, ∃ i ∈ db.tables.items, i.run = p.run ∧ i.model = p.model)
    {op : Operation α} {plate : Uuid} {next : PlateStatus} {action : String} {move : PlateMove α}
    (hmoves : MovesPlate now op run plate next move) :
    RefusesOnly (Refusal.Founded db.tables op) (movePlate now run plate next action move) db := by
  have hchild : op.child? = some (.plate, plate) := by cases hmoves <;> rfl
  refine .atomically (.runInProgress hmoves.run?_eq fun r hr _ _ => .plate hmoves.run?_eq hchild
    fun p hp hid hrun => .check (fun why hwhy => ?_) fun _ hok => ?_)
  · unfold Plate.checkMove at hwhy
    split at hwhy
    · exact nomatch hwhy
    · rename_i hcannot
      cases hwhy
      refine .plateStarted (hid ▸ hchild) hp fun hpending => hcannot ?_
      rw [hpending]
      cases hmoves <;> rfl
  · -- the counts are checked only where the plate is completed
    suffices hwrite : RefusesOnly (Refusal.Founded db.tables op) _ db from
      .ite (fun _ => .refuseIfAny (regular_printCountComplaints _ _) fun _ => hwrite)
        fun _ => hwrite
    refine .bind (founded_rollIntoItem hdb p next _ (hrun ▸ hplanned p hp)) fun _ db₁ hroll => ?_
    refine .bind (refusedByTables_movePlate _ _ _).founded fun moved db₂ hmove => ?_
    cases moved with
    | some row => exact .of_gives rfl
    | none =>
      -- the plate is still in the status that it was read in
      obtain ⟨-, hnone, -⟩ := gives_movePlate_none.mp hmove
      rw [(gives_rollIntoItem hdb hroll).1, ← hid] at hnone
      have hchanged := (find?_key_eq_none hdb.plateIds hp).mp hnone
      simp at hchanged

end Workflow

/-! ## Ending runs -/

section Ending

variable [Scalar α] {catalog : Catalog} {now : Timestamp} {t : Tables α} {op : Operation α}
  {db : Database α} {target : RunStatus} {reason : DeductionReason}

/-- A spool is refused if it is not in the table, or holds too little. -/
theorem Ledger.founded_deduct {run : Uuid} {spools : List (Spool α)} {u : SpoolUsage α}
    (hspools : ∀ s ∈ spools, s ∈ t.spools)
    (hread : ∀ s ∈ t.spools, s.id = u.spool → s ∈ spools) :
    RefusesOnly (Refusal.Founded t op) (deduct now run target reason spools u) db := by
  refine .expect (fun hnone => .noSpool fun s hs hid => ?_) fun s hs => ?_
  · simpa [hid] using List.find?_eq_none.mp hnone s (hread s hs hid)
  · refine .read (.ite (fun _ => .pure _) fun _ => .ite (fun hshort => .refuse ?_) fun _ => ?_)
    · have hid : s.id = u.spool := by simpa using List.find?_some hs
      rw [← hid]
      exact .shortSpool (hspools s (List.mem_of_find?_eq_some hs)) hshort
    · refine .bind (refusedByTables_insertDeduction _).founded fun row _ _ => .ite (fun _ => ?_)
        fun _ => .pure _
      exact .bind (refusedByTables_setSpoolWeight _).founded fun _ _ _ => .pure _

theorem Ledger.founded_applyDeductions {run : Uuid} {usage : UsageTable α}
    (hspools : db.tables.spools = t.spools) :
    RefusesOnly (Refusal.Founded t op) (applyDeductions now run target reason usage) db := by
  refine .read ?_
  have hall : ∀ u ∈ usage, ∀ s ∈ t.spools, s.id = u.spool →
      s ∈ inOrder (fun a b => !b.id.before a.id)
        (db.tables.spools.filter fun s => (usage.map SpoolUsage.spool).contains s.id) := by
    intro u hu s hs hid
    refine (inOrder_perm _ _).mem_iff.mpr (List.mem_filter.mpr ⟨hspools ▸ hs, ?_⟩)
    exact List.contains_iff_mem.mpr (List.mem_map.mpr ⟨u, hu, hid.symm⟩)
  have hread : ∀ s ∈ inOrder (fun a b => !b.id.before a.id)
      (db.tables.spools.filter fun s => (usage.map SpoolUsage.spool).contains s.id),
      s ∈ t.spools := fun s hs => hspools ▸ mem_of_mem_inOrder_filter hs
  -- the spools are read once, before the first of them is deducted from
  generalize inOrder _ _ = spools at hall hread ⊢
  clear hspools
  induction usage generalizing db with
  | nil => exact .pure _
  | cons u usage ih =>
    obtain ⟨hu, hall⟩ := List.forall_mem_cons.mp hall
    refine .bind (founded_deduct hread hu) fun _ db₁ _ => ?_
    exact .bind (ih hall) fun _ _ _ => .pure _

namespace Workflow

/-- The run is still in the status that it was read in. -/
theorem founded_close {r : Run α} {ending : RunEnding α} (hr : r ∈ db.tables.runs)
    (hfound : db.tables.runs.find? (fun s => s.id = r.id) = some r) :
    RefusesOnly (Refusal.Founded t op) (close now r ending) db := by
  refine .bind (.of_gives rfl) fun _ db₁ hcancel => ?_
  obtain ⟨rfl, -⟩ := gives_cancelOpenPlates.mp hcancel
  refine .bind (refusedByTables_endRun _ _).founded fun hits db₂ hend => ?_
  obtain ⟨-, ⟨s, hs, -, -, rfl, rfl⟩ | ⟨hchanged, -⟩⟩ := gives_endRun.mp hend
  · refine .ite (fun hzero => nomatch hzero) fun _ why db' h => ?_
    obtain rfl := Option.some.inj (hfound.symm.trans hs)
    have hended : endedRun now ending r ∈
        changeRows (fun s => s.id = r.id) (fun _ => endedRun now ending r) db.tables.runs :=
      mem_changeRows.mpr ⟨r, hr, by simp⟩
    exact absurd h (not_refuses_snapshot (r := endedRun now ending r) hended)
  · exact absurd rfl (hchanged r hfound)

/-- What is left to do when the figures are fixed. -/
theorem founded_settle (hdb : db.tables.Consistent) {r : Run α} (hr : r ∈ db.tables.runs)
    {ending : RunEnding α} {usage : UsageTable α}
    (hcloses : Closes catalog now db.tables r op ending reason usage) {db₁ : Database α}
    (hspools : db₁.tables.spools = db.tables.spools) (hruns : db₁.tables.runs = db.tables.runs) :
    RefusesOnly (Refusal.Founded db.tables op) (do
      let _ ← Ledger.applyDeductions now r.id ending.status reason usage
      close now r ending) db₁ := by
  refine .bind (Ledger.founded_applyDeductions hspools) fun rows db₂ hrows => ?_
  have htables := (Ledger.gives_applyDeductions hcloses.nodup_spools hrows).2.1
  have hkept : db₂.tables.runs = db.tables.runs := by
    rw [htables]
    exact hruns
  refine founded_close (hkept ▸ hr) ?_
  rw [hkept]
  exact hdb.find_run hr

theorem founded_abort (hdb : db.tables.Consistent) {r : Run α} (hr : r ∈ db.tables.runs)
    {ending : RunEnding α} {usage : UsageTable α}
    (hcloses : Closes catalog now db.tables r op ending reason usage) :
    RefusesOnly (Refusal.Founded db.tables op) (do
      let _ ← fixLines now (← Store.materialsOf r.id)
      let _ ← Ledger.applyDeductions now r.id ending.status reason usage
      close now r ending) db := by
  refine .read (.bind (refusedByTables_fixLines _ _).founded fun figures db₁ hfigures => ?_)
  have hfixed := (gives_fixLines hfigures).2
  apply founded_settle hdb hr hcloses
  · rw [hfixed]
  · rw [hfixed]

variable {run : Uuid}

theorem founded_completeRun (hdb : db.tables.Consistent) :
    RefusesOnly (Refusal.Founded db.tables (.completeRun run)) (completeRun now run : Tx α _) db := by
  refine .atomically (.run rfl fun r hr hid => ?_)
  subst hid
  refine .checkMove rfl hr rfl fun _ => .read (.read (.refuseIfAny
    (regular_completionComplaints _ _) fun hmeasured => ?_))
  refine .bind (refusedByTables_fixLines _ _).founded fun figures db₁ hfigures => ?_
  have hfixed := (gives_fixLines hfigures).2
  refine .bind (refusedByTables_setUnitCosts _ _).founded fun _ db₂ hcosts => ?_
  have hpriced := gives_setUnitCosts hcosts
  have hcloses : Closes .builtin now db.tables r (.completeRun r.id) _ _ _ := .complete hmeasured
  apply founded_settle hdb hr hcloses
  · rw [hpriced, hfixed]
  · rw [hpriced, hfixed]

theorem founded_cancelRun (hdb : db.tables.Consistent) (request : CancelRequest α) :
    RefusesOnly (Refusal.Founded db.tables (.cancelRun run request)) (cancelRun now run request)
      db := by
  refine .atomically (.checkFields request.checksFields fun usage husage => .run rfl
    fun r hr hid => ?_)
  subst hid
  have hcloses : Closes .builtin now db.tables r (.cancelRun r.id request) _ _ _ := .cancel husage
  exact .checkMove rfl hr rfl fun _ => founded_abort hdb hr hcloses

theorem founded_failRun (hdb : db.tables.Consistent) (request : FailRequest α) :
    RefusesOnly (Refusal.Founded db.tables (.failRun run request))
      (failRun catalog now run request) db := by
  refine .atomically (.refuseIfAny (regular_failureComplaints _ _ _) fun hvalid => .run rfl
    fun r hr hid => ?_)
  subst hid
  have hcloses : Closes catalog now db.tables r (.failRun r.id request) _ _ _ := .fail hvalid
  exact .checkMove rfl hr rfl fun _ => founded_abort hdb hr hcloses

end Workflow

end Ending

/-! ## All operations -/

section Operations

variable [Scalar α] {catalog : Catalog} {now : Timestamp} {db : Database α}

theorem Store.founded_snapshot {op : Operation α} {id : Uuid} (hop : op.run? = some id) :
    RefusesOnly (Refusal.Founded db.tables op) (Store.snapshot id) db :=
  .run hop fun _ _ _ => .read (.read (.read (.pure _)))

/-- Every refusal is one that the tables bear out, if the models of all plates are planned. -/
theorem Operation.founded_perform (hdb : db.tables.Consistent)
    (hplanned : ∀ p ∈ db.tables.plates, ∃ i ∈ db.tables.items, i.run = p.run ∧ i.model = p.model)
    (op : Operation α) :
    RefusesOnly (Refusal.Founded db.tables op) (op.perform catalog now) db := by
  cases op with
  | listSpools => exact .map refusedByTables_balances.founded _
  | listReasons | listRuns => exact .of_gives rfl
  | showRun run => exact .map (Store.founded_snapshot rfl) _
  | listDeductions run | listPlates run =>
    exact .run rfl fun _ _ _ => .map (.of_gives ((gives_read _).mpr ⟨rfl, rfl⟩)) _
  | createSpool new => exact .map (Workflow.founded_createSpool new) _
  | createRun request => exact .map (Workflow.founded_createRun request) _
  | updateRun run patch => exact .map (Workflow.founded_updateRun patch) _
  | completeRun run => exact .map (Workflow.founded_completeRun hdb) _
  | cancelRun run request => exact .map (Workflow.founded_cancelRun hdb request) _
  | failRun run request => exact .map (Workflow.founded_failRun hdb request) _
  | updateOutcome run item outcome => exact .map (Workflow.founded_updateOutcome item outcome) _
  | addMaterial run new => exact .map (Workflow.founded_addMaterial hdb new) _
  | recordActual run material request =>
    exact .map (Workflow.founded_recordActual hdb material request) _
  | resetActuals run => exact .map Workflow.founded_resetActuals _
  | removeMaterial run material =>
    exact .bind (Workflow.founded_removeMaterial material) fun _ _ _ => .pure _
  | createPlate run new => exact .map (Workflow.founded_createPlate new) _
  | updatePlate run plate patch => exact .map (Workflow.founded_updatePlate hdb plate patch) _
  | deletePlate run plate =>
    exact .bind (Workflow.founded_deletePlate plate) fun _ _ _ => .pure _
  | startPlate run plate => exact .map (Workflow.founded_movePlate hdb hplanned .start) _
  | completePlate run plate report =>
    refine .map (.refuseIfAny report.regular_complaints fun hvalid => ?_) _
    exact Workflow.founded_movePlate hdb hplanned (.complete hvalid)
  | failPlate run plate notes => exact .map (Workflow.founded_movePlate hdb hplanned .fail) _
  | cancelPlate run plate notes => exact .map (Workflow.founded_movePlate hdb hplanned .cancel) _

/-- The models of all plates are planned where all runs are in stage. -/
theorem Tables.Staged.exists_item {t : Tables α} (ht : t.Consistent)
    (h : ∀ r ∈ t.runs, t.Staged r) :
    ∀ p ∈ t.plates, ∃ i ∈ t.items, i.run = p.run ∧ i.model = p.model := by
  intro p hp
  obtain ⟨r, hr, hid⟩ := List.mem_map.mp (ht.plateRuns p hp)
  obtain ⟨i, hi, hmodel, -⟩ :=
    (h r hr).planned p (List.mem_filter.mpr ⟨hp, decide_eq_true hid.symm⟩)
  obtain ⟨hi, hrun⟩ := List.mem_filter.mp hi
  exact ⟨i, hi, (of_decide_eq_true hrun).trans hid, hmodel⟩

/-- When the run ends, the ledger skips no spool: as long as nothing is journaled in between, each
amount that is deducted gets its row. -/
def Run.Undeducted (db : Database α) (r : Run α) : Prop :=
  ∀ db₁ db₂ now target reason (usage : UsageTable α) rows,
    db₁.tables.deductions = db.tables.deductions → (usage.map SpoolUsage.spool).Nodup →
    Gives (Ledger.applyDeductions now r.id target reason usage) db₁ rows db₂ →
    rows.map (fun d => (d.spool, d.grams)) = usage.map fun u => (u.spool, u.grams)

theorem Run.undeducted (hdb : db.tables.Consistent) {r : Run α} (hr : r ∈ db.tables.runs)
    (hprogress : r.status = .inProgress) : r.Undeducted db := by
  intro db₁ db₂ now target reason usage rows hsame hnodup h
  have hall : usage.filter (Ledger.unjournaled db₁.tables.deductions r.id target) = usage :=
    List.filter_eq_self.mpr fun u _ => hsame ▸ hdb.unjournaled hr hprogress target u
  have hrows := (Ledger.gives_applyDeductions hnodup h).1
  rw [hall] at hrows
  exact Ledger.map_deducted hrows

end Operations

/-- Whatever operations were performed one after the other, the fallbacks for concurrent changes are
out of reach.  Every refusal is one that the tables bear out as they were before the operation, so
none tells of a concurrent modification, of a row that was found and is gone, or of counts that were
checked and do not fit.  The ledger skips no spool of a run that ends.  And the checks of items and
plates refuse exactly what the guarded queries pass over. -/
theorem fallbacks_unreachable (start : Sequences) (events : List (Event Float)) :
    let db := (Database.fresh start).afterAll events
    (∀ (e : Event Float) why, (e.run db).1 = .error why →
      why.Founded db.tables e.operation ∧
        ∀ kind id expected actual, why ≠ .concurrentModification kind id expected actual) ∧
    (∀ (e : Event Float) answer run, e.operation.ends? = some run → (e.run db).1 = .ok answer →
      ∃ r ending reason usage rows, r.id = run ∧ EndsRun e.catalog e.now db.tables
        (e.after db).tables e.operation r ending reason usage rows) ∧
    (∀ r ∈ db.tables.runs, r.status = .inProgress → r.Undeducted db) ∧
    (∀ i ∈ db.tables.items, i.Guarded db) ∧ ∀ p ∈ db.tables.plates, p.Guarded db := by
  intro db
  obtain ⟨hsound, -, hstaged⟩ := staged_afterAll start events
  have hdb : db.tables.Consistent := hsound.consistent
  refine ⟨fun e why hwhy => ?_, fun e answer run hends haccepted => ?_,
    fun r hr hprogress => Run.undeducted hdb hr hprogress, fun i hi => Item.guarded hdb hi,
    fun p hp => Plate.guarded hdb hp⟩
  · have hrefuses : Refuses (e.operation.perform e.catalog e.now) db why (e.after db) :=
      Prod.ext hwhy rfl
    have hfounded := Operation.founded_perform hdb (Tables.Staged.exists_item hdb hstaged)
      e.operation why _ hrefuses
    refine ⟨hfounded, fun kind id expected actual hconcurrent => ?_⟩
    rw [hconcurrent] at hfounded
    exact nomatch hfounded
  · rcases e.step_or_refused hsound with ⟨_, -, hstep⟩ | ⟨why, hrefused, -⟩
    · obtain ⟨r, ending, reason, usage, rows, hid, hr, hprogress, hcloses, hrows, htables⟩ :=
        hstep.closes hends
      exact ⟨r, ending, reason, usage, rows, hid, hr, hprogress, hcloses, hrows, htables⟩
    · exact nomatch hrefused.symm.trans haccepted

end PrintFarm
