import PrintFarm.Proofs.Steps
import PrintFarm.Workflow.Closing

/-!
# Ending runs, step by step

The three operations that end a run are one kind of step.  They write to all six tables, one row
after the other; the lemmas below turn each of these loops into one change of a table.

* `gives_fixLines` and `fixedLines`: the figures of all lines of the run are fixed at once.
* `gives_setUnitCosts` and `pricedItems`: so are the costs of its items.
* `step_completeRun`, `step_cancelRun`, `step_failRun` put the parts together.
-/

namespace PrintFarm.Workflow

open Store Tx

variable {α : Type} [Scalar α] {catalog : Catalog} {now : Timestamp} {db db' : Database α}
  {run : Uuid}

/-! ## Loops over rows -/

theorem gives_fixLines :
    ∀ {lines : List (PricedMaterial α)} {db : Database α} {figures : List (Reconciliation α)},
      Gives (fixLines now lines) db figures db' →
      figures = lines.map (fun l => reconcile l.material l.spoolCostPerGram) ∧
        db' = { db with tables := { db.tables with
          materials := lines.foldl (fun rows l => changeRows (fun m => m.id = l.material.id)
            (fixedMaterial now (reconcile l.material l.spoolCostPerGram)) rows)
            db.tables.materials } }
  | [], db, figures, h => by
    obtain ⟨rfl, rfl⟩ := gives_pure.mp h
    exact ⟨rfl, rfl⟩
  | l :: lines, db, figures, h => by
    simp only [fixLines, gives_bind, gives_fixFigures, gives_pure] at h
    obtain ⟨_, _, rfl, rest, _, hrest, rfl, rfl⟩ := h
    obtain ⟨rfl, rfl⟩ := gives_fixLines hrest
    exact ⟨rfl, rfl⟩

theorem gives_setUnitCosts {cost : Item α → Option α} :
    ∀ {items : List (Item α)} {db : Database α} {u : PUnit},
      Gives (items.forM fun i => setUnitCost i.id (cost i)) db u db' →
      db' = { db with tables := { db.tables with
        items := items.foldl (fun rows i => changeRows (fun j => j.id = i.id)
          (pricedItem (cost i)) rows) db.tables.items } }
  | [], db, _, h => by
    obtain ⟨-, rfl⟩ := gives_pure.mp h
    rfl
  | i :: items, db, _, h => by
    obtain ⟨_, _, hi, hrest⟩ := gives_bind.mp h
    obtain rfl := gives_setUnitCost.mp hi
    obtain rfl := gives_setUnitCosts hrest
    rfl

/-! ## The same at once -/

section Tables

omit [Scalar α] in
/-- A line of a spool that is there has its label and price. -/
theorem priced?_of_mem {spools : List (Spool α)} {m : Material α}
    (hm : m.spool ∈ spools.map Spool.id) :
    ∃ s ∈ spools, s.id = m.spool ∧ priced? spools m = some ⟨m, s.label, s.costPerGram⟩ := by
  obtain ⟨q, hq, hqid⟩ := List.mem_map.mp hm
  have hsome : (spools.find? fun s => s.id = m.spool).isSome = true :=
    List.find?_isSome.mpr ⟨q, hq, by simpa using hqid⟩
  obtain ⟨s, hs⟩ := Option.isSome_iff_exists.mp hsome
  refine ⟨s, List.mem_of_find?_eq_some hs, by simpa using List.find?_some hs, ?_⟩
  rw [priced?, hs, Option.map_some]

variable {t : Tables α} (ht : t.Consistent)

include ht

/-- Every line has its spool. -/
theorem priced?_isSome {m : Material α} (hm : m ∈ t.materials) :
    ∃ l, priced? t.spools m = some l ∧ l.material = m := by
  obtain ⟨s, -, -, hpriced⟩ := priced?_of_mem (ht.lineSpools m hm)
  exact ⟨_, hpriced, rfl⟩

/-- The lines of a run are its material rows. -/
theorem linesOf_materials (run : Uuid) :
    (t.linesOf run).map PricedMaterial.material = t.materialsOf run := by
  have h : ∀ rows : List (Material α), (∀ m ∈ rows, m ∈ t.materials) →
      (rows.filterMap (priced? t.spools)).map PricedMaterial.material = rows := by
    intro rows hrows
    induction rows with
    | nil => rfl
    | cons m rows ih =>
      obtain ⟨l, hl, hm⟩ := priced?_isSome ht (hrows m List.mem_cons_self)
      rw [List.filterMap_cons_some hl, List.map_cons, hm,
        ih fun n hn => hrows n (List.mem_cons_of_mem _ hn)]
  exact h _ fun m hm => List.mem_of_mem_filter hm

/-- Fixing the lines of a run one after the other fixes them all. -/
theorem fixedLines (now : Timestamp) (run : Uuid) :
    (t.linesOf run).foldl (fun rows l => changeRows (fun m => m.id = l.material.id)
        (fixedMaterial now (reconcile l.material l.spoolCostPerGram)) rows) t.materials =
      changeRows (fun m => m.run = run) (fixedLine now t.spools) t.materials := by
  have hids : ((t.linesOf run).map fun l => l.material.id).Nodup := by
    have hmap : (t.linesOf run).map (fun l => l.material.id) =
        (t.materialsOf run).map Material.id := by
      rw [← linesOf_materials ht, List.map_map]
      rfl
    rw [hmap]
    exact ht.materialIds.sublist (List.filter_sublist.map _)
  have hfold := foldl_changeRows Material.id (fun l : PricedMaterial α => l.material.id)
    (fun l => fixedMaterial now (reconcile l.material l.spoolCostPerGram)) (fun _ _ => rfl)
    (t.linesOf run) t.materials hids
  refine hfold.trans (List.map_congr_left fun m hm => ?_)
  by_cases hrun : m.run = run
  · -- the line with this identifier is the row itself, at the price of its spool
    obtain ⟨l, hl, hlm⟩ := priced?_isSome ht hm
    have hmem : l ∈ t.linesOf run :=
      List.mem_filterMap.mpr ⟨m, List.mem_filter.mpr ⟨hm, by simpa using hrun⟩, hl⟩
    have hfound : (t.linesOf run).find? (fun k => k.material.id = m.id) = some l := by
      have h := find?_of_nodup hids hmem
      rwa [hlm] at h
    simp [hfound, hrun, fixedLine, hl, hlm]
  · have hnone : (t.linesOf run).find? (fun k => k.material.id = m.id) = none := by
      refine List.find?_eq_none.mpr fun l hl hid => hrun ?_
      have hrow : l.material ∈ t.materialsOf run := by
        rw [← linesOf_materials ht]
        exact List.mem_map_of_mem hl
      have hsame := eq_of_key_eq ht.materialIds (List.mem_of_mem_filter hrow) hm
        (of_decide_eq_true hid)
      rw [← hsame]
      simpa using (List.mem_filter.mp hrow).2
    simp [hnone, hrun]

/-- Setting the costs of the items of a run one after the other sets them all. -/
theorem pricedItems (cost : Item α → Option α) (run : Uuid) :
    (t.itemsOf run).foldl (fun rows i => changeRows (fun j => j.id = i.id)
        (pricedItem (cost i)) rows) t.items =
      changeRows (fun i => i.run = run) (fun i => pricedItem (cost i) i) t.items := by
  have hids : ((t.itemsOf run).map Item.id).Nodup :=
    ht.itemIds.sublist (List.filter_sublist.map _)
  have hfold := foldl_changeRows Item.id Item.id (fun i => pricedItem (cost i))
    (fun _ _ => rfl) (t.itemsOf run) t.items hids
  refine hfold.trans (List.map_congr_left fun i hi => ?_)
  by_cases hrun : i.run = run
  · have hmem : i ∈ t.itemsOf run := List.mem_filter.mpr ⟨hi, by simpa using hrun⟩
    simp [find?_of_nodup hids hmem, hrun]
  · have hnone : (t.itemsOf run).find? (fun j => j.id = i.id) = none := by
      refine List.find?_eq_none.mpr fun j hj hid => hrun ?_
      rw [← eq_of_key_eq ht.itemIds (List.mem_of_mem_filter hj) hi (of_decide_eq_true hid)]
      simpa using (List.mem_filter.mp hj).2
    simp [hnone, hrun]

end Tables

/-! ## The end itself -/

theorem fixLines_linesOf (hdb : db.tables.Consistent) {figures : List (Reconciliation α)}
    (h : Gives (fixLines now (db.tables.linesOf run)) db figures db') :
    figures = (db.tables.linesOf run).map (fun l => reconcile l.material l.spoolCostPerGram) ∧
      db'.tables = { db.tables with
        materials := changeRows (fun m => m.run = run) (fixedLine now db.tables.spools)
          db.tables.materials } := by
  obtain ⟨hfigures, rfl⟩ := gives_fixLines h
  rw [fixedLines hdb]
  exact ⟨hfigures, rfl⟩

/-- What is left to do when the figures are fixed and the stock is deducted. -/
theorem gives_close {r : Run α} {ending : RunEnding α} {view : Snapshot α}
    (hids : (db.tables.runs.map Run.id).Nodup) (hr : r ∈ db.tables.runs)
    (h : Gives (close now r ending) db view db') :
    acceptsRun (endedRun now ending r) = true ∧
      db'.tables = { db.tables with
        runs := changeRows (fun s => s.id = r.id) (endedRun now ending) db.tables.runs
        plates := changeRows (fun p => p.run = r.id && !p.status.isTerminal)
          (cancelledPlate now ending.completedAt) db.tables.plates } := by
  simp [close, and_assoc, gives_endRun] at h
  obtain ⟨-, n, db₁, ⟨s, hs, -, haccepts, rfl, -⟩ | ⟨-, hn, -⟩, hpos, hview⟩ := h
  · obtain rfl := Option.some.inj ((find?_of_nodup hids hr).symm.trans hs)
    obtain rfl := (reads_snapshot _).gives hview
    refine ⟨haccepts, ?_⟩
    rw [← changeRows_const hids hr (endedRun now ending)]
  · exact absurd hn hpos

/-- The end of a run after its figures are fixed: the journal and the spools, then the run and its
plates. -/
theorem step_close (hdb : db.tables.Consistent) {r : Run α} {op : Operation α}
    {ending : RunEnding α} {reason : DeductionReason} {usage : UsageTable α}
    {rows : List (Deduction α)} {view : Snapshot α} {db₁ db₂ : Database α}
    (hr : r ∈ db.tables.runs) (hprogress : r.status = .inProgress)
    (hcloses : Closes catalog now db.tables r op ending reason usage)
    (hfixed : db₁.tables = { db.tables with
      items := changeRows (fun i => i.run = r.id && ending.status = .completed)
        (fun i => pricedItem ((completionMetrics db.tables r ending.durationHours).unitCost i) i)
        db.tables.items
      materials := changeRows (fun m => m.run = r.id) (fixedLine now db.tables.spools)
        db.tables.materials })
    (hlater : db.sequences.Precedes db₁.sequences)
    (hrows : Gives (Ledger.applyDeductions now r.id ending.status reason usage) db₁ rows db₂)
    (hclose : Gives (close now r ending) db₂ view db') :
    Step catalog now db.tables op db'.tables ∧ db.Grows db' := by
  obtain ⟨hdeducted, htables₂, hgrows⟩ :=
    Ledger.gives_applyDeductions hcloses.nodup_spools hrows
  have hgrows₁ : db.Grows db₁ := .of_eq (by rw [hfixed]) hlater
  rw [hfixed] at hdeducted htables₂
  have hall : usage.filter (Ledger.unjournaled db.tables.deductions r.id ending.status) = usage :=
    List.filter_eq_self.mpr fun u _ => hdb.unjournaled hr hprogress ending.status u
  simp only [hall] at hdeducted
  have hruns₂ : db₂.tables.runs = db.tables.runs := by
    rw [htables₂]
  obtain ⟨haccepts, htables⟩ := gives_close (hruns₂ ▸ hdb.runIds) (hruns₂ ▸ hr) hclose
  have hgrows₂ : db₂.Grows db' := .of_gives hclose (by rw [htables])
  refine ⟨?_, (hgrows₁.trans hgrows).trans hgrows₂⟩
  rw [htables, htables₂]
  exact .close hr hprogress hcloses haccepts hdeducted

/-- A run that is not completed keeps the costs of its items. -/
theorem step_abort (hdb : db.tables.Consistent) {r : Run α} {op : Operation α}
    {ending : RunEnding α} {reason : DeductionReason} {usage : UsageTable α}
    {figures : List (Reconciliation α)} {rows : List (Deduction α)} {view : Snapshot α}
    {db₁ db₂ : Database α} (hr : r ∈ db.tables.runs) (hprogress : r.status = .inProgress)
    (hcloses : Closes catalog now db.tables r op ending reason usage)
    (hstatus : ending.status ≠ .completed)
    (hfigures : Gives (fixLines now (db.tables.linesOf r.id)) db figures db₁)
    (hrows : Gives (Ledger.applyDeductions now r.id ending.status reason usage) db₁ rows db₂)
    (hclose : Gives (close now r ending) db₂ view db') :
    Step catalog now db.tables op db'.tables ∧ db.Grows db' := by
  have hlater := (gives_fixLines hfigures).2
  refine step_close hdb hr hprogress hcloses ?_ (by rw [hlater]; exact .refl _) hrows hclose
  have hitems : ∀ change : Item α → Item α,
      changeRows (fun i => i.run = r.id && ending.status = .completed) change db.tables.items =
        db.tables.items :=
    fun _ => changeRows_eq_self (by simp [hstatus])
  rw [(fixLines_linesOf hdb hfigures).2, hitems]

theorem step_completeRun (hdb : db.tables.Consistent) {view : Snapshot α}
    (h : Gives (completeRun now run) db view db') :
    Step catalog now db.tables (.completeRun run) db'.tables ∧ db.Grows db' := by
  simp only [completeRun, gives_atomically, gives_bind, gives_run, gives_check,
    Run.checkMove_eq_ok, gives_itemsOf, gives_materialsOf, refuseIfAny_eq_ok] at h
  obtain ⟨r, _, ⟨hfound, rfl⟩, _, _, ⟨⟨hprogress, -⟩, rfl⟩, _, _, ⟨rfl, rfl⟩, _, _, ⟨rfl, rfl⟩,
    _, _, ⟨hmeasured, rfl⟩, figures, db₁, hfigures, _, db₂, hcosts, rows, db₃, hrows, hclose⟩ := h
  have hr : r ∈ _ := List.mem_of_find?_eq_some hfound
  obtain rfl : r.id = run := by simpa using List.find?_some hfound
  obtain ⟨rfl, htables⟩ := fixLines_linesOf hdb hfigures
  have hcosts := gives_setUnitCosts hcosts
  have hlater := (gives_fixLines hfigures).2
  refine step_close hdb hr hprogress (.complete hmeasured) ?_ ?_ hrows hclose
  · rw [hcosts]
    simp only [htables]
    rw [pricedItems hdb]
    simp [completionMetrics]
  · rw [hcosts, hlater]
    exact .refl _

theorem step_cancelRun (hdb : db.tables.Consistent) {request : CancelRequest α}
    {view : Snapshot α} (h : Gives (cancelRun now run request) db view db') :
    Step catalog now db.tables (.cancelRun run request) db'.tables ∧ db.Grows db' := by
  simp only [cancelRun, gives_atomically, gives_bind, gives_run, gives_check,
    Run.checkMove_eq_ok, gives_materialsOf] at h
  obtain ⟨usage, _, ⟨husage, rfl⟩, r, _, ⟨hfound, rfl⟩, _, _, ⟨⟨hprogress, -⟩, rfl⟩, _, _,
    ⟨rfl, rfl⟩, figures, db₁, hfigures, rows, db₃, hrows, hclose⟩ := h
  have hr : r ∈ _ := List.mem_of_find?_eq_some hfound
  obtain rfl : r.id = run := by simpa using List.find?_some hfound
  exact step_abort hdb hr hprogress (.cancel husage) (by simp) hfigures hrows hclose

theorem step_failRun (hdb : db.tables.Consistent) {request : FailRequest α}
    {view : Snapshot α} (h : Gives (failRun catalog now run request) db view db') :
    Step catalog now db.tables (.failRun run request) db'.tables ∧ db.Grows db' := by
  simp only [failRun, gives_atomically, gives_bind, gives_run, gives_check,
    Run.checkMove_eq_ok, gives_materialsOf, refuseIfAny_eq_ok] at h
  obtain ⟨_, _, ⟨hvalid, rfl⟩, r, _, ⟨hfound, rfl⟩, _, _, ⟨⟨hprogress, -⟩, rfl⟩, _, _,
    ⟨rfl, rfl⟩, figures, db₁, hfigures, rows, db₃, hrows, hclose⟩ := h
  have hr : r ∈ _ := List.mem_of_find?_eq_some hfound
  obtain rfl : r.id = run := by simpa using List.find?_some hfound
  exact step_abort hdb hr hprogress (.fail hvalid) (by simp) hfigures hrows hclose

end PrintFarm.Workflow
