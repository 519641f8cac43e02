import PrintFarm.Proofs.Frozen
import PrintFarm.Proofs.Lifecycles

/-!
# Figures that are fixed

The end of a run writes costs on its lines and, if it is completed, on its items.  They come from the
rows and prices at hand, while a view of the run computes its figures anew from the rows that are
stored by then.  Both agree, at the end of the run and ever after.

* `Material.FixedAt` says that a line holds its figures at a price.  Then it does not matter what its
  spool costs (`reconciliations_linesOf`).
* `completionMetrics_closed`: what a run is completed with is what it is shown with afterwards.
* `Run.Fixed` holds of a run at its end (`EndsRun.fixed`), and is kept (`Run.Fixed.keeps`).  A view
  shows it (`Run.Fixed.agrees`).
-/

namespace PrintFarm

open Store
open Scalar (IsAmount)

variable {α : Type} [Scalar α]

/-! ## Lines -/

/-- The line holds its figures at a price.  A figure that is no number is not held. -/
structure Material.FixedAt (m : Material α) (price : α) : Prop where
  costPerGram : m.costPerGram = some price
  estimatedCost : m.estimatedCost = Scalar.stored? (reconcile m price).estimatedCost
  totalCost : m.totalCost = storedOption (reconcile m price).totalCost
  variance : m.variance = storedOption (reconcile m price).variance

/-- The figures that a line holds are those that it is shown with: its weights at the price that it
holds, and how far they are from each other. -/
structure MaterialLine.Agrees (l : MaterialLine α) : Prop where
  estimated : l.reconciliation.estimatedCost =
    l.material.estimatedTotal * l.reconciliation.costPerGram
  actual : l.reconciliation.totalCost =
    l.material.actualTotal.map (· * l.reconciliation.costPerGram)
  deviation : l.reconciliation.variance =
    l.material.actualTotal.bind (PrintFarm.variance l.material.estimatedTotal)
  costPerGram : l.material.costPerGram = some l.reconciliation.costPerGram
  estimatedCost : l.material.estimatedCost = Scalar.stored? l.reconciliation.estimatedCost
  totalCost : l.material.totalCost = storedOption l.reconciliation.totalCost
  variance : l.material.variance = storedOption l.reconciliation.variance

/-- A line that was fixed is shown with what it holds, whatever its spool costs now. -/
theorem Material.FixedAt.agrees {l : PricedMaterial α} {price : α}
    (h : l.material.FixedAt price) : l.line.Agrees := by
  have hfigures : l.line.reconciliation = reconcile l.material price := by
    simp [PricedMaterial.line, h.costPerGram]
  constructor <;> rw [hfigures]
  · rfl
  · rfl
  · rfl
  · exact h.costPerGram
  · exact h.estimatedCost
  · exact h.totalCost
  · exact h.variance

theorem Material.isSome_costPerGram {m : Material α} (h : ∃ price, m.FixedAt price) :
    m.costPerGram.isSome = true := by
  obtain ⟨price, h⟩ := h
  rw [h.costPerGram, Option.isSome_some]

/-- The end of a run fixes a line at the price of its spool. -/
theorem fixedLine_of_priced? {now : Timestamp} {spools : List (Spool α)} {l : PricedMaterial α}
    {m : Material α} (hl : priced? spools m = some l)
    (hprice : Scalar.isNaN l.spoolCostPerGram = false) :
    (fixedLine now spools m).FixedAt l.spoolCostPerGram := by
  have hstored : Scalar.stored? l.spoolCostPerGram = some l.spoolCostPerGram :=
    Scalar.stored?_eq_some.mpr ⟨hprice, rfl⟩
  simp only [fixedLine, hl]
  exact ⟨hstored, rfl, rfl, rfl⟩

omit [Scalar α] in
/-- A line is priced at what a spool costs. -/
theorem spool_of_priced? {spools : List (Spool α)} {m : Material α} {l : PricedMaterial α}
    (hl : priced? spools m = some l) :
    l.material = m ∧ ∃ s ∈ spools, l.spoolCostPerGram = s.costPerGram := by
  obtain ⟨s, hs, rfl⟩ := Option.map_eq_some_iff.mp hl
  exact ⟨rfl, s, List.mem_of_find?_eq_some hs, rfl⟩

/-- The lines of a run whose prices are fixed are shown at these prices. -/
theorem reconciliations_linesOf {t : Tables α} (ht : t.Consistent) {run : Uuid}
    (hfixed : ∀ m ∈ t.materialsOf run, m.costPerGram.isSome = true) :
    (t.linesOf run).map (fun l => l.line.reconciliation) =
      (t.materialsOf run).filterMap fun m => m.costPerGram.map (reconcile m) := by
  rw [← Workflow.linesOf_materials ht run] at hfixed ⊢
  rw [List.filterMap_map]
  symm
  refine List.filterMap_eq_map_iff_forall_eq_some.mpr fun l hl => ?_
  obtain ⟨price, hprice⟩ := Option.isSome_iff_exists.mp
    (hfixed l.material (List.mem_map_of_mem hl))
  simp [hprice, PricedMaterial.line]

/-! ## Items -/

/-- The cost of one print is no part of the figures of a run. -/
theorem RunMetrics.compute_pricedItems (cost : Item α → Option α) (items : List (Item α))
    (lines : List (Reconciliation α)) (duration : Option α) (estimatedHours : α) :
    RunMetrics.compute (items.map fun i => pricedItem (cost i) i) lines duration estimatedHours =
      RunMetrics.compute items lines duration estimatedHours := by
  have hweights : (items.map fun i => pricedItem (cost i) i).map Item.successfulWeight =
      items.map Item.successfulWeight := by
    rw [List.map_map]
    rfl
  have htotals : ItemTotals.ofItems (items.map fun i => pricedItem (cost i) i) =
      ItemTotals.ofItems items := by
    simp only [ItemTotals.ofItems, List.foldr_map]
    rfl
  simp only [RunMetrics.compute, hweights, htotals]

/-! ## The end of a run -/

/-- The figures that a view computes of a run. -/
def shownMetrics (t : Tables α) (r : Run α) : RunMetrics α :=
  .compute (t.itemsOf r.id) ((t.linesOf r.id).map fun l => l.line.reconciliation) r.durationHours
    r.estimatedHours

section Closed

variable {now : Timestamp} {t : Tables α} {r : Run α} {ending : RunEnding α}
  {rows : List (Deduction α)}

theorem materialsOf_closed : (t.closed now r ending rows).materialsOf r.id =
    (t.materialsOf r.id).map (fixedLine now t.spools) := by
  refine (filter_changeRows fun m _ _ => by rw [fixedLine_run]).trans ?_
  refine List.map_congr_left fun m hm => ?_
  rw [if_pos (List.mem_filter.mp hm).2]

theorem itemsOf_closed (hcompleted : ending.status = .completed) :
    (t.closed now r ending rows).itemsOf r.id = (t.itemsOf r.id).map fun i =>
      pricedItem ((completionMetrics t r ending.durationHours).unitCost i) i := by
  have hchanged : (t.closed now r ending rows).itemsOf r.id =
      changeRows (fun i => i.run = r.id && ending.status = .completed)
        (fun i => pricedItem ((completionMetrics t r ending.durationHours).unitCost i) i)
        (t.itemsOf r.id) := filter_changeRows fun _ _ _ => rfl
  rw [hchanged]
  refine List.map_congr_left fun i hi => ?_
  rw [if_pos (by simpa [hcompleted] using (List.mem_filter.mp hi).2)]

/-- The end of a run fixes all its lines. -/
theorem fixedAt_of_closed (ht : t.Consistent) (hv : t.Valued) :
    ∀ m ∈ (t.closed now r ending rows).materialsOf r.id, ∃ price, m.FixedAt price := by
  rw [materialsOf_closed]
  intro m hm
  obtain ⟨n, hn, rfl⟩ := List.mem_map.mp hm
  obtain ⟨l, hl, -⟩ := Workflow.priced?_isSome ht (List.mem_of_mem_filter hn)
  obtain ⟨-, s, hs, hcost⟩ := spool_of_priced? hl
  exact ⟨_, fixedLine_of_priced? hl (hcost ▸ hv.prices s hs)⟩

/-- The lines are fixed as they were reconciled. -/
theorem reconciliations_closed (ht : t.Consistent) (hv : t.Valued) :
    ((t.closed now r ending rows).materialsOf r.id).filterMap
        (fun m => m.costPerGram.map (reconcile m)) =
      (t.linesOf r.id).map fun l => reconcile l.material l.spoolCostPerGram := by
  have hlines : ∀ l ∈ t.linesOf r.id, priced? t.spools l.material = some l ∧
      Scalar.isNaN l.spoolCostPerGram = false := by
    intro l hl
    obtain ⟨m, -, hpriced⟩ := List.mem_filterMap.mp hl
    obtain ⟨hm, s, hs, hcost⟩ := spool_of_priced? hpriced
    exact ⟨hm ▸ hpriced, hcost ▸ hv.prices s hs⟩
  rw [materialsOf_closed, ← Workflow.linesOf_materials ht, List.filterMap_map, List.filterMap_map]
  refine List.filterMap_eq_map_iff_forall_eq_some.mpr fun l hl => ?_
  obtain ⟨hpriced, hprice⟩ := hlines l hl
  have hfixed : (fixedLine now t.spools l.material).FixedAt l.spoolCostPerGram :=
    fixedLine_of_priced? hpriced hprice
  -- what was estimated and what was measured is not written
  have hkept : reconcile (fixedLine now t.spools l.material) l.spoolCostPerGram =
      reconcile l.material l.spoolCostPerGram := by
    simp [fixedLine, hpriced, fixedMaterial, reconcile]
  simp [hfixed.costPerGram, hkept]

/-- A completed run stores the hours that it is completed with. -/
theorem durationHours_endedRun [StockScalar α]
    (hduration : ending.durationHours =
      some (r.durationHours.getD (elapsedHours r.startedAt now))) :
    (endedRun now ending r).durationHours = ending.durationHours := by
  show (storedOption ending.durationHours).or r.durationHours = ending.durationHours
  rw [hduration]
  cases hentered : r.durationHours with
  | some d =>
    -- a duration that was entered stays, also where no column could hold it
    rw [Option.getD_some]
    cases hstored : storedOption (some d) with
    | none => rfl
    | some x => rw [Option.mem_some_iff.mp (eq_of_mem_storedOption hstored), Option.some_or]
  | none =>
    have helapsed : IsAmount (elapsedHours r.startedAt now : α) := StockScalar.isAmount_hours _
    rw [Option.getD_none, storedOption_some helapsed, Option.some_or]

/-- What a run is completed with is what it is shown with afterwards. -/
theorem completionMetrics_closed [StockScalar α] (ht : t.Consistent)
    (ht' : (t.closed now r ending rows).Consistent) (hv : t.Valued)
    (hcompleted : ending.status = .completed)
    (hduration : ending.durationHours =
      some (r.durationHours.getD (elapsedHours r.startedAt now))) :
    shownMetrics (t.closed now r ending rows) (endedRun now ending r) =
      completionMetrics t r ending.durationHours := by
  have hid : (endedRun now ending r).id = r.id := rfl
  have hfixed : ∀ m ∈ (t.closed now r ending rows).materialsOf r.id,
      m.costPerGram.isSome = true :=
    fun m hm => Material.isSome_costPerGram (fixedAt_of_closed ht hv m hm)
  unfold shownMetrics
  rw [hid, durationHours_endedRun hduration, reconciliations_linesOf ht' hfixed,
    reconciliations_closed ht hv, itemsOf_closed hcompleted, RunMetrics.compute_pricedItems]
  rfl

end Closed

/-! ## Runs that have ended -/

/-- At this moment the run was completed with these figures: they are computed from its rows as they
were before, and give the costs of its items. -/
structure Moment.Completes (m : Moment α) (run : Uuid) (figures : RunMetrics α) : Prop where
  accepted : m.isAccepted = true
  operation : m.event.operation = .completeRun run
  computed : ∃ r ∈ m.before.tables.runs, r.id = run ∧ figures =
    completionMetrics m.before.tables r
      (some (r.durationHours.getD (elapsedHours r.startedAt m.event.now)))
  priced : m.after.tables.itemsOf run =
    (m.before.tables.itemsOf run).map fun i => pricedItem (figures.unitCost i) i

/-- The lines of the run are fixed, and if it is completed, then it was completed with the figures
that it is shown with, and they give the costs of its items. -/
structure Run.Fixed (past : List (Moment α)) (t : Tables α) (r : Run α) : Prop where
  lines : ∀ m ∈ t.materialsOf r.id, ∃ price, m.FixedAt price
  completes : r.status = .completed → ∃ m ∈ past, m.Completes r.id (shownMetrics t r)
  items : r.status = .completed → ∀ i ∈ t.itemsOf r.id,
    i.actualUnitCost = storedOption ((shownMetrics t r).unitCost i)

/-- What is kept of a run whose lines are fixed is shown with the same figures. -/
theorem Tables.Keeps.shownMetrics_eq {t t' : Tables α} {r r' : Run α} (hkeeps : t.Keeps t' r r')
    (ht : t.Consistent) (ht' : t'.Consistent)
    (hlines : ∀ m ∈ t.materialsOf r.id, ∃ price, m.FixedAt price) :
    shownMetrics t' r' = shownMetrics t r := by
  have hfixed : ∀ m ∈ t.materialsOf r.id, m.costPerGram.isSome = true :=
    fun m hm => Material.isSome_costPerGram (hlines m hm)
  have hduration : r'.durationHours = r.durationHours := by
    have hcolumn := congrArg Run.durationHours hkeeps.record
    exact hcolumn
  have hestimated : r'.estimatedHours = r.estimatedHours := by
    have hcolumn := congrArg Run.estimatedHours hkeeps.record
    exact hcolumn
  unfold shownMetrics
  rw [hkeeps.id_eq, hduration, hestimated, hkeeps.items, reconciliations_linesOf ht hfixed,
    reconciliations_linesOf ht' (hkeeps.materials ▸ hfixed), hkeeps.materials]

/-- What is fixed stays so. -/
theorem Run.Fixed.keeps {past : List (Moment α)} {t t' : Tables α} {r r' : Run α}
    (h : r.Fixed past t) (hkeeps : t.Keeps t' r r') (ht : t.Consistent) (ht' : t'.Consistent)
    (later : List (Moment α)) : r'.Fixed (past ++ later) t' := by
  have hmetrics := hkeeps.shownMetrics_eq ht ht' h.lines
  constructor
  · rw [hkeeps.id_eq, hkeeps.materials]
    exact h.lines
  · intro hcompleted
    obtain ⟨m, hm, hcompletes⟩ := h.completes (hkeeps.status_eq ▸ hcompleted)
    rw [hkeeps.id_eq, hmetrics]
    exact ⟨m, List.mem_append_left _ hm, hcompletes⟩
  · intro hcompleted
    rw [hkeeps.id_eq, hkeeps.items, hmetrics]
    exact h.items (hkeeps.status_eq ▸ hcompleted)

/-- The end of a run fixes its figures. -/
theorem EndsRun.fixed [StockScalar α] {e : Event α} {db : Database α} (hdb : db.Sound)
    (hv : db.tables.Valued) {r : Run α} {ending : RunEnding α} {reason : DeductionReason}
    {usage : UsageTable α} {rows : List (Deduction α)} {past : List (Moment α)}
    (hends : EndsRun e.catalog e.now db.tables (e.after db).tables e.operation r ending reason usage
      rows)
    (haccepted : (⟨e, db⟩ : Moment α).isAccepted = true) (hmem : ⟨e, db⟩ ∈ past) :
    (endedRun e.now ending r).Fixed past (e.after db).tables := by
  obtain ⟨hr, -, hcloses, -, htables⟩ := hends
  have ht := hdb.consistent
  have ht' : (db.tables.closed e.now r ending rows).Consistent :=
    htables ▸ (e.sound_after hdb).consistent
  rw [htables]
  refine ⟨fixedAt_of_closed ht hv, fun hcompleted => ?_, fun hcompleted i hi => ?_⟩
  · obtain ⟨hop, -, hduration⟩ := hcloses.of_completed hcompleted
    rw [completionMetrics_closed ht ht' hv hcompleted hduration]
    refine ⟨_, hmem, haccepted, hop, ⟨r, hr, rfl, hduration ▸ rfl⟩, ?_⟩
    show (e.after db).tables.itemsOf r.id = _
    rw [htables]
    exact itemsOf_closed hcompleted
  · obtain ⟨-, -, hduration⟩ := hcloses.of_completed hcompleted
    rw [completionMetrics_closed ht ht' hv hcompleted hduration]
    obtain ⟨j, -, rfl⟩ := List.mem_map.mp (itemsOf_closed hcompleted ▸ hi)
    rfl

/-! ## Views -/

/-- What the measured lines cost for each gram of the successful prints, if these weigh something. -/
def Snapshot.costPerGram? (view : Snapshot α) : Option α :=
  let cost := Scalar.sum (view.materials.filterMap fun l => l.reconciliation.totalCost)
  let weight := Scalar.sum (view.items.map Item.successfulWeight)
  if Scalar.lt Scalar.zero weight then some (cost / weight) else none

/-- The figures that the end of the run has fixed are those that the view shows.  If the run is
completed, it was completed with the figures of the view, and a print costs its weight at the cost
per gram. -/
structure Snapshot.Agrees (past : List (Moment α)) (view : Snapshot α) : Prop where
  lines : ∀ l ∈ view.materials, l.Agrees
  rate : view.metrics.costPerGram = view.costPerGram?
  unitCosts : ∀ i ∈ view.items, view.metrics.unitCost i =
    i.modelWeight.bind fun weight => view.costPerGram?.map (weight * ·)
  completes : view.run.status = .completed →
    ∃ m ∈ past, m.Completes view.run.id view.metrics
  items : view.run.status = .completed →
    ∀ i ∈ view.items, i.actualUnitCost = storedOption (view.metrics.unitCost i)

theorem RunMetrics.unitCost_eq (m : RunMetrics α) (i : Item α) :
    m.unitCost i = i.modelWeight.bind fun weight => m.costPerGram.map (weight * ·) := by
  cases hweight : i.modelWeight <;> cases hrate : m.costPerGram <;>
    simp [unitCost, hweight, hrate]

/-- A view shows what is fixed. -/
theorem Run.Fixed.agrees {past : List (Moment α)} {t : Tables α} {r : Run α}
    (h : r.Fixed past t) (ht : t.Consistent) (plates : List (Plate α)) :
    (Snapshot.assemble r (t.itemsOf r.id) ((t.linesOf r.id).map PricedMaterial.line)
      plates).Agrees past := by
  have hmetrics : (Snapshot.assemble r (t.itemsOf r.id)
      ((t.linesOf r.id).map PricedMaterial.line) plates).metrics = shownMetrics t r := by
    simp [Snapshot.assemble, shownMetrics, Function.comp_def]
  have hrate : (Snapshot.assemble r (t.itemsOf r.id)
      ((t.linesOf r.id).map PricedMaterial.line) plates).metrics.costPerGram =
        (Snapshot.assemble r (t.itemsOf r.id) ((t.linesOf r.id).map PricedMaterial.line)
          plates).costPerGram? := by
    simp [Snapshot.assemble, Snapshot.costPerGram?, RunMetrics.compute, List.filterMap_map,
      Function.comp_def]
  refine ⟨fun l hl => ?_, hrate, fun i _ => ?_, fun hcompleted => ?_, fun hcompleted => ?_⟩
  · obtain ⟨p, hp, rfl⟩ := List.mem_map.mp hl
    have hm : p.material ∈ t.materialsOf r.id := by
      rw [← Workflow.linesOf_materials ht]
      exact List.mem_map_of_mem hp
    obtain ⟨price, hfixed⟩ := h.lines _ hm
    exact hfixed.agrees
  · rw [RunMetrics.unitCost_eq, hrate]
  · rw [hmetrics]
    exact h.completes hcompleted
  · rw [hmetrics]
    exact h.items hcompleted

/-- Whatever operations are performed, a run that has ended is shown with all its items and lines,
and the figures that its end has fixed are those that the view computes anew. -/
theorem fixed_figures_shown (start : Sequences) (events : List (Event Float)) :
    let db := (Database.fresh start).afterAll events
    ∀ r ∈ db.tables.runs, r.status.isTerminal = true → ∃ view, db.view r.id = .ok view ∧
      view.run = r ∧ view.items = db.tables.itemsOf r.id ∧
      view.materials.map MaterialLine.material = db.tables.materialsOf r.id ∧
      view.Agrees ((Database.fresh start).history events) := by
  intro db r hr hend
  have ht : db.tables.Consistent :=
    (Database.sound_afterAll (.fresh (α := Float) start) events).consistent
  have hfixed : r.Fixed ((Database.fresh start).history events) db.tables := by
    refine ended_induction (fun db => db.tables.Valued)
      (motive := fun past t r => r.Fixed past t) start .empty
      (fun e _ hdb hv => e.valued_after hdb hv) ?_ ?_ events r hr hend
    · intro past e db r ending reason usage rows hdb hv haccepted hends
      exact hends.fixed hdb hv haccepted (by simp)
    · intro past later t t' r r' ht ht' hkeeps h
      exact h.keeps hkeeps ht ht' later
  refine ⟨_, Database.view_eq ht hr, rfl, rfl, ?_, hfixed.agrees ht _⟩
  show ((db.tables.linesOf r.id).map PricedMaterial.line).map MaterialLine.material = _
  rw [← Workflow.linesOf_materials ht, List.map_map]
  rfl

/-- A run of two prints takes less than was estimated, and gets a note after it is completed. -/
def completedSession : List (Event Float) :=
  let item : NewItem Float := ⟨.numbered 9 1, none, 2, none, some 10.0, none⟩
  let request : RunRequest Float :=
    ⟨⟨none, 1.5, none, none, none, none, none⟩, [item], [⟨.numbered 1 1, 30.0, some 2.0, none⟩]⟩
  let notes : RunPatch Float := ⟨none, none, none, none, none, none, none, some "warm"⟩
  [.createSpool ⟨"PLA", "PLA", none, 1000.0, 0.02⟩, .createRun request,
    .recordActual (.numbered 2 1) (.numbered 4 1) ⟨some 25.0, none, none⟩,
    .updateOutcome (.numbered 2 1) (.numbered 3 1) ⟨2, 0⟩,
    .completeRun (.numbered 2 1), .updateRun (.numbered 2 1) notes].map
    (Event.mk .builtin ⟨1767225600, 0⟩)

/-- The completed run is shown with the figures of its completion: 32 g were estimated and 25 g were
used, at 0.02 a gram, and each of the two prints weighs half of the 20 g that came out. -/
theorem completed_figures_shown :
    let db := (Database.fresh {}).afterAll completedSession
    ∃ r ∈ db.tables.runs, r.status = .completed ∧ ∃ view, db.view r.id = .ok view ∧
      view.Agrees ((Database.fresh {}).history completedSession) ∧
      (view.materials.map MaterialLine.material).map
        (fun m => (m.estimatedCost, m.totalCost, m.variance, m.costPerGram)) =
          [(some 0.64, some 0.5, some (-21.875), some 0.02)] ∧
      view.items.map Item.actualUnitCost = [some 0.25] := by
  intro db
  have hruns : db.tables.runs.map (fun r => (r.id, r.status)) = [(.numbered 2 1, .completed)] := by
    decide +kernel
  obtain ⟨r, hr, hrow⟩ : ∃ r ∈ db.tables.runs, (r.id, r.status) = (.numbered 2 1, .completed) :=
    List.mem_map.mp (by simp [hruns])
  obtain ⟨hid, hcompleted⟩ := Prod.mk.inj hrow
  obtain ⟨view, hview, -, hitems, hlines, hagrees⟩ :=
    fixed_figures_shown {} completedSession r hr (by rw [hcompleted]; rfl)
  refine ⟨r, hr, hcompleted, view, hview, hagrees, ?_, ?_⟩
  · rw [hlines, hid]
    decide +kernel
  · rw [hitems, hid]
    decide +kernel

end PrintFarm
