import PrintFarm.Proofs.Rows
import PrintFarm.Store.Items
import PrintFarm.Store.Plates

/-!
# Consistent tables

`Tables.Consistent` is the invariant that all operations keep.  Rows have different identifiers,
they belong to runs and spools that are there, the journal has rows only for runs that have ended
as the rows say, and the numbers of spools, items and plates are in order.

The lemmas below say for each way of changing one table what keeps the tables consistent:

* `changeSpools`, `changeRuns`, `changeItems`, `changeMaterials`, `changePlates` for changes of
  rows that are there,
* `addSpool`, `addRun`, `addItems`, `addMaterials`, `addPlate`, `addDeductions` for new rows,
* `filterMaterials`, `filterPlates` for rows that go.

Every other table stays as it is, so each lemma proves only what is said about its own table.
-/

namespace PrintFarm

open Store

variable {α : Type} [Scalar α]

/-- The counts of an item are from zero up and within its quantity. -/
theorem counts_of_acceptsItem {i : Item α} (h : acceptsItem i = true) :
    0 ≤ i.successful ∧ 0 ≤ i.failed ∧ i.successful + i.failed ≤ i.quantity ∧
      i.quantity ≤ largestCount := by
  simp only [acceptsItem, fitsCount, Bool.and_eq_true, decide_eq_true_eq] at h
  obtain ⟨⟨⟨⟨⟨⟨-, hlargest⟩, -⟩, hsuccessful⟩, hfailed⟩, hsum⟩, -⟩ := h
  exact ⟨hsuccessful, hfailed, hsum, hlargest⟩

/-- Tables whose rows fit together. -/
structure Tables.Consistent (t : Tables α) : Prop where
  spoolIds : (t.spools.map Spool.id).Nodup
  runIds : (t.runs.map Run.id).Nodup
  itemIds : (t.items.map Item.id).Nodup
  materialIds : (t.materials.map Material.id).Nodup
  plateIds : (t.plates.map Plate.id).Nodup
  itemModels : (t.items.map fun i => (i.run, i.model)).Nodup
  materialSpools : (t.materials.map fun m => (m.run, m.spool)).Nodup
  itemRuns : ∀ i ∈ t.items, i.run ∈ t.runs.map Run.id
  materialRuns : ∀ m ∈ t.materials, m.run ∈ t.runs.map Run.id
  plateRuns : ∀ p ∈ t.plates, p.run ∈ t.runs.map Run.id
  lineSpools : ∀ m ∈ t.materials, m.spool ∈ t.spools.map Spool.id
  deductionSpools : ∀ d ∈ t.deductions, d.spool ∈ t.spools.map Spool.id
  deductionRuns : ∀ d ∈ t.deductions, (d.run, d.target) ∈ t.runs.map fun r => (r.id, r.status)
  deductionEnds : ∀ d ∈ t.deductions, d.target.isTerminal = true
  weights : ∀ s ∈ t.spools, Scalar.isNaN s.weight = false ∧ isNotNegative (some s.weight) = true
  outcomes : ∀ i ∈ t.items, acceptsItem i = true
  beds : ∀ p ∈ t.plates, acceptsPlate p = true

namespace Tables.Consistent

variable {t : Tables α}

/-- There is nothing wrong with empty tables. -/
theorem empty : ({} : Tables α).Consistent := by
  constructor <;> simp

/-! ## What follows at once -/

/-- A run in progress has no row in the journal. -/
theorem not_journaled (h : t.Consistent) {r : Run α} (hr : r ∈ t.runs)
    (hp : r.status = .inProgress) : ∀ d ∈ t.deductions, d.run ≠ r.id := by
  intro d hd hrun
  obtain ⟨s, hs, hpair⟩ := List.mem_map.mp (h.deductionRuns d hd)
  obtain ⟨hid, hstatus⟩ := Prod.mk.injEq .. ▸ hpair
  obtain rfl : s = r := eq_of_key_eq h.runIds hs hr (by rw [hid, hrun])
  have hend := h.deductionEnds d hd
  rw [← hstatus, hp] at hend
  exact nomatch hend

/-- The row of a run is found by its identifier. -/
theorem find_run (h : t.Consistent) {r : Run α} (hr : r ∈ t.runs) :
    t.runs.find? (fun s => s.id = r.id) = some r :=
  find?_of_nodup h.runIds hr

/-! ## Spools -/

theorem changeSpools (h : t.Consistent) {g : Spool α → Spool α}
    (hid : ∀ s ∈ t.spools, (g s).id = s.id)
    (hweight : ∀ s ∈ t.spools,
      Scalar.isNaN (g s).weight = false ∧ isNotNegative (some (g s).weight) = true) :
    Tables.Consistent { t with spools := t.spools.map g } := by
  have hids : (t.spools.map g).map Spool.id = t.spools.map Spool.id := by
    rw [List.map_map]
    exact List.map_congr_left hid
  exact { h with
    spoolIds := hids ▸ h.spoolIds
    lineSpools := hids ▸ h.lineSpools
    deductionSpools := hids ▸ h.deductionSpools
    weights := List.forall_mem_map.mpr hweight }

theorem addSpool (h : t.Consistent) {s : Spool α} (hid : ∀ r ∈ t.spools, ¬r.id = s.id)
    (hweight : Scalar.isNaN s.weight = false ∧ isNotNegative (some s.weight) = true) :
    Tables.Consistent { t with spools := t.spools ++ [s] } := by
  have hmem : ∀ k ∈ t.spools.map Spool.id, k ∈ (t.spools ++ [s]).map Spool.id := by
    intro k hk
    rw [List.map_append]
    exact List.mem_append_left _ hk
  exact { h with
    spoolIds := nodup_map_concat h.spoolIds hid
    lineSpools := fun m hm => hmem _ (h.lineSpools m hm)
    deductionSpools := fun d hd => hmem _ (h.deductionSpools d hd)
    weights := List.forall_mem_append.mpr ⟨h.weights, by simpa using hweight⟩ }

/-! ## Runs -/

/-- Runs may change as long as those that have ended keep their status. -/
theorem changeRuns (h : t.Consistent) {selected : Run α → Bool} {change : Run α → Run α}
    (hid : ∀ r ∈ t.runs, selected r = true → (change r).id = r.id)
    (hstatus : ∀ r ∈ t.runs, selected r = true → r.status.isTerminal = true →
      (change r).status = r.status) :
    Tables.Consistent { t with runs := changeRows selected change t.runs } := by
  have hids : (changeRows selected change t.runs).map Run.id = t.runs.map Run.id :=
    map_changeRows hid
  refine { h with
    runIds := hids ▸ h.runIds
    itemRuns := hids ▸ h.itemRuns
    materialRuns := hids ▸ h.materialRuns
    plateRuns := hids ▸ h.plateRuns
    deductionRuns := ?_ }
  intro d hd
  obtain ⟨r, hr, hpair⟩ := List.mem_map.mp (h.deductionRuns d hd)
  obtain ⟨hrun, hend⟩ := Prod.mk.injEq .. ▸ hpair
  refine List.mem_map.mpr ⟨_, mem_changeRows.mpr ⟨r, hr, rfl⟩, ?_⟩
  by_cases hs : selected r = true
  · have hterminal : r.status.isTerminal = true := hend ▸ h.deductionEnds d hd
    rw [if_pos hs, hid r hr hs, hstatus r hr hs hterminal, hrun, hend]
  · rw [if_neg hs, hrun, hend]

theorem addRun (h : t.Consistent) {r : Run α} (hid : ∀ s ∈ t.runs, ¬s.id = r.id) :
    Tables.Consistent { t with runs := t.runs ++ [r] } := by
  have hmem : ∀ k ∈ t.runs.map Run.id, k ∈ (t.runs ++ [r]).map Run.id := by
    intro k hk
    rw [List.map_append]
    exact List.mem_append_left _ hk
  refine { h with
    runIds := nodup_map_concat h.runIds hid
    itemRuns := fun i hi => hmem _ (h.itemRuns i hi)
    materialRuns := fun m hm => hmem _ (h.materialRuns m hm)
    plateRuns := fun p hp => hmem _ (h.plateRuns p hp)
    deductionRuns := fun d hd => ?_ }
  rw [List.map_append]
  exact List.mem_append_left _ (h.deductionRuns d hd)

/-! ## Items -/

theorem changeItems (h : t.Consistent) {selected : Item α → Bool} {change : Item α → Item α}
    (hkeys : ∀ i ∈ t.items, selected i = true →
      (change i).id = i.id ∧ (change i).run = i.run ∧ (change i).model = i.model)
    (haccepts : ∀ i ∈ t.items, selected i = true → acceptsItem (change i) = true) :
    Tables.Consistent { t with items := changeRows selected change t.items } := by
  have hids : (changeRows selected change t.items).map Item.id = t.items.map Item.id :=
    map_changeRows fun i hi hs => (hkeys i hi hs).1
  have hmodels : (changeRows selected change t.items).map (fun i => (i.run, i.model)) =
      t.items.map fun i => (i.run, i.model) :=
    map_changeRows fun i hi hs => by rw [(hkeys i hi hs).2.1, (hkeys i hi hs).2.2]
  exact { h with
    itemIds := hids ▸ h.itemIds
    itemModels := hmodels ▸ h.itemModels
    itemRuns := forall_changeRows h.itemRuns fun i hi hs =>
      (hkeys i hi hs).2.1 ▸ h.itemRuns i hi
    outcomes := forall_changeRows h.outcomes haccepts }

theorem addItems (h : t.Consistent) {items : List (Item α)}
    (hids : ((t.items ++ items).map Item.id).Nodup)
    (hmodels : ((t.items ++ items).map fun i => (i.run, i.model)).Nodup)
    (hruns : ∀ i ∈ items, i.run ∈ t.runs.map Run.id)
    (haccepts : ∀ i ∈ items, acceptsItem i = true) :
    Tables.Consistent { t with items := t.items ++ items } :=
  { h with
    itemIds := hids
    itemModels := hmodels
    itemRuns := List.forall_mem_append.mpr ⟨h.itemRuns, hruns⟩
    outcomes := List.forall_mem_append.mpr ⟨h.outcomes, haccepts⟩ }

/-! ## Materials -/

theorem changeMaterials (h : t.Consistent) {selected : Material α → Bool}
    {change : Material α → Material α}
    (hkeys : ∀ m ∈ t.materials, selected m = true →
      (change m).id = m.id ∧ (change m).run = m.run ∧ (change m).spool = m.spool) :
    Tables.Consistent { t with materials := changeRows selected change t.materials } := by
  have hids : (changeRows selected change t.materials).map Material.id =
      t.materials.map Material.id :=
    map_changeRows fun m hm hs => (hkeys m hm hs).1
  have hspools : (changeRows selected change t.materials).map (fun m => (m.run, m.spool)) =
      t.materials.map fun m => (m.run, m.spool) :=
    map_changeRows fun m hm hs => by rw [(hkeys m hm hs).2.1, (hkeys m hm hs).2.2]
  exact { h with
    materialIds := hids ▸ h.materialIds
    materialSpools := hspools ▸ h.materialSpools
    materialRuns := forall_changeRows h.materialRuns fun m hm hs =>
      (hkeys m hm hs).2.1 ▸ h.materialRuns m hm
    lineSpools := forall_changeRows h.lineSpools fun m hm hs =>
      (hkeys m hm hs).2.2 ▸ h.lineSpools m hm }

theorem addMaterials (h : t.Consistent) {materials : List (Material α)}
    (hids : ((t.materials ++ materials).map Material.id).Nodup)
    (hspools : ((t.materials ++ materials).map fun m => (m.run, m.spool)).Nodup)
    (hruns : ∀ m ∈ materials, m.run ∈ t.runs.map Run.id)
    (hlines : ∀ m ∈ materials, m.spool ∈ t.spools.map Spool.id) :
    Tables.Consistent { t with materials := t.materials ++ materials } :=
  { h with
    materialIds := hids
    materialSpools := hspools
    materialRuns := List.forall_mem_append.mpr ⟨h.materialRuns, hruns⟩
    lineSpools := List.forall_mem_append.mpr ⟨h.lineSpools, hlines⟩ }

theorem filterMaterials (h : t.Consistent) (p : Material α → Bool) :
    Tables.Consistent { t with materials := t.materials.filter p } :=
  { h with
    materialIds := h.materialIds.sublist (List.filter_sublist.map _)
    materialSpools := h.materialSpools.sublist (List.filter_sublist.map _)
    materialRuns := fun m hm => h.materialRuns m (List.mem_of_mem_filter hm)
    lineSpools := fun m hm => h.lineSpools m (List.mem_of_mem_filter hm) }

/-! ## Plates -/

theorem changePlates (h : t.Consistent) {selected : Plate α → Bool} {change : Plate α → Plate α}
    (hkeys : ∀ p ∈ t.plates, selected p = true →
      (change p).id = p.id ∧ (change p).run = p.run)
    (haccepts : ∀ p ∈ t.plates, selected p = true → acceptsPlate (change p) = true) :
    Tables.Consistent { t with plates := changeRows selected change t.plates } := by
  have hids : (changeRows selected change t.plates).map Plate.id = t.plates.map Plate.id :=
    map_changeRows fun p hp hs => (hkeys p hp hs).1
  exact { h with
    plateIds := hids ▸ h.plateIds
    plateRuns := forall_changeRows h.plateRuns fun p hp hs =>
      (hkeys p hp hs).2 ▸ h.plateRuns p hp
    beds := forall_changeRows h.beds haccepts }

theorem addPlate (h : t.Consistent) {p : Plate α} (hid : ∀ q ∈ t.plates, ¬q.id = p.id)
    (hrun : p.run ∈ t.runs.map Run.id) (haccepts : acceptsPlate p = true) :
    Tables.Consistent { t with plates := t.plates ++ [p] } :=
  { h with
    plateIds := nodup_map_concat h.plateIds hid
    plateRuns := List.forall_mem_append.mpr ⟨h.plateRuns, by simpa using hrun⟩
    beds := List.forall_mem_append.mpr ⟨h.beds, by simpa using haccepts⟩ }

theorem filterPlates (h : t.Consistent) (p : Plate α → Bool) :
    Tables.Consistent { t with plates := t.plates.filter p } :=
  { h with
    plateIds := h.plateIds.sublist (List.filter_sublist.map _)
    plateRuns := fun q hq => h.plateRuns q (List.mem_of_mem_filter hq)
    beds := fun q hq => h.beds q (List.mem_of_mem_filter hq) }

/-! ## The journal -/

theorem addDeductions (h : t.Consistent) {rows : List (Deduction α)}
    (hspools : ∀ d ∈ rows, d.spool ∈ t.spools.map Spool.id)
    (hruns : ∀ d ∈ rows, (d.run, d.target) ∈ t.runs.map fun r => (r.id, r.status))
    (hends : ∀ d ∈ rows, d.target.isTerminal = true) :
    Tables.Consistent { t with deductions := t.deductions ++ rows } :=
  { h with
    deductionSpools := List.forall_mem_append.mpr ⟨h.deductionSpools, hspools⟩
    deductionRuns := List.forall_mem_append.mpr ⟨h.deductionRuns, hruns⟩
    deductionEnds := List.forall_mem_append.mpr ⟨h.deductionEnds, hends⟩ }

end Tables.Consistent

end PrintFarm
