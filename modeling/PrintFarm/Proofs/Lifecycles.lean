import PrintFarm.Proofs.Amounts
import PrintFarm.Proofs.Separation

/-!
# Columns that go with a status

Which columns of a run and of what it owns are set depends on how far the run and its plates are.

* `Run.Staged` and `Plate.Staged` say it for one row, and `Tables.Staged` for a run with everything
  that it owns.
* The lemmas in the namespace `Tables.Staged` say for each way of changing what a run owns what
  keeps it in stage.  The other runs are left alone (`Step.leaves`), so a step is looked at only
  for its own run (`Step.staged`).
* `columns_agree` is about all tables that operations lead to.
-/

namespace PrintFarm

open Store
open Scalar (IsAmount)

variable {α : Type}

/-! ## Rows -/

/-- The columns of a run are set as its status says. -/
structure Run.Staged (r : Run α) : Prop where
  completedAt : r.completedAt.isSome = true ↔ r.status.isTerminal = true
  cancelMode : r.cancelMode.isSome = true ↔ r.status = .cancelled
  wasteReason : r.wasteReason.isSome = true ↔ r.status = .failed
  wasteGrams : r.wasteGrams.isSome = true ↔ r.status = .failed
  duration : r.status = .completed → r.durationHours.isSome = true

/-- The times and counts of a plate are set as its status says. -/
structure Plate.Staged (p : Plate α) : Prop where
  unstarted : p.status = .pending → p.startedAt = none
  started : p.status = .printing → p.startedAt.isSome = true
  completedAt : p.completedAt.isSome = true ↔ p.status.isTerminal = true
  uncounted : p.status ≠ .completed → p.status ≠ .failed → p.successful = 0 ∧ p.failed = 0
  lost : p.status = .failed → p.successful = 0 ∧ p.failed = p.printsPerPlate

theorem PlateStatus.canBecome_printing {s : PlateStatus} :
    s.canBecome .printing = true ↔ s = .pending := by
  cases s <;> simp [canBecome, isTerminal]

/-- A plate that has not ended has no counts. -/
theorem Plate.Staged.uncounted_of_open {p : Plate α} (h : p.Staged)
    (hopen : p.status.isTerminal = false) : p.successful = 0 ∧ p.failed = 0 := by
  refine h.uncounted ?_ ?_
  · intro hstatus
    rw [hstatus] at hopen
    exact nomatch hopen
  · intro hstatus
    rw [hstatus] at hopen
    exact nomatch hopen

/-- An open plate is cancelled together with its run. -/
theorem Plate.Staged.cancelled {p : Plate α} (h : p.Staged) (now completedAt : Timestamp)
    (hopen : p.status.isTerminal = false) : (cancelledPlate now completedAt p).Staged where
  unstarted := (nomatch ·)
  started := (nomatch ·)
  completedAt := ⟨fun _ => rfl, fun _ => rfl⟩
  uncounted _ _ := h.uncounted_of_open hopen
  lost := (nomatch ·)

/-! ## A run and what it owns -/

/-- A run and everything that it owns are set as its status and the statuses of its plates say. -/
structure Tables.Staged (t : Tables α) (r : Run α) : Prop where
  run : r.Staged
  materials : ∀ m ∈ t.materialsOf r.id, m.costPerGram.isSome = true ↔ r.status.isTerminal = true
  items : ∀ i ∈ t.itemsOf r.id, i.actualUnitCost.isSome = true → r.status = .completed
  plates : ∀ p ∈ t.platesOf r.id, p.Staged
  ended : r.status.isTerminal = true → ∀ p ∈ t.platesOf r.id, p.status.isTerminal = true
  numbers : ((t.platesOf r.id).map Plate.number).Nodup
  planned : ∀ p ∈ t.platesOf r.id, ∃ i ∈ t.itemsOf r.id,
    i.model = p.model ∧ p.printsPerPlate ≤ i.quantity

namespace Tables.Staged

variable {t t' : Tables α} {r : Run α}

/-- A run that is left alone stays in stage. -/
theorem of_leaves (h : t.Staged r) (hleaves : t.Leaves t' r) : t'.Staged r where
  run := h.run
  materials := hleaves.materials ▸ h.materials
  items := hleaves.items ▸ h.items
  plates := hleaves.plates ▸ h.plates
  ended := hleaves.plates ▸ h.ended
  numbers := hleaves.plates ▸ h.numbers
  planned := hleaves.plates ▸ hleaves.items ▸ h.planned

theorem touched (h : t.Staged r) (now : Timestamp) (run : Uuid) :
    (t.touched now run).Staged (touchedRun now r) where
  run := ⟨h.run.completedAt, h.run.cancelMode, h.run.wasteReason, h.run.wasteGrams, h.run.duration⟩
  materials := h.materials
  items := h.items
  plates := h.plates
  ended := h.ended
  numbers := h.numbers
  planned := h.planned

/-- Items may change but for their models, quantities and costs. -/
theorem changeItems (h : t.Staged r) {selected : Item α → Bool} {change : Item α → Item α}
    (hkeys : ∀ i, (change i).run = i.run ∧ (change i).model = i.model ∧
      (change i).quantity = i.quantity ∧ (change i).actualUnitCost = i.actualUnitCost) :
    Tables.Staged { t with items := changeRows selected change t.items } r := by
  have hitems : Tables.itemsOf { t with items := changeRows selected change t.items } r.id =
      changeRows selected change (t.itemsOf r.id) :=
    filter_changeRows fun i _ _ => by rw [(hkeys i).1]
  refine { h with items := ?_, planned := fun p hp => ?_ }
  · rw [hitems]
    refine forall_changeRows h.items fun i hi _ hset => h.items i hi ?_
    rw [← (hkeys i).2.2.2]
    exact hset
  · obtain ⟨i, hi, hmodel, hquantity⟩ := h.planned p hp
    refine ⟨_, hitems ▸ mem_changeRows.mpr ⟨i, hi, rfl⟩, ?_⟩
    split
    · exact ⟨(hkeys i).2.1.trans hmodel, (hkeys i).2.2.1 ▸ hquantity⟩
    · exact ⟨hmodel, hquantity⟩

/-- Lines may change but for the price they are fixed at. -/
theorem changeMaterials (h : t.Staged r) {selected : Material α → Bool}
    {change : Material α → Material α}
    (hkeys : ∀ m, (change m).run = m.run ∧ (change m).costPerGram = m.costPerGram) :
    Tables.Staged { t with materials := changeRows selected change t.materials } r := by
  have hmaterials : Tables.materialsOf
      { t with materials := changeRows selected change t.materials } r.id =
      changeRows selected change (t.materialsOf r.id) :=
    filter_changeRows fun m _ _ => by rw [(hkeys m).1]
  refine { h with materials := ?_ }
  rw [hmaterials]
  refine forall_changeRows h.materials fun m hm _ => ?_
  rw [(hkeys m).2]
  exact h.materials m hm

/-- A line that is added to a run in progress has no fixed price. -/
theorem addMaterial (h : t.Staged r) (hprogress : r.status = .inProgress) {m : Material α}
    (hunset : m.costPerGram = none) :
    Tables.Staged { t with materials := t.materials ++ [m] } r := by
  refine { h with materials := fun n hn => ?_ }
  obtain ⟨hn, hrun⟩ := List.mem_filter.mp hn
  rcases List.mem_append.mp hn with hn | hn
  · exact h.materials n (List.mem_filter.mpr ⟨hn, hrun⟩)
  · obtain rfl := List.mem_singleton.mp hn
    simp [hunset, hprogress, RunStatus.isTerminal]

theorem filterMaterials (h : t.Staged r) (q : Material α → Bool) :
    Tables.Staged { t with materials := t.materials.filter q } r := by
  refine { h with materials := fun m hm => ?_ }
  obtain ⟨hm, hrun⟩ := List.mem_filter.mp hm
  exact h.materials m (List.mem_filter.mpr ⟨List.mem_of_mem_filter hm, hrun⟩)

/-- Plates of a run in progress may change but for their numbers, models and sizes. -/
theorem changePlates (h : t.Staged r) (hprogress : r.status = .inProgress)
    {selected : Plate α → Bool} {change : Plate α → Plate α}
    (hkeys : ∀ p, (change p).run = p.run ∧ (change p).number = p.number ∧
      (change p).model = p.model ∧ (change p).printsPerPlate = p.printsPerPlate)
    (hstaged : ∀ p ∈ t.platesOf r.id, selected p = true → (change p).Staged) :
    Tables.Staged { t with plates := changeRows selected change t.plates } r := by
  have hplates : Tables.platesOf { t with plates := changeRows selected change t.plates } r.id =
      changeRows selected change (t.platesOf r.id) :=
    filter_changeRows fun p _ _ => by rw [(hkeys p).1]
  refine { h with plates := ?_, ended := fun hend => ?_, numbers := ?_, planned := ?_ }
  · rw [hplates]
    exact forall_changeRows h.plates hstaged
  · rw [hprogress] at hend
    exact nomatch hend
  · rw [hplates, map_changeRows fun p _ _ => (hkeys p).2.1]
    exact h.numbers
  · rw [hplates]
    refine forall_changeRows h.planned fun p hp _ => ?_
    rw [(hkeys p).2.2.1, (hkeys p).2.2.2]
    exact h.planned p hp

/-- A pending plate with a new number may be added to a run in progress. -/
theorem addPlate (h : t.Staged r) (hprogress : r.status = .inProgress) {p : Plate α}
    (hrun : p.run = r.id) (hstaged : p.Staged)
    (hnumber : ∀ q ∈ t.platesOf r.id, q.number ≠ p.number)
    (hplanned : ∃ i ∈ t.itemsOf r.id, i.model = p.model ∧ p.printsPerPlate ≤ i.quantity) :
    Tables.Staged { t with plates := t.plates ++ [p] } r := by
  have hplates : Tables.platesOf { t with plates := t.plates ++ [p] } r.id =
      t.platesOf r.id ++ [p] := by
    unfold Tables.platesOf
    rw [List.filter_append, List.filter_cons_of_pos (by simpa using hrun), List.filter_nil]
  refine { h with plates := ?_, ended := fun hend => ?_, numbers := ?_, planned := ?_ }
  · rw [hplates]
    exact List.forall_mem_append.mpr ⟨h.plates, by simpa using hstaged⟩
  · rw [hprogress] at hend
    exact nomatch hend
  · rw [hplates]
    exact nodup_map_concat h.numbers hnumber
  · rw [hplates]
    refine List.forall_mem_append.mpr ⟨h.planned, fun q hq => ?_⟩
    obtain rfl := List.mem_singleton.mp hq
    exact hplanned

theorem filterPlates (h : t.Staged r) (q : Plate α → Bool) :
    Tables.Staged { t with plates := t.plates.filter q } r := by
  have hmem : ∀ p ∈ Tables.platesOf { t with plates := t.plates.filter q } r.id,
      p ∈ t.platesOf r.id := by
    intro p hp
    obtain ⟨hp, hrun⟩ := List.mem_filter.mp hp
    exact List.mem_filter.mpr ⟨List.mem_of_mem_filter hp, hrun⟩
  exact { h with
    plates := fun p hp => h.plates p (hmem p hp)
    ended := fun hend p hp => h.ended hend p (hmem p hp)
    numbers := h.numbers.sublist ((List.filter_sublist.filter _).map _)
    planned := fun p hp => h.planned p (hmem p hp) }

end Tables.Staged

/-! ## Rows that are changed -/

variable [Scalar α]

theorem Run.Staged.edited {r : Run α} (h : r.Staged) (now : Timestamp) (patch : RunPatch α) :
    (editedRun now patch r).Staged where
  completedAt := h.completedAt
  cancelMode := h.cancelMode
  wasteReason := h.wasteReason
  wasteGrams := h.wasteGrams
  duration hstatus := by
    show ((storedOption patch.durationHours).or r.durationHours).isSome = true
    rw [Option.isSome_or, h.duration hstatus, Bool.or_true]

/-- The end of a run sets what goes with the status it ends in. -/
theorem Run.Staged.ended [StockScalar α] {r : Run α} (h : r.Staged)
    (hprogress : r.status = .inProgress) {catalog : Catalog} {now : Timestamp} {t : Tables α}
    {op : Operation α} {ending : RunEnding α} {reason : DeductionReason} {usage : UsageTable α}
    (hcloses : Closes catalog now t r op ending reason usage) :
    (endedRun now ending r).Staged := by
  have hmode : r.cancelMode = none := by
    have hiff := h.cancelMode
    rw [hprogress] at hiff
    simpa using hiff
  have hreason : r.wasteReason = none := by
    have hiff := h.wasteReason
    rw [hprogress] at hiff
    simpa using hiff
  have hgrams : r.wasteGrams = none := by
    have hiff := h.wasteGrams
    rw [hprogress] at hiff
    simpa using hiff
  cases hcloses with
  | complete =>
    refine ⟨?_, ?_, ?_, ?_, fun _ => ?_⟩
    · simp [endedRun, touchedRun, RunEnding.apply, RunStatus.isTerminal]
    · simp [endedRun, touchedRun, RunEnding.apply, hmode]
    · simp [endedRun, touchedRun, RunEnding.apply, hreason]
    · simp [endedRun, touchedRun, RunEnding.apply, storedOption, hgrams]
    · -- a duration that was entered stays, and the hours since the start are a number
      show ((storedOption (some (r.durationHours.getD (elapsedHours r.startedAt now)))).or
        r.durationHours).isSome = true
      cases r.durationHours with
      | some d => simp
      | none =>
        have hhours : IsAmount (elapsedHours r.startedAt now : α) := StockScalar.isAmount_hours _
        rw [Option.getD_none, storedOption_some hhours]
        rfl
  | cancel =>
    constructor <;>
      simp [endedRun, touchedRun, RunEnding.apply, storedOption, RunStatus.isTerminal, hreason,
        hgrams]
  | @fail request =>
    have hsum := isAmount_sum_positiveUsage request.waste
    constructor <;>
      simp [endedRun, touchedRun, RunEnding.apply, RunStatus.isTerminal, hmode,
        storedOption_some hsum]

/-- A plate that moves has its times and counts set by the move. -/
theorem Plate.Staged.moved {p : Plate α} (h : p.Staged) {now : Timestamp} {op : Operation α}
    {run plate : Uuid} {next : PlateStatus} {move : PlateMove α}
    (hmoves : MovesPlate now op run plate next move) (hnext : p.status.canBecome next = true) :
    (movedPlate now next (move.counted next p.printsPerPlate) p).Staged := by
  have hopen := PlateStatus.not_isTerminal_of_canBecome hnext
  have hcounts := h.uncounted_of_open hopen
  cases hmoves with
  | start =>
    have hpending := PlateStatus.canBecome_printing.mp hnext
    have hunset : p.completedAt = none := by
      have hiff := h.completedAt
      rw [hpending] at hiff
      simpa [PlateStatus.isTerminal] using hiff
    exact
      { unstarted := (nomatch ·)
        started := fun _ => rfl
        completedAt := by
          simp [movedPlate, touchedPlate, PlateMove.apply, PlateMove.counted, hunset,
            PlateStatus.isTerminal]
        uncounted := fun _ _ => hcounts
        lost := (nomatch ·) }
  | complete =>
    exact
      { unstarted := (nomatch ·)
        started := (nomatch ·)
        completedAt := ⟨fun _ => rfl, fun _ => rfl⟩
        uncounted := fun hother _ => absurd rfl hother
        lost := (nomatch ·) }
  | fail =>
    exact
      { unstarted := (nomatch ·)
        started := (nomatch ·)
        completedAt := ⟨fun _ => rfl, fun _ => rfl⟩
        uncounted := fun _ hother => absurd rfl hother
        lost := fun _ => ⟨rfl, rfl⟩ }
  | cancel =>
    exact
      { unstarted := (nomatch ·)
        started := (nomatch ·)
        completedAt := ⟨fun _ => rfl, fun _ => rfl⟩
        uncounted := fun _ _ => hcounts
        lost := (nomatch ·) }

/-- The line of a run that ends has the price of its spool. -/
theorem fixedLine_costPerGram {t : Tables α} (ht : t.Consistent) (hv : t.Valued)
    (now : Timestamp) {m : Material α} (hm : m ∈ t.materials) :
    (fixedLine now t.spools m).costPerGram.isSome = true := by
  obtain ⟨s, hs, hid⟩ := List.mem_map.mp (ht.lineSpools m hm)
  have hfound : t.spools.find? (fun s => s.id = m.spool) = some s := by
    rw [← hid]
    exact find?_of_nodup ht.spoolIds hs
  have hprice : Scalar.stored? s.costPerGram = some s.costPerGram :=
    Scalar.stored?_eq_some.mpr ⟨hv.prices s hs, rfl⟩
  simp [fixedLine, priced?, hfound, fixedMaterial, reconcile, hprice]

/-! ## One step -/

/-- The end of a run fixes its lines, prices its items if it is completed, and cancels the plates
that are still open. -/
theorem Tables.Staged.closed [StockScalar α] {t : Tables α} (ht : t.Consistent) (hv : t.Valued)
    {r : Run α} (h : t.Staged r) (hprogress : r.status = .inProgress) {catalog : Catalog}
    {now : Timestamp} {op : Operation α} {ending : RunEnding α} {reason : DeductionReason}
    {usage : UsageTable α} (rows : List (Deduction α))
    (hcloses : Closes catalog now t r op ending reason usage) :
    (t.closed now r ending rows).Staged (endedRun now ending r) := by
  have hmaterials : (t.closed now r ending rows).materialsOf r.id =
      changeRows (fun m => m.run = r.id) (fixedLine now t.spools) (t.materialsOf r.id) :=
    filter_changeRows fun m _ _ => by rw [fixedLine_run]
  have hitems : (t.closed now r ending rows).itemsOf r.id =
      changeRows (fun i => i.run = r.id && ending.status = .completed)
        (fun i => pricedItem ((completionMetrics t r ending.durationHours).unitCost i) i)
        (t.itemsOf r.id) :=
    filter_changeRows fun _ _ _ => rfl
  have hplates : (t.closed now r ending rows).platesOf r.id =
      changeRows (fun p => p.run = r.id && !p.status.isTerminal)
        (cancelledPlate now ending.completedAt) (t.platesOf r.id) :=
    filter_changeRows fun _ _ _ => rfl
  have hend := hcloses.isTerminal
  refine ⟨h.run.ended hprogress hcloses, fun m hm => ?_, fun i hi hset => ?_, fun p hp => ?_,
    fun _ p hp => ?_, ?_, fun p hp => ?_⟩
  · obtain ⟨n, hn, rfl⟩ := mem_changeRows.mp (hmaterials ▸ hm)
    obtain ⟨hn, hrun⟩ := List.mem_filter.mp hn
    rw [if_pos hrun]
    exact ⟨fun _ => hend, fun _ => fixedLine_costPerGram ht hv now hn⟩
  · obtain ⟨j, hj, rfl⟩ := mem_changeRows.mp (hitems ▸ hi)
    by_cases hcompleted : ending.status = .completed
    · exact hcompleted
    · rw [if_neg (by simp [hcompleted])] at hset
      have hstatus := h.items j hj hset
      rw [hprogress] at hstatus
      exact nomatch hstatus
  · obtain ⟨q, hq, rfl⟩ := mem_changeRows.mp (hplates ▸ hp)
    split
    · rename_i hsel
      have hopen : q.status.isTerminal = false := by
        simpa using (Bool.and_eq_true_iff.mp hsel).2
      exact (h.plates q hq).cancelled now ending.completedAt hopen
    · exact h.plates q hq
  · obtain ⟨q, hq, rfl⟩ := mem_changeRows.mp (hplates ▸ hp)
    have hrun := (List.mem_filter.mp hq).2
    cases hopen : q.status.isTerminal with
    | true =>
      rw [if_neg (by simp)]
      exact hopen
    | false =>
      rw [if_pos (by simp [of_decide_eq_true hrun])]
      rfl
  · have hnumbers : ((t.closed now r ending rows).platesOf r.id).map Plate.number =
        (t.platesOf r.id).map Plate.number := by
      rw [hplates]
      exact map_changeRows fun _ _ _ => rfl
    exact hnumbers ▸ h.numbers
  · have hplanned : ∀ p ∈ (t.closed now r ending rows).platesOf r.id, ∃ i ∈ t.itemsOf r.id,
        i.model = p.model ∧ p.printsPerPlate ≤ i.quantity := by
      rw [hplates]
      exact forall_changeRows h.planned fun p hp _ => h.planned p hp
    obtain ⟨i, hi, hkeys⟩ := hplanned p hp
    refine ⟨_, hitems ▸ mem_changeRows.mpr ⟨i, hi, rfl⟩, ?_⟩
    split <;> exact hkeys

omit [Scalar α] in
/-- Where an operation changes one run and leaves the others alone, all stay in stage if the one
does. -/
theorem staged_of_change {t t' : Tables α} {run : Uuid} {change : Run α → Run α}
    (hruns : t'.runs = changeRows (fun r => r.id = run) change t.runs)
    (hothers : ∀ r ∈ t.runs, r.id ≠ run → t'.Staged r)
    (hself : ∀ r ∈ t.runs, r.id = run → t'.Staged (change r)) : ∀ r ∈ t'.runs, t'.Staged r := by
  intro r hr
  rw [hruns] at hr
  obtain ⟨q, hq, rfl⟩ := mem_changeRows.mp hr
  by_cases hid : q.id = run
  · rw [if_pos (by simpa using hid)]
    exact hself q hq hid
  · rw [if_neg (by simpa using hid)]
    exact hothers q hq hid

/-- A run that takes changes is in progress. -/
theorem Tables.Takes.inProgress {t : Tables α} (ht : t.Consistent) {run : Uuid}
    (h : t.Takes run) {r : Run α} (hr : r ∈ t.runs) (hid : r.id = run) :
    r.status = .inProgress := by
  obtain ⟨q, hq, hqid, hprogress⟩ := h
  obtain rfl := eq_of_key_eq ht.runIds hq hr (hqid.trans hid.symm)
  exact hprogress

/-- An accepted operation leaves all runs in stage. -/
theorem Step.staged [StockScalar α] {catalog : Catalog} {now : Timestamp} {t t' : Tables α}
    {op : Operation α} (ht : t.Consistent) (hv : t.Valued) (hstep : Step catalog now t op t')
    (h : ∀ r ∈ t.runs, t.Staged r) : ∀ r ∈ t'.runs, t'.Staged r := by
  have hleft : ∀ r ∈ t.runs, op.run? ≠ some r.id → t'.Staged r := fun r hr hop =>
    (h r hr).of_leaves (hstep.leaves ht hr hop)
  have hothers : ∀ {run : Uuid}, op.run? = some run → ∀ r ∈ t.runs, r.id ≠ run → t'.Staged r := by
    intro run hrun r hr hne
    refine hleft r hr fun hop => hne ?_
    exact Option.some.inj (hop.symm.trans hrun)
  cases hstep with
  | read => exact h
  | createSpool => exact fun r hr => hleft r hr (by simp [Operation.run?])
  | @createRun _ _ _ r items materials _ hrow _ hid _ hitems _ _ hmaterials =>
    refine List.forall_mem_append.mpr
      ⟨fun q hq => hleft q hq (by simp [Operation.run?]), fun q hq => ?_⟩
    obtain rfl := List.mem_singleton.mp hq
    -- before the run was created, nothing belonged to it
    have hnew : q.id ∉ t.runs.map Run.id := by
      intro hmem
      obtain ⟨s, hs, heq⟩ := List.mem_map.mp hmem
      exact hid s hs heq
    have hstatus : q.status = .inProgress := by rw [hrow, runRow]
    have hplates : t.platesOf q.id = [] := by
      refine List.filter_eq_nil_iff.mpr fun p hp hrun => hnew ?_
      rw [← of_decide_eq_true hrun]
      exact ht.plateRuns p hp
    refine ⟨?_, fun m hm => ?_, fun i hi hset => ?_, fun p hp => ?_, fun hend => ?_, ?_,
      fun p hp => ?_⟩
    · rw [hrow]
      constructor <;> simp [runRow, RunStatus.isTerminal]
    · obtain ⟨hm, hrun⟩ := List.mem_filter.mp hm
      rcases List.mem_append.mp hm with hm | hm
      · exact absurd (of_decide_eq_true hrun ▸ ht.materialRuns m hm) hnew
      · obtain ⟨new, -, hmrow, -⟩ := exists_of_forall₂ hmaterials hm
        rw [hmrow, hstatus]
        simp [materialRow, RunStatus.isTerminal]
    · obtain ⟨hi, hrun⟩ := List.mem_filter.mp hi
      rcases List.mem_append.mp hi with hi | hi
      · exact absurd (of_decide_eq_true hrun ▸ ht.itemRuns i hi) hnew
      · obtain ⟨new, -, hirow, -⟩ := exists_of_forall₂ hitems hi
        rw [hirow] at hset
        exact absurd hset Bool.false_ne_true
    · exact absurd (hplates ▸ hp) List.not_mem_nil
    · rw [hstatus] at hend
      exact absurd hend (by decide)
    · show ((t.platesOf q.id).map Plate.number).Nodup
      rw [hplates]
      exact List.nodup_nil
    · exact absurd (hplates ▸ hp) List.not_mem_nil
  | updateRun =>
    refine staged_of_change rfl (hothers rfl) fun r hr _ => ?_
    have hself := h r hr
    exact ⟨hself.run.edited .., hself.materials, hself.items, hself.plates, hself.ended,
      hself.numbers, hself.planned⟩
  | @close _ r ending _ _ rows hr hprogress hcloses =>
    refine staged_of_change rfl (hothers (Operation.run?_of_ends? hcloses.ends?_eq))
      fun q hq hid => ?_
    obtain rfl := eq_of_key_eq ht.runIds hq hr hid
    exact (h q hr).closed ht hv hprogress rows hcloses
  | updateOutcome =>
    refine staged_of_change rfl (hothers rfl) fun r hr _ => ((h r hr).changeItems ?_).touched ..
    exact fun _ => ⟨rfl, rfl, rfl, rfl⟩
  | addMaterial _ htakes hrow =>
    refine staged_of_change rfl (hothers rfl) fun r hr hid => ?_
    refine ((h r hr).addMaterial (htakes.inProgress ht hr hid) ?_).touched ..
    rw [hrow, materialRow]
  | recordActual =>
    refine staged_of_change rfl (hothers rfl) fun r hr _ =>
      ((h r hr).changeMaterials ?_).touched ..
    exact fun _ => ⟨rfl, rfl⟩
  | resetActuals =>
    refine staged_of_change rfl (hothers rfl) fun r hr _ =>
      ((h r hr).changeMaterials ?_).touched ..
    exact fun _ => ⟨rfl, rfl⟩
  | removeMaterial =>
    exact staged_of_change rfl (hothers rfl) fun r hr _ =>
      ((h r hr).filterMaterials _).touched ..
  | @createPlate run new number name p hvalid htakes hplanned hrow _ _ hnumber =>
    refine staged_of_change rfl (hothers rfl) fun r hr hid => ?_
    refine ((h r hr).addPlate (htakes.inProgress ht hr hid) ?_ ?_ ?_ ?_).touched ..
    · rw [hrow, hid, plateRow]
    · rw [hrow]
      constructor <;> simp [plateRow, PlateStatus.isTerminal]
    · intro q hq heq
      obtain ⟨hq, hrun⟩ := List.mem_filter.mp hq
      rcases hnumber q hq with hne | hne
      · exact hne ((of_decide_eq_true hrun).trans hid)
      · refine hne (heq.trans ?_)
        rw [hrow, plateRow]
    · obtain ⟨i, hi, hrun, hmodel, hquantity⟩ := hplanned
      refine ⟨i, List.mem_filter.mpr ⟨hi, by simp [hrun, hid]⟩, ?_, ?_⟩
      · rw [hrow, hmodel, plateRow]
      · rw [hrow]
        exact hquantity
  | @updatePlate run plate patch p _ htakes hp hpid _ hopen =>
    refine staged_of_change rfl (hothers rfl) fun r hr hid => ?_
    refine ((h r hr).changePlates (htakes.inProgress ht hr hid) ?_ fun q hq _ => ?_).touched ..
    · exact fun _ => ⟨rfl, rfl, rfl, rfl⟩
    · have hstaged := (h r hr).plates q hq
      exact ⟨hstaged.unstarted, hstaged.started, hstaged.completedAt, hstaged.uncounted,
        hstaged.lost⟩
  | deletePlate =>
    exact staged_of_change rfl (hothers rfl) fun r hr _ => ((h r hr).filterPlates _).touched ..
  | @movePlate _ run plate next move p hmoves htakes hp hpid _ hnext =>
    refine staged_of_change rfl (hothers hmoves.run?_eq) fun r hr hid => ?_
    refine (((h r hr).changeItems ?_).changePlates (htakes.inProgress ht hr hid) ?_
      fun q hq hsel => ?_).touched ..
    · exact fun _ => ⟨rfl, rfl, rfl, rfl⟩
    · exact fun _ => ⟨rfl, rfl, rfl, rfl⟩
    · obtain rfl := eq_of_key_eq ht.plateIds (List.mem_of_mem_filter hq) hp
        ((of_decide_eq_true hsel).trans hpid.symm)
      exact ((h r hr).plates q hq).moved hmoves hnext

/-! ## All steps -/

/-- An event leaves amounts in order, whatever it is answered. -/
theorem Event.valued_after [StockScalar α] (e : Event α) {db : Database α} (hdb : db.Sound)
    (hv : db.tables.Valued) : (e.after db).tables.Valued := by
  rcases e.step_or_refused hdb with ⟨_, -, hstep⟩ | ⟨_, -, hsame⟩
  · exact hstep.valued hdb.consistent hv
  · rw [hsame]
    exact hv

/-- Events leave amounts in order, whatever they are answered. -/
theorem Database.valued_afterAll [StockScalar α] {db : Database α} (hdb : db.Sound)
    (hv : db.tables.Valued) (events : List (Event α)) : (db.afterAll events).tables.Valued := by
  have hkept : (db.afterAll events).Sound ∧ (db.afterAll events).tables.Valued := by
    refine afterAll_induction (motive := fun db => db.Sound ∧ db.tables.Valued) ⟨hdb, hv⟩ ?_ events
    intro e db h
    exact ⟨e.sound_after h.1, e.valued_after h.1 h.2⟩
  exact hkept.2

/-- An event leaves amounts and columns in order, whatever it is answered. -/
theorem Event.staged_after [StockScalar α] (e : Event α) {db : Database α} (hdb : db.Sound)
    (hv : db.tables.Valued) (h : ∀ r ∈ db.tables.runs, db.tables.Staged r) :
    (e.after db).tables.Valued ∧ ∀ r ∈ (e.after db).tables.runs, (e.after db).tables.Staged r := by
  refine ⟨e.valued_after hdb hv, ?_⟩
  rcases e.step_or_refused hdb with ⟨_, -, hstep⟩ | ⟨_, -, hsame⟩
  · exact hstep.staged hdb.consistent hv h
  · rw [hsame]
    exact h

theorem staged_afterAll [StockScalar α] (start : Sequences) (events : List (Event α)) :
    let db := (Database.fresh start).afterAll events
    db.Sound ∧ db.tables.Valued ∧ ∀ r ∈ db.tables.runs, db.tables.Staged r := by
  refine Database.afterAll_induction
    (motive := fun db => db.Sound ∧ db.tables.Valued ∧ ∀ r ∈ db.tables.runs, db.tables.Staged r)
    ⟨.fresh start, .empty, fun r hr => absurd hr List.not_mem_nil⟩ (fun e db h => ?_) events
  obtain ⟨hsound, hvalued, hstaged⟩ := h
  exact ⟨e.sound_after hsound, e.staged_after hsound hvalued hstaged⟩

/-- The model of a plate is planned by one item of its run, which plans at least the whole bed. -/
theorem Tables.Staged.item_of_plate {t : Tables α} (ht : t.Consistent) {r : Run α}
    (h : t.Staged r) {p : Plate α} (hp : p ∈ t.platesOf r.id) :
    ∃ i, (t.items.filter fun i => i.run = p.run && i.model = p.model) = [i] ∧
      p.printsPerPlate ≤ i.quantity := by
  have hrun : p.run = r.id := of_decide_eq_true (List.mem_filter.mp hp).2
  obtain ⟨i, hi, hmodel, hquantity⟩ := h.planned p hp
  obtain ⟨hi, hirun⟩ := List.mem_filter.mp hi
  refine ⟨i, ?_, hquantity⟩
  have hone := filter_of_nodup ht.itemModels hi
  rw [← hone]
  refine List.filter_congr fun j _ => ?_
  rw [hrun, ← hmodel, ← of_decide_eq_true hirun]
  simp [Prod.ext_iff]

/-- Whatever operations are performed, the columns of runs, items, lines and plates are set as the
statuses say, the plates of a run have different numbers from one up, and the model of a plate has
one item in its run, which plans at least what the plate holds. -/
theorem columns_agree (start : Sequences) (events : List (Event Float)) :
    let t := ((Database.fresh start).afterAll events).tables
    (∀ r ∈ t.runs, r.Staged ∧
      (∀ m ∈ t.materials, m.run = r.id →
        (m.costPerGram.isSome = true ↔ r.status.isTerminal = true)) ∧
      (∀ i ∈ t.items, i.run = r.id → i.actualUnitCost.isSome = true → r.status = .completed) ∧
      (r.status.isTerminal = true → ∀ p ∈ t.plates, p.run = r.id → p.status.isTerminal = true)) ∧
    ∀ p ∈ t.plates, p.Staged ∧
      (p.status = .completed → p.successful + p.failed ≤ p.printsPerPlate) ∧
      1 ≤ p.number ∧ (∀ q ∈ t.plates, q.run = p.run → q.number = p.number → q = p) ∧
      ∃ i, (t.items.filter fun i => i.run = p.run && i.model = p.model) = [i] ∧
        p.printsPerPlate ≤ i.quantity := by
  obtain ⟨hsound, -, hstaged⟩ := staged_afterAll start events
  refine ⟨fun r hr => ?_, fun p hp => ?_⟩
  · have h := hstaged r hr
    refine ⟨h.run, fun m hm hrun => ?_, fun i hi hrun => ?_, fun hend p hp hrun => ?_⟩
    · exact h.materials m (List.mem_filter.mpr ⟨hm, decide_eq_true hrun⟩)
    · exact h.items i (List.mem_filter.mpr ⟨hi, decide_eq_true hrun⟩)
    · exact h.ended hend p (List.mem_filter.mpr ⟨hp, decide_eq_true hrun⟩)
  · obtain ⟨r, hr, hid⟩ := List.mem_map.mp (hsound.consistent.plateRuns p hp)
    have h := hstaged r hr
    have hmem : ∀ q ∈ ((Database.fresh start).afterAll events).tables.plates, q.run = p.run →
        q ∈ ((Database.fresh start).afterAll events).tables.platesOf r.id := by
      intro q hq hrun
      exact List.mem_filter.mpr ⟨hq, decide_eq_true (hrun.trans hid.symm)⟩
    have hbed := hsound.consistent.beds p hp
    simp only [acceptsPlate, Bool.and_eq_true, decide_eq_true_eq] at hbed
    refine ⟨h.plates p (hmem p hp rfl), fun _ => by omega, by omega, fun q hq hrun hnumber => ?_,
      h.item_of_plate hsound.consistent (hmem p hp rfl)⟩
    exact eq_of_key_eq h.numbers (hmem q hq hrun) (hmem p hp rfl) hnumber

end PrintFarm
