import PrintFarm.Proofs.Fixing

/-!
# Costs in exact arithmetic

What a run costs is told of the whole run, of each of its lines and of one print of each item.  Read
with exact numbers, these figures fit together.

* `RunMetrics.IsExact` says how the figures of a run come from its items and lines.
* What the successful prints of all items cost is the material cost of the run
  (`costs_distributed`), also by the costs that are written on the items of a run that is completed
  (`written_costs_distributed`).
* The cost of a run is off its estimate by what its lines are off theirs (`variances_explain`).
-/

namespace PrintFarm

open Store

/-! ## Figures -/

/-- A sum of exact numbers starts from zero, and its order does not matter. -/
theorem Scalar.sum_eq (xs : List Rat) : Scalar.sum xs = xs.sum :=
  List.sum_eq_foldl.symm

/-- The costs of a run are those of its items and lines, without rounding. -/
structure RunMetrics.IsExact (figures : RunMetrics Rat) (items : List (Item Rat))
    (lines : List (Reconciliation Rat)) : Prop where
  estimatedCost : figures.estimatedCost = (lines.map Reconciliation.estimatedCost).sum
  materialCost : figures.materialCost = (lines.filterMap Reconciliation.totalCost).sum
  costVariance : figures.costVariance = figures.materialCost - figures.estimatedCost
  successfulWeight : figures.successfulWeight = (items.map Item.successfulWeight).sum
  costPerGram : figures.costPerGram =
    if 0 < figures.successfulWeight then some (figures.materialCost / figures.successfulWeight)
    else none

theorem RunMetrics.isExact_compute (items : List (Item Rat)) (lines : List (Reconciliation Rat))
    (duration : Option Rat) (hours : Rat) :
    (compute items lines duration hours).IsExact items lines where
  estimatedCost := Scalar.sum_eq _
  materialCost := Scalar.sum_eq _
  costVariance := rfl
  successfulWeight := Scalar.sum_eq _
  costPerGram := if_congr decide_eq_true_iff rfl rfl

/-! ## The cost of prints -/

namespace Item

/-- The item has no negative count of successful prints, and no negative weight. -/
structure IsWeighable (i : Item Rat) : Prop where
  successful : 0 ≤ i.successful
  modelWeight : ∀ weight ∈ i.modelWeight, 0 ≤ weight

variable {i : Item Rat}

/-- The tables take no other items. -/
theorem isWeighable_of_accepts (h : acceptsItem i = true) : i.IsWeighable := by
  refine ⟨(counts_of_acceptsItem h).1, fun weight hweight => ?_⟩
  simp only [acceptsItem, Bool.and_eq_true, isNotNegative] at h
  obtain ⟨-, hnot⟩ := h
  rw [Option.mem_def.mp hweight, Option.all_some, Bool.not_eq_true'] at hnot
  exact Rat.not_lt.mp (of_decide_eq_false hnot)

theorem successfulWeight_eq (i : Item Rat) :
    i.successfulWeight = i.modelWeight.getD 0 * i.successful :=
  rfl

theorem IsWeighable.successfulWeight_nonneg (h : i.IsWeighable) : 0 ≤ i.successfulWeight := by
  rw [successfulWeight_eq]
  refine mul_nonneg ?_ (by exact_mod_cast h.successful)
  cases hweight : i.modelWeight with
  | none => exact le_rfl
  | some weight => exact h.modelWeight weight hweight

end Item

namespace RunMetrics

variable {figures : RunMetrics Rat} {items : List (Item Rat)} {lines : List (Reconciliation Rat)}
  {rate : Rat}

/-- There is a cost per gram unless nothing that weighs something was printed. -/
theorem IsExact.costPerGram_eq_none_iff (h : figures.IsExact items lines)
    (hitems : ∀ i ∈ items, i.IsWeighable) :
    figures.costPerGram = none ↔ figures.successfulWeight = 0 := by
  have hweight : 0 ≤ figures.successfulWeight := by
    rw [h.successfulWeight]
    refine List.sum_nonneg fun x hx => ?_
    obtain ⟨i, hi, rfl⟩ := List.mem_map.mp hx
    exact (hitems i hi).successfulWeight_nonneg
  rw [h.costPerGram, ite_eq_right_iff]
  simp only [reduceCtorEq, imp_false, not_lt]
  exact ⟨fun hle => le_antisymm hle hweight, fun heq => heq.le⟩

/-- At a cost per gram, the successful prints of an item cost what they weigh. -/
theorem successful_mul_unitCost (hrate : figures.costPerGram = some rate) (i : Item Rat) :
    i.successful * (figures.unitCost i).getD 0 = i.successfulWeight * rate := by
  rw [Item.successfulWeight_eq]
  cases hweight : i.modelWeight with
  | none => simp [unitCost, hweight]
  | some weight =>
    have hcost : figures.unitCost i = some (weight * rate) := by
      simp [unitCost, hweight, hrate]
    rw [hcost, Option.getD_some, Option.getD_some]
    ring

/-- Then each print that has a weight has a cost. -/
theorem unitCost_eq_none_iff (hrate : figures.costPerGram = some rate) (i : Item Rat) :
    figures.unitCost i = none ↔ i.modelWeight = none := by
  cases hweight : i.modelWeight <;> simp [unitCost, hweight, hrate]

/-- The successful prints of all items cost what the materials cost. -/
theorem IsExact.sum_unitCosts (h : figures.IsExact items lines)
    (hrate : figures.costPerGram = some rate) :
    (items.map fun i => i.successful * (figures.unitCost i).getD 0).sum = figures.materialCost := by
  obtain ⟨hweight, hquotient⟩ := Option.ite_none_right_eq_some.mp (h.costPerGram.symm.trans hrate)
  calc (items.map fun i => i.successful * (figures.unitCost i).getD 0).sum
      = (items.map fun i => i.successfulWeight * rate).sum := by
        simp only [successful_mul_unitCost hrate]
    _ = (items.map Item.successfulWeight).sum * rate := List.sum_map_mul_right ..
    _ = figures.successfulWeight * rate := by rw [h.successfulWeight]
    _ = figures.materialCost := by
        rw [← Option.some.inj hquotient, mul_div_cancel₀ _ hweight.ne']

end RunMetrics

/-- If the items have no negative counts and weights, then there is a cost per gram unless nothing
that weighs something was printed.  At this cost, what the successful prints of all items cost is
what was measured on all lines, no more and no less. -/
theorem costs_distributed (items : List (Item Rat)) (lines : List (Reconciliation Rat))
    (duration : Option Rat) (hours : Rat) (hitems : ∀ i ∈ items, i.IsWeighable) :
    let figures := RunMetrics.compute items lines duration hours
    figures.materialCost = (lines.filterMap Reconciliation.totalCost).sum ∧
    (figures.costPerGram = none ↔ figures.successfulWeight = 0) ∧
    ∀ rate, figures.costPerGram = some rate →
      (∀ i, figures.unitCost i = none ↔ i.modelWeight = none) ∧
      (items.map fun i => i.successful * (figures.unitCost i).getD 0).sum =
        figures.materialCost := by
  intro figures
  have hexact : figures.IsExact items lines := RunMetrics.isExact_compute items lines duration hours
  exact ⟨hexact.materialCost, hexact.costPerGram_eq_none_iff hitems, fun rate hrate =>
    ⟨RunMetrics.unitCost_eq_none_iff hrate, hexact.sum_unitCosts hrate⟩⟩

/-- An item with these counts, and with a weight if one is known. -/
def weighedItem (quantity successful failed : Int) (weight : Option Rat) : Item Rat :=
  ⟨.nil, .nil, .nil, none, quantity, successful, failed, none, weight, none, none, ⟨0, 0⟩⟩

/-- Four prints of 25 g, one of an unknown weight, and none of 10 g: each of the four costs a
quarter of the only line that is measured. -/
theorem quarter_of_measured_line :
    let items := [weighedItem 4 4 0 (some 25), weighedItem 2 1 1 none, weighedItem 3 0 2 (some 10)]
    let lines : List (Reconciliation Rat) :=
      [⟨200, 10, some 220, some 11, some 10, 1 / 20⟩, ⟨40, 2, none, none, none, 1 / 20⟩]
    let figures := RunMetrics.compute items lines none 0
    (∀ i ∈ items, i.IsWeighable) ∧ figures.costPerGram = some (11 / 100) ∧
      items.map figures.unitCost = [some (11 / 4), none, some (11 / 10)] ∧
      (items.map fun i => i.successful * (figures.unitCost i).getD 0).sum = 11 := by
  intro items lines figures
  have hitems : ∀ i ∈ items, i.IsWeighable := by
    refine List.forall_mem_cons.mpr ⟨⟨?_, ?_⟩, List.forall_mem_cons.mpr ⟨⟨?_, ?_⟩,
      List.forall_mem_singleton.mpr ⟨?_, ?_⟩⟩⟩
    all_goals simp [weighedItem]
  have hrate : figures.costPerGram = some (11 / 100) := by decide +kernel
  have hcost : figures.materialCost = 11 := by decide +kernel
  obtain ⟨-, -, hsum⟩ := costs_distributed items lines none 0 hitems
  exact ⟨hitems, hrate, by decide +kernel, (hsum _ hrate).2.trans hcost⟩

/-- A column of exact numbers holds what is written on it. -/
theorem storedOption_eq (x : Option Rat) : storedOption x = x := by
  cases x <;> rfl

/-- The costs that the end of a run writes on its items add up to the material cost. -/
theorem sum_written_costs {now : Timestamp} {t : Tables Rat} {r : Run Rat} {ending : RunEnding Rat}
    {rows : List (Deduction Rat)} {rate : Rat} (hcompleted : ending.status = .completed)
    (hrate : (completionMetrics t r ending.durationHours).costPerGram = some rate) :
    (((t.closed now r ending rows).itemsOf r.id).map
        fun i => (i.successful : Rat) * i.actualUnitCost.getD 0).sum =
      (completionMetrics t r ending.durationHours).materialCost := by
  have hexact : (completionMetrics t r ending.durationHours).IsExact (t.itemsOf r.id)
      ((t.linesOf r.id).map fun l => reconcile l.material l.spoolCostPerGram) :=
    RunMetrics.isExact_compute ..
  rw [itemsOf_closed hcompleted, List.map_map, ← hexact.sum_unitCosts hrate]
  refine congrArg List.sum (List.map_congr_left fun i _ => ?_)
  show (i.successful : Rat) * (storedOption _).getD 0 = _
  rw [storedOption_eq]

/-- Whatever operations were performed, a run that is completed is shown with a cost per gram unless
nothing that weighs something was printed.  The costs that are written on its items then add up to
the material cost that it is shown with. -/
theorem written_costs_distributed (start : Sequences) (events : List (Event Rat)) :
    let db := (Database.fresh start).afterAll events
    ∀ (e : Event Rat) (run : Uuid), e.operation = .completeRun run → (e.run db).1.isOk = true →
      let t := (e.after db).tables
      ∃ r ∈ t.runs, r.id = run ∧
        ((shownMetrics t r).costPerGram = none ↔ (shownMetrics t r).successfulWeight = 0) ∧
        ∀ rate, (shownMetrics t r).costPerGram = some rate →
          ((t.itemsOf run).map fun i => (i.successful : Rat) * i.actualUnitCost.getD 0).sum =
            (shownMetrics t r).materialCost := by
  intro db e run hop hok t
  obtain ⟨hsound, hvalued, -⟩ := staged_afterAll start events
  rcases e.step_or_refused hsound with ⟨_, -, hstep⟩ | ⟨_, hrefused, -⟩
  · obtain ⟨r, ending, _, _, rows, rfl, hr, -, hcloses, -, htables⟩ :=
      hstep.closes (by rw [hop]; rfl)
    have hcompleted : ending.status = .completed := by
      rw [hop] at hcloses
      cases hcloses
      rfl
    obtain ⟨-, -, hduration⟩ := hcloses.of_completed hcompleted
    have ht' := (e.sound_after hsound).consistent
    rw [htables] at ht'
    have hmetrics := completionMetrics_closed hsound.consistent ht' hvalued hcompleted hduration
    have hclosed : t = db.tables.closed e.now r ending rows := htables
    refine ⟨endedRun e.now ending r, ?_, rfl, ?_, fun rate hrate => ?_⟩
    · rw [hclosed]
      exact mem_changeRows.mpr ⟨r, hr, by simp⟩
    · have hexact : (shownMetrics t (endedRun e.now ending r)).IsExact (t.itemsOf r.id) _ :=
        RunMetrics.isExact_compute ..
      refine hexact.costPerGram_eq_none_iff fun i hi => ?_
      rw [hclosed] at hi
      exact Item.isWeighable_of_accepts (ht'.outcomes i (List.mem_of_mem_filter hi))
    · rw [hclosed] at hrate ⊢
      rw [hmetrics] at hrate ⊢
      exact sum_written_costs hcompleted hrate
  · rw [hrefused] at hok
    exact nomatch hok

/-! ## Variances -/

theorem variance_eq (estimated actual : Rat) : variance estimated actual =
    if estimated = 0 then none else some ((actual - estimated) / estimated * 100) :=
  if_congr decide_eq_true_iff rfl rfl

/-- What is not there adds nothing. -/
theorem sum_filterMap_eq {ρ : Type} (f : ρ → Option Rat) (rows : List ρ) :
    (rows.filterMap f).sum = (rows.map fun r => (f r).getD 0).sum := by
  induction rows with
  | nil => rfl
  | cons r rows ih => cases h : f r <;> simp [h, ih]

namespace Reconciliation

/-- The use of the line is recorded. -/
def isMeasured (l : Reconciliation Rat) : Bool :=
  l.actualTotal.isSome

/-- The line is planned to use something. -/
def isEstimated (l : Reconciliation Rat) : Bool :=
  !decide (l.estimatedTotal = 0)

/-- How much the line costs beyond its estimate.  A line that is not measured costs nothing. -/
def excess (l : Reconciliation Rat) : Rat :=
  l.totalCost.getD 0 - l.estimatedCost

/-- The figures of the line come from a material at a price. -/
def IsReconciled (l : Reconciliation Rat) : Prop :=
  ∃ m price, l = reconcile m price

variable {l : Reconciliation Rat}

/-- A measured line with an estimate is off it by the share that its variance tells. -/
theorem IsReconciled.excess_of_estimated (h : l.IsReconciled) (hmeasured : l.isMeasured = true)
    (hestimated : l.isEstimated = true) :
    l.excess = l.estimatedCost * l.variance.getD 0 / 100 := by
  obtain ⟨m, price, rfl⟩ := h
  obtain ⟨actual, hactual⟩ : ∃ actual, m.actualTotal = some actual :=
    Option.isSome_iff_exists.mp hmeasured
  have hne : (reconcile m price).estimatedTotal ≠ 0 := by simpa [isEstimated] using hestimated
  change m.estimatedTotal ≠ 0 at hne
  have hvariance : (reconcile m price).variance =
      some ((actual - m.estimatedTotal) / m.estimatedTotal * 100) := by
    simp [reconcile, hactual, variance_eq, hne]
  have hcost : (reconcile m price).totalCost = some (actual * price) := by
    simp [reconcile, hactual]
  rw [excess, hvariance, hcost]
  show actual * price - m.estimatedTotal * price = m.estimatedTotal * price * _ / 100
  rw [Option.getD_some]
  field_simp

/-- Without an estimate, all that a line costs is beyond it. -/
theorem IsReconciled.excess_of_unestimated (h : l.IsReconciled)
    (hestimated : l.isEstimated = false) : l.excess = l.totalCost.getD 0 := by
  obtain ⟨m, price, rfl⟩ := h
  have hzero : (reconcile m price).estimatedTotal = 0 := by simpa [isEstimated] using hestimated
  change m.estimatedTotal = 0 at hzero
  have hcost : (reconcile m price).estimatedCost = 0 := by
    show m.estimatedTotal * price = 0
    rw [hzero, zero_mul]
  rw [excess, hcost, sub_zero]

/-- Of a line that is not measured, all that was estimated is missing. -/
theorem IsReconciled.excess_of_unmeasured (h : l.IsReconciled)
    (hmeasured : l.isMeasured = false) : l.excess = -l.estimatedCost := by
  obtain ⟨m, price, rfl⟩ := h
  have hactual : m.actualTotal = none := by simpa [isMeasured, reconcile] using hmeasured
  have hcost : (reconcile m price).totalCost = none := by simp [reconcile, hactual]
  rw [excess, hcost, Option.getD_none, zero_sub]

end Reconciliation

/-- A line has no variance if it is not measured or has no estimate, and else it has one. -/
theorem variance_reconcile_eq_none_iff (m : Material Rat) (price : Rat) :
    (reconcile m price).variance = none ↔ m.actualTotal = none ∨ m.estimatedTotal = 0 := by
  cases hactual : m.actualTotal with
  | none => simp [reconcile, hactual]
  | some actual => simp [reconcile, hactual, variance_eq]

/-- The cost variance of a run is what its lines cost beyond their estimates. -/
theorem RunMetrics.IsExact.costVariance_eq_sum {figures : RunMetrics Rat} {items : List (Item Rat)}
    {lines : List (Reconciliation Rat)} (h : figures.IsExact items lines) :
    figures.costVariance = (lines.map Reconciliation.excess).sum := by
  rw [h.costVariance, h.materialCost, h.estimatedCost, sum_filterMap_eq]
  exact (Multiset.sum_map_sub (m := (lines : Multiset (Reconciliation Rat)))).symm

/-- The lines of each kind are off their estimates in a way of their own. -/
theorem sum_excess {lines : List (Reconciliation Rat)} (h : ∀ l ∈ lines, l.IsReconciled) :
    (lines.map Reconciliation.excess).sum =
      ((lines.filter fun l => l.isMeasured && l.isEstimated).map
        fun l => l.estimatedCost * l.variance.getD 0 / 100).sum +
      ((lines.filter fun l => l.isMeasured && !l.isEstimated).map
        fun l => l.totalCost.getD 0).sum -
      ((lines.filter fun l => !l.isMeasured).map Reconciliation.estimatedCost).sum := by
  induction lines with
  | nil => simp
  | cons l lines ih =>
    obtain ⟨hl, hrest⟩ := List.forall_mem_cons.mp h
    rw [List.map_cons, List.sum_cons, ih hrest]
    cases hmeasured : l.isMeasured with
    | false =>
      rw [hl.excess_of_unmeasured hmeasured, List.filter_cons_of_neg (by simp [hmeasured]),
        List.filter_cons_of_neg (by simp [hmeasured]),
        List.filter_cons_of_pos (by simp [hmeasured]), List.map_cons, List.sum_cons]
      ring
    | true =>
      cases hestimated : l.isEstimated with
      | false =>
        rw [hl.excess_of_unestimated hestimated, List.filter_cons_of_neg (by simp [hestimated]),
          List.filter_cons_of_pos (by simp [hmeasured, hestimated]),
          List.filter_cons_of_neg (by simp [hmeasured]), List.map_cons, List.sum_cons]
        ring
      | true =>
        rw [hl.excess_of_estimated hmeasured hestimated,
          List.filter_cons_of_pos (by simp [hmeasured, hestimated]),
          List.filter_cons_of_neg (by simp [hestimated]),
          List.filter_cons_of_neg (by simp [hmeasured]), List.map_cons, List.sum_cons]
        ring

/-- Whatever lines are reconciled at whatever prices, the cost variance of the run is made up of the
variances of the measured lines that have an estimate, of all that the other measured lines cost,
and of all that was estimated for lines that are not measured.  Costs are weights at the price of the
line.  A line has a variance unless it is not measured or has no estimate. -/
theorem variances_explain (rows : List (Material Rat × Rat)) (items : List (Item Rat))
    (duration : Option Rat) (hours : Rat) :
    let lines := rows.map fun row => reconcile row.1 row.2
    (RunMetrics.compute items lines duration hours).costVariance =
      ((lines.filter fun l => l.isMeasured && l.isEstimated).map
        fun l => l.estimatedCost * l.variance.getD 0 / 100).sum +
      ((lines.filter fun l => l.isMeasured && !l.isEstimated).map
        fun l => l.totalCost.getD 0).sum -
      ((lines.filter fun l => !l.isMeasured).map Reconciliation.estimatedCost).sum ∧
    ∀ (m : Material Rat) (price : Rat),
      (reconcile m price).estimatedCost = m.estimatedTotal * price ∧
      (reconcile m price).totalCost = m.actualTotal.map (· * price) ∧
      ((reconcile m price).variance = none ↔ m.actualTotal = none ∨ m.estimatedTotal = 0) ∧
      ((reconcile m price).totalCost = none ↔ m.actualTotal = none) := by
  intro lines
  have hlines : ∀ l ∈ lines, l.IsReconciled := by
    intro l hl
    obtain ⟨row, -, rfl⟩ := List.mem_map.mp hl
    exact ⟨row.1, row.2, rfl⟩
  refine ⟨?_, fun m price =>
    ⟨rfl, rfl, variance_reconcile_eq_none_iff m price, Option.map_eq_none_iff⟩⟩
  rw [(RunMetrics.isExact_compute items lines duration hours).costVariance_eq_sum,
    sum_excess hlines]

end PrintFarm
