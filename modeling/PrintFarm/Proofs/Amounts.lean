import PrintFarm.Proofs.Requests
import PrintFarm.Proofs.Steps

/-!
# Amounts in the tables

`Tables.Valued` says which amounts the tables hold: weights that are finite, prices and estimates
that are numbers, hours and figures that are not below zero.  Every accepted operation keeps it
(`Step.valued`).
-/

namespace PrintFarm

open Store
open Scalar (IsAmount)

variable {α : Type} [Scalar α]

/-- Tables whose amounts are in order. -/
structure Tables.Valued (t : Tables α) : Prop where
  stocks : ∀ s ∈ t.spools, Scalar.isFinite s.weight = true
  prices : ∀ s ∈ t.spools, Scalar.isNaN s.costPerGram = false
  hours : ∀ r ∈ t.runs, acceptsRun r = true
  estimates : ∀ m ∈ t.materials, IsAmount m.estimatedTotal
  figures : ∀ m ∈ t.materials, acceptsMaterial m = true

namespace Tables.Valued

variable {t : Tables α}

theorem empty : ({} : Tables α).Valued := by
  constructor <;> simp

theorem touched (h : t.Valued) (now : Timestamp) (run : Uuid) : (t.touched now run).Valued :=
  { h with hours := forall_changeRows h.hours fun r hr _ => h.hours r hr }

theorem changeRuns (h : t.Valued) {selected : Run α → Bool} {change : Run α → Run α}
    (hhours : ∀ r ∈ t.runs, selected r = true → acceptsRun (change r) = true) :
    Tables.Valued { t with runs := changeRows selected change t.runs } :=
  { h with hours := forall_changeRows h.hours hhours }

theorem changeMaterials (h : t.Valued) {selected : Material α → Bool}
    {change : Material α → Material α}
    (hestimate : ∀ m, (change m).estimatedTotal = m.estimatedTotal)
    (hfigures : ∀ m ∈ t.materials, selected m = true → acceptsMaterial (change m) = true) :
    Tables.Valued { t with materials := changeRows selected change t.materials } :=
  { h with
    estimates := forall_changeRows h.estimates fun m hm _ => by
      rw [hestimate]
      exact h.estimates m hm
    figures := forall_changeRows h.figures hfigures }

theorem addMaterials (h : t.Valued) {materials : List (Material α)}
    (hestimates : ∀ m ∈ materials, IsAmount m.estimatedTotal)
    (hfigures : ∀ m ∈ materials, acceptsMaterial m = true) :
    Tables.Valued { t with materials := t.materials ++ materials } :=
  { h with
    estimates := List.forall_mem_append.mpr ⟨h.estimates, hestimates⟩
    figures := List.forall_mem_append.mpr ⟨h.figures, hfigures⟩ }

theorem filterMaterials (h : t.Valued) (p : Material α → Bool) :
    Tables.Valued { t with materials := t.materials.filter p } :=
  { h with
    estimates := fun m hm => h.estimates m (List.mem_of_mem_filter hm)
    figures := fun m hm => h.figures m (List.mem_of_mem_filter hm) }

/-- Items and plates hold no amounts that others are computed from. -/
theorem others (h : t.Valued) (items : List (Item α)) (plates : List (Plate α)) :
    Tables.Valued { t with items, plates } :=
  { h with }

end Tables.Valued

/-- What is on a spool is an amount. -/
theorem Tables.Consistent.isAmount_weight {t : Tables α} (ht : t.Consistent) {s : Spool α}
    (hs : s ∈ t.spools) : IsAmount s.weight := by
  obtain ⟨hnumber, hbelow⟩ := ht.weights s hs
  exact ⟨hnumber, by simpa [isNotNegative] using hbelow⟩

/-- A deduction leaves a finite weight. -/
theorem Ledger.Deducted.isFinite [StockScalar α] {t : Tables α} (ht : t.Consistent)
    (hv : t.Valued) {now : Timestamp} {run : Uuid} {target : RunStatus} {reason : DeductionReason}
    {u : SpoolUsage α} {d : Deduction α} (h : Deducted now run target reason t.spools u d) :
    Scalar.isFinite d.weightAfter = true := by
  obtain ⟨s, hs, -, hweight⟩ := h.stock
  have hfinite : Scalar.isFinite d.weightBefore = true := hweight ▸ hv.stocks s hs
  have hamount : IsAmount d.weightBefore := hweight ▸ ht.isAmount_weight hs
  have hgrams := LawfulScalar.isAmount_of_positive _ h.positive
  rw [h.left]
  exact (StockScalar.isFinite_sub _ _ hfinite hamount hgrams h.enough).1

omit [Scalar α] in
theorem Ledger.reweighed_costPerGram {now : Timestamp} (rows : List (Deduction α)) (s : Spool α) :
    (reweighed now rows s).costPerGram = s.costPerGram := by
  unfold reweighed
  split <;> rfl

/-- The figures that are fixed at the end of a run replace no estimate and no actual weight. -/
theorem fixedLine_kept (now : Timestamp) (spools : List (Spool α)) (m : Material α) :
    (fixedLine now spools m).estimatedTotal = m.estimatedTotal ∧
      acceptsMaterial (fixedLine now spools m) = acceptsMaterial m := by
  unfold fixedLine
  split <;> exact ⟨rfl, rfl⟩

/-- The end of a run leaves amounts in order. -/
theorem Tables.Valued.closed [StockScalar α] {t : Tables α} (ht : t.Consistent) (hv : t.Valued)
    {now : Timestamp} {r : Run α} {ending : RunEnding α} {reason : DeductionReason}
    {usage : UsageTable α} {rows : List (Deduction α)} (hr : r ∈ t.runs)
    (haccepts : acceptsRun (endedRun now ending r) = true)
    (hrows : List.Forall₂ (Ledger.Deducted now r.id ending.status reason t.spools) usage rows) :
    (t.closed now r ending rows).Valued := by
  have hruns : Tables.Valued { t with
      runs := changeRows (fun s => s.id = r.id) (endedRun now ending) t.runs } := by
    refine hv.changeRuns fun s hs hsel => ?_
    obtain rfl := eq_of_key_eq ht.runIds hs hr (of_decide_eq_true hsel)
    exact haccepts
  have hlines : Tables.Valued { t with
      materials := changeRows (fun m => m.run = r.id) (fixedLine now t.spools) t.materials } := by
    refine hv.changeMaterials (fun m => (fixedLine_kept now t.spools m).1) fun m hm _ => ?_
    rw [(fixedLine_kept now t.spools m).2]
    exact hv.figures m hm
  refine ⟨fun s hs => ?_, fun s hs => ?_, hruns.hours, hlines.estimates, hlines.figures⟩
  · obtain ⟨q, hq, rfl⟩ := List.mem_map.mp hs
    unfold Ledger.reweighed
    split
    · rename_i d hfind
      obtain ⟨u, -, hd⟩ := exists_of_forall₂ hrows (List.mem_of_find?_eq_some hfind)
      exact hd.isFinite ht hv
    · exact hv.stocks q hq
  · obtain ⟨q, hq, rfl⟩ := List.mem_map.mp hs
    rw [Ledger.reweighed_costPerGram]
    exact hv.prices q hq

/-- An accepted operation leaves amounts in order. -/
theorem Step.valued [StockScalar α] {catalog : Catalog} {now : Timestamp} {t t' : Tables α}
    {op : Operation α} (ht : t.Consistent) (hv : t.Valued) (h : Step catalog now t op t') :
    t'.Valued := by
  cases h with
  | read => exact hv
  | createSpool hvalid _ _ hprice =>
    have hfinite := (Scalar.isNonNegative_iff.mp (NewSpool.valid hvalid).1).1
    exact { hv with
      stocks := List.forall_mem_append.mpr ⟨hv.stocks, by simpa [spoolRow] using hfinite⟩
      prices := List.forall_mem_append.mpr ⟨hv.prices, by simpa [spoolRow] using hprice.1⟩ }
  | @createRun request _ _ r items materials hvalid _ haccepts _ _ _ _ _ hmaterials =>
    have hlines : Tables.Valued { t with materials := t.materials ++ materials } := by
      refine hv.addMaterials (fun m hm => ?_) fun m hm => ?_
      · obtain ⟨new, hnew, hrow, -⟩ := exists_of_forall₂ hmaterials hm
        rw [hrow]
        have hlines := (RunRequest.complaints_eq_nil.mp hvalid).1.materials
        exact (hlines new hnew).isAmount_estimatedTotal
      · obtain ⟨_, -, -, hfigures⟩ := exists_of_forall₂ hmaterials hm
        exact hfigures
    exact { hlines with
      hours := List.forall_mem_append.mpr ⟨hv.hours, by simpa using haccepts⟩ }
  | @updateRun _ patch r _ hr hrun _ haccepts =>
    refine hv.changeRuns fun s hs hsel => ?_
    obtain rfl := eq_of_key_eq ht.runIds hs hr ((of_decide_eq_true hsel).trans hrun.symm)
    exact haccepts
  | close hr _ _ haccepts hrows => exact hv.closed ht hr haccepts hrows
  | addMaterial hvalid _ hrow haccepts =>
    refine (hv.addMaterials ?_ ?_).touched ..
    · intro l hl
      obtain rfl := List.mem_singleton.mp hl
      rw [hrow]
      exact (NewMaterial.complaints_eq_nil.mp hvalid).isAmount_estimatedTotal
    · intro l hl
      obtain rfl := List.mem_singleton.mp hl
      exact haccepts
  | recordActual _ _ _ hm hid _ haccepts =>
    refine (hv.changeMaterials ?_ fun n hn hsel => ?_).touched ..
    · exact fun _ => rfl
    · obtain rfl := eq_of_key_eq ht.materialIds hn hm ((of_decide_eq_true hsel).trans hid.symm)
      exact haccepts
  | resetActuals _ haccepts =>
    refine (hv.changeMaterials ?_ fun m hm hsel => ?_).touched ..
    · exact fun _ => rfl
    · exact haccepts m hm (of_decide_eq_true hsel)
  | removeMaterial =>
    exact (hv.filterMaterials _).touched ..
  | updateOutcome | createPlate | updatePlate | deletePlate | movePlate =>
    exact (hv.others _ _).touched ..

end PrintFarm
