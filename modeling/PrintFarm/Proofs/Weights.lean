import PrintFarm.Proofs.Journal
import PrintFarm.Proofs.Lifecycles

/-!
# Weights that are finite

Every weight that is asked for is checked to be finite.  What is stored may be a sum of such weights,
and a sum may be too large for a number.

* `Material.Weighed` says how the weights of a line come about, and `Tables.Weighed` adds what is
  known of spools and of the journal.  `Step.weighed` is the step lemma.
* `Tables.WeightsFinite` says that all weights are finite.  `weights_finite_iff` says when they are:
  unless an estimate or the waste of a run has overflowed.
* A completed run has not deducted a line above zero only if its weight has overflowed
  (`perm_deducted`).
-/

namespace PrintFarm

open Store Workflow
open Scalar (IsAmount)

/-! ## Numbers -/

/-- What the rules about finite weights need of the numbers that are computed with. -/
class WeightScalar (α : Type) [Scalar α] : Prop extends StockScalar α where
  isFinite_zero : Scalar.isFinite (Scalar.zero : α) = true
  isFinite_of_not_lt (x y : α) : Scalar.isFinite x = true → IsAmount y →
    Scalar.lt x y = false → Scalar.isFinite y = true

instance : WeightScalar Rat where
  isFinite_zero := rfl
  isFinite_of_not_lt _ _ _ _ _ := rfl

instance : WeightScalar Float where
  isFinite_zero := by
    rw [Word.isFinite_eq, Word.value_zero]
    rfl
  isFinite_of_not_lt x y hx hy h := by
    rw [Word.isAmount_iff] at hy
    rw [Word.isFinite_eq] at hx ⊢
    rw [Word.lt_eq] at h
    cases hvalue : Word.value y with
    | notANumber =>
      rw [hvalue] at hy
      exact hy.elim
    | zero => rfl
    | finite => rfl
    | infinity s =>
      rw [hvalue] at hy h
      cases s with
      | negative => exact hy.elim
      | positive =>
        -- infinity is above every finite number
        cases hleft : Word.value x with
        | notANumber =>
          rw [hleft] at hx
          exact nomatch hx
        | infinity =>
          rw [hleft] at hx
          exact nomatch hx
        | zero =>
          rw [hleft] at h
          exact nomatch h
        | finite =>
          rw [hleft] at h
          exact nomatch h

variable {α : Type} [Scalar α]

/-- A finite number is stored. -/
theorem storedOption_of_isFinite [StockScalar α] {x : Option α}
    (h : ∀ y ∈ x, Scalar.isFinite y = true) : storedOption x = x := by
  cases x with
  | none => rfl
  | some y =>
    exact Scalar.stored?_eq_some.mpr ⟨StockScalar.isNaN_of_isFinite y (h y rfl), rfl⟩

/-- A measurement finds a finite weight. -/
theorem Measurement.isFinite_of_reading [WeightScalar α] {measurement : Measurement α}
    {reading : Reading α} (h : measurement.reading = .ok reading) :
    Scalar.isFinite reading.actual = true := by
  cases measurement with
  | manual grams =>
    obtain ⟨hgrams, rfl⟩ := reading_manual.mp h
    exact (Scalar.isNonNegative_iff.mp hgrams).1
  | weighing before after =>
    obtain ⟨⟨hbefore, hafter⟩, horder, rfl⟩ := reading_weighing.mp h
    have hleft := StockScalar.isFinite_sub before after (Scalar.isNonNegative_iff.mp hbefore).1
      (isAmount_of_isNonNegative hbefore) (isAmount_of_isNonNegative hafter) horder
    show Scalar.isFinite (Scalar.positivePart (before - after)) = true
    unfold Scalar.positivePart
    split
    · exact hleft.1
    · exact WeightScalar.isFinite_zero

/-! ## Rows -/

/-- The parts of an estimate added up. -/
def Material.estimatedSum (m : Material α) : α :=
  m.estimatedModel + m.estimatedFlushed.getD Scalar.zero + m.estimatedTower.getD Scalar.zero

/-- The estimate of a line is the sum of finite parts, and its actual weight is finite or the
estimate. -/
structure Material.Weighed (m : Material α) : Prop where
  model : Scalar.isFinite m.estimatedModel = true
  flushed : ∀ g ∈ m.estimatedFlushed, Scalar.isFinite g = true
  tower : ∀ g ∈ m.estimatedTower, Scalar.isFinite g = true
  total : m.estimatedTotal = m.estimatedSum
  actual : ∀ g ∈ m.actualTotal, Scalar.isFinite g = true ∨ g = m.estimatedTotal

/-- All three weights of a journal row are finite. -/
structure Deduction.Weighed (d : Deduction α) : Prop where
  grams : Scalar.isFinite d.grams = true
  before : Scalar.isFinite d.weightBefore = true
  after : Scalar.isFinite d.weightAfter = true

/-- Lines and journal rows have their weights. -/
structure Tables.Weighed (t : Tables α) : Prop where
  materials : ∀ m ∈ t.materials, m.Weighed
  deductions : ∀ d ∈ t.deductions, d.Weighed

/-- A new line is estimated from finite parts. -/
theorem NewMaterial.Valid.weighed [StockScalar α] {new : NewMaterial α} (h : new.Valid)
    (now : Timestamp) (run id : Uuid) :
    (materialRow now run id new new.estimatedModel new.estimatedTotal).Weighed := by
  have hflushed : ∀ g ∈ new.estimatedFlushed, Scalar.isFinite g = true := fun g hg =>
    (Scalar.isNonNegative_iff.mp (h.flushed g hg)).1
  have htower : ∀ g ∈ new.estimatedTower, Scalar.isFinite g = true := fun g hg =>
    (Scalar.isNonNegative_iff.mp (h.tower g hg)).1
  unfold materialRow
  rw [storedOption_of_isFinite hflushed, storedOption_of_isFinite htower]
  exact ⟨(Scalar.isNonNegative_iff.mp h.model).1, hflushed, htower, rfl, by simp⟩

/-- A line that records a finite weight or its own estimate keeps its weights in order. -/
theorem Material.Weighed.record {m : Material α} (h : m.Weighed) {reading : Reading α}
    (hactual : Scalar.isFinite reading.actual = true ∨ reading.actual = m.estimatedTotal)
    (now : Timestamp) : (touchedMaterial now (m.record reading)).Weighed := by
  refine ⟨h.model, h.flushed, h.tower, h.total, fun g hg => ?_⟩
  obtain ⟨-, rfl⟩ := Scalar.stored?_eq_some.mp hg
  exact hactual

theorem Material.Weighed.fixed {m : Material α} (h : m.Weighed) (now : Timestamp)
    (spools : List (Spool α)) : (fixedLine now spools m).Weighed := by
  unfold fixedLine
  split
  · exact ⟨h.model, h.flushed, h.tower, h.total, h.actual⟩
  · exact h

/-- What is deducted is not above what is on the spool, so it is finite. -/
theorem Ledger.Deducted.weighed [WeightScalar α] {t : Tables α} (ht : t.Consistent)
    (hv : t.Valued) {now : Timestamp} {run : Uuid} {target : RunStatus} {reason : DeductionReason}
    {u : SpoolUsage α} {d : Deduction α} (h : Deducted now run target reason t.spools u d) :
    d.Weighed := by
  obtain ⟨s, hs, -, hweight⟩ := h.stock
  have hbefore : Scalar.isFinite d.weightBefore = true := hweight ▸ hv.stocks s hs
  have hgrams := LawfulScalar.isAmount_of_positive _ h.positive
  exact ⟨WeightScalar.isFinite_of_not_lt _ _ hbefore hgrams h.enough, hbefore, h.isFinite ht hv⟩

/-! ## Steps -/

namespace Tables.Weighed

variable {t : Tables α}

theorem empty : ({} : Tables α).Weighed := by
  constructor <;> simp

theorem changeMaterials (h : t.Weighed) {selected : Material α → Bool}
    {change : Material α → Material α}
    (hchange : ∀ m ∈ t.materials, selected m = true → (change m).Weighed) :
    Tables.Weighed { t with materials := changeRows selected change t.materials } :=
  { h with materials := forall_changeRows h.materials hchange }

theorem addMaterials (h : t.Weighed) {materials : List (Material α)}
    (hnew : ∀ m ∈ materials, m.Weighed) :
    Tables.Weighed { t with materials := t.materials ++ materials } :=
  { h with materials := List.forall_mem_append.mpr ⟨h.materials, hnew⟩ }

theorem filterMaterials (h : t.Weighed) (p : Material α → Bool) :
    Tables.Weighed { t with materials := t.materials.filter p } :=
  { h with materials := fun m hm => h.materials m (List.mem_of_mem_filter hm) }

theorem touched (h : t.Weighed) (now : Timestamp) (run : Uuid) : (t.touched now run).Weighed :=
  { h with }

end Tables.Weighed

/-- An accepted operation leaves weights in order. -/
theorem Step.weighed [WeightScalar α] {catalog : Catalog} {now : Timestamp} {t t' : Tables α}
    {op : Operation α} (ht : t.Consistent) (hv : t.Valued) (hw : t.Weighed)
    (h : Step catalog now t op t') : t'.Weighed := by
  cases h with
  | read => exact hw
  | createSpool | updateRun => exact { hw with }
  | createRun hvalid _ _ _ _ _ _ _ hmaterials =>
    refine { hw.addMaterials fun m hm => ?_ with }
    obtain ⟨new, hnew, hrow, -⟩ := exists_of_forall₂ hmaterials hm
    rw [hrow]
    exact ((RunRequest.complaints_eq_nil.mp hvalid).1.materials new hnew).weighed ..
  | close hr _ _ _ hrows =>
    refine ⟨forall_changeRows hw.materials fun m hm _ => (hw.materials m hm).fixed .., ?_⟩
    refine List.forall_mem_append.mpr ⟨hw.deductions, fun d hd => ?_⟩
    obtain ⟨u, -, hd⟩ := exists_of_forall₂ hrows hd
    exact hd.weighed ht hv
  | addMaterial hvalid _ hrow =>
    refine (hw.addMaterials fun l hl => ?_).touched ..
    obtain rfl := List.mem_singleton.mp hl
    rw [hrow]
    exact (NewMaterial.complaints_eq_nil.mp hvalid).weighed ..
  | recordActual _ hreading =>
    refine (hw.changeMaterials fun m hm _ => ?_).touched ..
    exact (hw.materials m hm).record (Or.inl (Measurement.isFinite_of_reading hreading)) now
  | resetActuals =>
    refine (hw.changeMaterials fun m hm _ => ?_).touched ..
    exact (hw.materials m hm).record (Or.inr rfl) now
  | removeMaterial => exact (hw.filterMaterials _).touched ..
  | updateOutcome | createPlate | updatePlate | deletePlate | movePlate => exact { hw with }

theorem weighed_afterAll [WeightScalar α] (start : Sequences) (events : List (Event α)) :
    ((Database.fresh start).afterAll events).tables.Weighed := by
  suffices h : ((Database.fresh start).afterAll events).Sound ∧
      ((Database.fresh start).afterAll events).tables.Valued ∧
      ((Database.fresh start).afterAll events).tables.Weighed from h.2.2
  refine Database.afterAll_induction
    (motive := fun db : Database α => db.Sound ∧ db.tables.Valued ∧ db.tables.Weighed)
    ⟨.fresh start, .empty, .empty⟩ (fun e db h => ?_) events
  obtain ⟨hsound, hvalued, hweighed⟩ := h
  refine ⟨e.sound_after hsound, e.valued_after hsound hvalued, ?_⟩
  rcases e.step_or_refused hsound with ⟨_, -, hstep⟩ | ⟨_, -, hsame⟩
  · exact hstep.weighed hsound.consistent hvalued hweighed
  · rw [hsame]
    exact hweighed

/-! ## Completed runs -/

/-- A completed run has deducted the lines with a finite weight above zero and no other. -/
theorem perm_deducted [LawfulScalar α] (start : Sequences) (events : List (Event α)) :
    let t := ((Database.fresh start).afterAll events).tables
    ∀ r ∈ t.runs, r.status = .completed →
      ((t.deductionsOf r.id).map fun d => (d.spool, d.grams)).Perm
        ((t.materialsOf r.id).filterMap Material.deducted?) := by
  intro t r hr hcompleted
  refine ended_induction (fun _ => True)
    (motive := fun _ (t : Tables α) r => r.status = .completed →
      ((t.deductionsOf r.id).map fun d => (d.spool, d.grams)).Perm
        ((t.materialsOf r.id).filterMap Material.deducted?))
    start trivial (fun _ _ _ _ => trivial) ?_ ?_ events r hr (by rw [hcompleted]; rfl) hcompleted
  · intro _ e db r ending reason usage rows hdb _ _ hends hcompleted
    obtain ⟨hr, hprogress, hcloses, hrows, htables⟩ := hends
    obtain ⟨-, rfl, -⟩ := hcloses.of_completed hcompleted
    have hself : (endedRun e.now ending r).id = r.id := rfl
    rw [htables, hself, hdb.consistent.deductionsOf_closed hr hprogress hrows]
    exact perm_completed hdb.consistent (Ledger.map_deducted hrows)
  · intro _ _ t t' r r' _ _ hkeeps h hcompleted
    rw [hkeeps.id_eq, hkeeps.deductions, hkeeps.materials]
    exact h (hkeeps.status_eq ▸ hcompleted)

/-- A line above zero of a completed run is deducted if its weight is finite, and else it is not. -/
theorem deducted_iff_isFinite {t : Tables α} (ht : t.Consistent) {run : Uuid}
    (hperm : ((t.deductionsOf run).map fun d => (d.spool, d.grams)).Perm
      ((t.materialsOf run).filterMap Material.deducted?))
    {m : Material α} (hm : m ∈ t.materialsOf run) {g : α} (hg : m.actualTotal = some g)
    (habove : Scalar.lt Scalar.zero g = true) :
    (Scalar.isFinite g = true → ∃ d ∈ t.deductionsOf run, d.spool = m.spool ∧ d.grams = g) ∧
      (Scalar.isFinite g = false → ∀ d ∈ t.deductionsOf run, d.spool ≠ m.spool) := by
  constructor
  · intro hfinite
    have hline : (m.spool, g) ∈ (t.materialsOf run).filterMap Material.deducted? := by
      refine List.mem_filterMap.mpr ⟨m, hm, Material.deducted?_eq_some.mpr ⟨g, hg, ?_, rfl⟩⟩
      simp [Scalar.isPositive, hfinite, habove]
    obtain ⟨d, hd, heq⟩ := List.mem_map.mp (hperm.mem_iff.mpr hline)
    exact ⟨d, hd, (Prod.mk.inj heq).1, (Prod.mk.inj heq).2⟩
  · intro hinfinite d hd hspool
    obtain ⟨n, hn, hpair⟩ := List.mem_filterMap.mp
      (hperm.mem_iff.mp (List.mem_map_of_mem (f := fun d => (d.spool, d.grams)) hd))
    obtain ⟨w, hw, hpositive, heq⟩ := Material.deducted?_eq_some.mp hpair
    -- no other line of the run is of that spool
    obtain rfl := eq_of_key_eq (nodup_materialsOf ht run) hn hm
      ((Prod.mk.inj heq).1.trans hspool)
    rw [hg] at hw
    obtain rfl := Option.some.inj hw
    simp [Scalar.isPositive, hinfinite] at hpositive

/-! ## All weights -/

/-- All weights are finite. -/
structure Tables.WeightsFinite (t : Tables α) : Prop where
  spools : ∀ s ∈ t.spools, Scalar.isFinite s.weight = true
  estimates : ∀ m ∈ t.materials, Scalar.isFinite m.estimatedTotal = true
  actuals : ∀ m ∈ t.materials, ∀ g ∈ m.actualTotal, Scalar.isFinite g = true
  wastes : ∀ r ∈ t.runs, ∀ g ∈ r.wasteGrams, Scalar.isFinite g = true
  deductions : ∀ d ∈ t.deductions, d.Weighed

/-- What a run has deducted, added up in the order of the journal. -/
def Tables.deductedSum (t : Tables α) (run : Uuid) : α :=
  Scalar.sum ((t.deductionsOf run).map fun d => d.grams)

/-- A run has wasted what it has deducted if it has failed, and else nothing. -/
theorem wasteGrams_eq [StockScalar α] (start : Sequences) (events : List (Event α)) :
    let t := ((Database.fresh start).afterAll events).tables
    ∀ r ∈ t.runs, (r.status = .failed → r.wasteGrams = some (t.deductedSum r.id)) ∧
      (r.status ≠ .failed → r.wasteGrams = none) := by
  intro t r hr
  obtain ⟨-, -, hstaged⟩ := staged_afterAll start events
  constructor
  · intro hfailed
    cases runs_journaled start events r hr with
    | failed _ _ _ _ hwaste => exact hwaste
    | inProgress hstatus => exact nomatch hstatus.symm.trans hfailed
    | completed hstatus => exact nomatch hstatus.symm.trans hfailed
    | reversed hstatus => exact nomatch hstatus.symm.trans hfailed
    | partly hstatus => exact nomatch hstatus.symm.trans hfailed
  · intro hother
    rw [← Option.not_isSome_iff_eq_none, (hstaged r hr).run.wasteGrams]
    exact hother

/-- All weights are finite if the estimates are and the wastes of failed runs. -/
theorem Tables.Weighed.weightsFinite_iff {t : Tables α} (hw : t.Weighed)
    (hspools : ∀ s ∈ t.spools, Scalar.isFinite s.weight = true)
    (hwaste : ∀ r ∈ t.runs, (r.status = .failed → r.wasteGrams = some (t.deductedSum r.id)) ∧
      (r.status ≠ .failed → r.wasteGrams = none)) :
    t.WeightsFinite ↔ (∀ m ∈ t.materials, Scalar.isFinite m.estimatedSum = true) ∧
      ∀ r ∈ t.runs, r.status = .failed → Scalar.isFinite (t.deductedSum r.id) = true := by
  refine ⟨fun h => ⟨fun m hm => ?_, fun r hr hfailed => ?_⟩, fun h => ?_⟩
  · rw [← (hw.materials m hm).total]
    exact h.estimates m hm
  · exact h.wastes r hr _ ((hwaste r hr).1 hfailed)
  · obtain ⟨hestimates, hwastes⟩ := h
    have htotal : ∀ m ∈ t.materials, Scalar.isFinite m.estimatedTotal = true := by
      intro m hm
      rw [(hw.materials m hm).total]
      exact hestimates m hm
    refine ⟨hspools, htotal, fun m hm g hg => ?_, fun r hr g hg => ?_, hw.deductions⟩
    · rcases (hw.materials m hm).actual g hg with hfinite | rfl
      · exact hfinite
      · exact htotal m hm
    · by_cases hfailed : r.status = .failed
      · rw [(hwaste r hr).1 hfailed] at hg
        obtain rfl := Option.some.inj hg
        exact hwastes r hr hfailed
      · rw [(hwaste r hr).2 hfailed] at hg
        simp at hg

/-- Whatever operations are performed, the weights on the spools and in the journal are finite, an
estimate is the sum of finite parts, and an actual weight is finite or the estimate.  All weights are
finite unless the parts of an estimate or the waste of a failed run add up to more than a number can
hold.  A completed run has deducted every line above zero whose weight is finite, and none whose
weight is not. -/
theorem weights_finite_iff (start : Sequences) (events : List (Event Float)) :
    let t := ((Database.fresh start).afterAll events).tables
    (t.WeightsFinite ↔ (∀ m ∈ t.materials, Scalar.isFinite m.estimatedSum = true) ∧
      ∀ r ∈ t.runs, r.status = .failed → Scalar.isFinite (t.deductedSum r.id) = true) ∧
    (∀ s ∈ t.spools, Scalar.isFinite s.weight = true) ∧
    t.Weighed ∧
    ∀ r ∈ t.runs,
      (r.status = .failed → r.wasteGrams = some (t.deductedSum r.id)) ∧
      (r.status ≠ .failed → r.wasteGrams = none) ∧
      (r.status = .completed → ∀ m ∈ t.materialsOf r.id, ∀ g ∈ m.actualTotal,
        Scalar.lt Scalar.zero g = true →
        (Scalar.isFinite g = true → ∃ d ∈ t.deductionsOf r.id, d.spool = m.spool ∧ d.grams = g) ∧
        (Scalar.isFinite g = false → ∀ d ∈ t.deductionsOf r.id, d.spool ≠ m.spool)) := by
  intro t
  obtain ⟨hsound, hvalued, -⟩ := staged_afterAll start events
  have hweighed : t.Weighed := weighed_afterAll start events
  have hwaste := wasteGrams_eq start events
  refine ⟨hweighed.weightsFinite_iff hvalued.stocks hwaste, hvalued.stocks, hweighed, fun r hr =>
    ⟨(hwaste r hr).1, (hwaste r hr).2, fun hcompleted m hm g hg habove => ?_⟩⟩
  have hperm := perm_deducted start events r hr hcompleted
  exact deducted_iff_isFinite hsound.consistent hperm hm hg habove

/-- A line is estimated at two finite parts, records its estimate as its actual weight, and its run
is completed. -/
def overestimatedSession : List (Event Float) :=
  let item : NewItem Float := ⟨.numbered 9 1, none, 1, none, none, none⟩
  let request : RunRequest Float :=
    ⟨⟨none, 0.0, none, none, none, none, none⟩, [item],
      [⟨.numbered 1 1, 1.0e308, some 1.0e308, none⟩]⟩
  [.createSpool ⟨"PLA", "PLA", none, 1000.0, 0.02⟩, .createRun request,
    .resetActuals (.numbered 2 1), .completeRun (.numbered 2 1)].map
    (Event.mk .builtin ⟨1767225600, 0⟩)

/-- The estimate overflows, and the run is completed although its line was not deducted. -/
theorem overestimate_not_deducted :
    let t := ((Database.fresh {}).afterAll overestimatedSession).tables
    ¬t.WeightsFinite ∧ ∃ r ∈ t.runs, r.status = .completed ∧ t.deductions.isEmpty = true ∧
      ∃ m ∈ t.materials, m.run = r.id ∧
        m.actualTotal.any (fun g => Scalar.lt Scalar.zero g) = true := by
  intro t
  have hoverflow : ∃ m ∈ t.materials, Scalar.isFinite m.estimatedTotal = false := by
    decide +kernel
  refine ⟨fun h => ?_, by decide +kernel⟩
  obtain ⟨m, hm, hinfinite⟩ := hoverflow
  rw [h.estimates m hm] at hinfinite
  exact nomatch hinfinite

end PrintFarm
