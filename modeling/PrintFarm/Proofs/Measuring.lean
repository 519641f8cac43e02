import PrintFarm.Proofs.Lifecycles

/-!
# What was measured

Four columns of a line hold its measurement, and recording, resetting, adding a line and ending a
run write some of them each.  Whatever comes after what, they stay together.

* `Material.Measured` says which values the columns can have together.  `Step.measured` is the step
  lemma, and `measured_afterAll` carries it through a history.
* `Material.unmeasured?` says what is missing for a run to be completed, by what was entered alone.
  For a line that stands as it can, the check at the end of a run finds the same
  (`Material.Measured.problem?_eq`).
-/

namespace PrintFarm

open Store
open Scalar (IsAmount)

variable {α : Type} [Scalar α]

/-! ## One line -/

/-- The ways in which a line can stand: nothing is recorded, a weight was entered, or the spool was
weighed before and after. -/
inductive Material.Measured (m : Material α) : Prop
  | unrecorded (hactual : m.actualTotal = none) (hmode : m.entryMode = none)
    (hpair : m.weighedBefore = none ∧ m.weighedAfter = none)
  | entered {grams : α} (hactual : m.actualTotal = some grams) (hmode : m.entryMode = some .manual)
    (hamount : IsAmount grams) (hpair : m.weighedBefore = none ∧ m.weighedAfter = none)
  | weighed {before after : α}
    (hactual : m.actualTotal = some (Scalar.positivePart (before - after)))
    (hmode : m.entryMode = some .weighing) (hamounts : IsAmount before ∧ IsAmount after)
    (horder : Scalar.le after before = true)
    (hpair : m.weighedBefore = some before ∧ m.weighedAfter = some after)

/-- What keeps a line from telling what it has used: nothing is recorded, or what was entered is not
above zero. -/
def Material.unmeasured? (m : Material α) : Option MeasurementProblem :=
  match m.actualTotal with
  | none => some .notRecorded
  | some grams =>
    if m.entryMode = some .manual ∧ Scalar.lt Scalar.zero grams = false then some .notPositive
    else none

namespace Material.Measured

variable {m : Material α}

/-- Two weighings are in order, so it is never they that keep a run from being completed. -/
theorem problem?_eq (h : m.Measured) : m.problem? = m.unmeasured? := by
  unfold problem? unmeasured?
  cases h with
  | unrecorded hactual => simp [hactual]
  | @entered grams hactual hmode =>
    cases habove : Scalar.lt Scalar.zero grams <;> simp [hactual, hmode, habove]
  | weighed hactual hmode _ horder hpair => simp [hactual, hmode, hpair, horder]

/-- The end of a run does not touch what was measured. -/
theorem fixed (h : m.Measured) (now : Timestamp) (spools : List (Spool α)) :
    (fixedLine now spools m).Measured := by
  unfold fixedLine
  split
  · cases h with
    | unrecorded hactual hmode hpair => exact .unrecorded hactual hmode hpair
    | entered hactual hmode hamount hpair => exact .entered hactual hmode hamount hpair
    | weighed hactual hmode hamounts horder hpair =>
      exact .weighed hactual hmode hamounts horder hpair
  · exact h

theorem row (now : Timestamp) (run id : Uuid) (new : NewMaterial α) (model total : α) :
    (materialRow now run id new model total).Measured :=
  .unrecorded rfl rfl ⟨rfl, rfl⟩

/-- A weight that is entered replaces whatever was recorded. -/
theorem record_manual (m : Material α) (now : Timestamp) {grams : α} (hgrams : IsAmount grams) :
    (touchedMaterial now (m.record ⟨.manual, grams, none, none⟩)).Measured :=
  .entered (storedOption_some hgrams) rfl hgrams ⟨rfl, rfl⟩

variable [StockScalar α]

/-- Two weighings replace whatever was recorded. -/
theorem record_weighing (m : Material α) (now : Timestamp) {before after : α}
    (hbefore : Scalar.isNonNegative before = true) (hafter : Scalar.isNonNegative after = true)
    (horder : Scalar.lt before after = false) :
    (touchedMaterial now (m.record ⟨.weighing, Scalar.positivePart (before - after), some before,
      some after⟩)).Measured := by
  have hbefore := isAmount_of_isNonNegative hbefore
  have hafter := isAmount_of_isNonNegative hafter
  exact .weighed (storedOption_some (isAmount_positivePart _)) rfl ⟨hbefore, hafter⟩
    (LawfulScalar.le_of_not_lt _ _ hafter.isNumber hbefore.isNumber horder)
    ⟨storedOption_some hbefore, storedOption_some hafter⟩

/-- A measurement that is taken replaces whatever was recorded. -/
theorem record (m : Material α) (now : Timestamp) {measurement : Measurement α}
    {reading : Reading α} (h : measurement.reading = .ok reading) :
    (touchedMaterial now (m.record reading)).Measured := by
  cases measurement with
  | manual grams =>
    obtain ⟨hgrams, rfl⟩ := Measurement.reading_manual.mp h
    exact record_manual m now (isAmount_of_isNonNegative hgrams)
  | weighing before after =>
    obtain ⟨⟨hbefore, hafter⟩, horder, rfl⟩ := Measurement.reading_weighing.mp h
    exact record_weighing m now hbefore hafter horder

end Material.Measured

/-! ## All lines -/

/-- An accepted operation leaves every line as it can stand. -/
theorem Step.measured [StockScalar α] {catalog : Catalog} {now : Timestamp} {t t' : Tables α}
    {op : Operation α} (hv : t.Valued) (hm : ∀ m ∈ t.materials, m.Measured)
    (h : Step catalog now t op t') : ∀ m ∈ t'.materials, m.Measured := by
  cases h with
  | createRun _ _ _ _ _ _ _ _ hmaterials =>
    refine List.forall_mem_append.mpr ⟨hm, fun m hnew => ?_⟩
    obtain ⟨new, -, hrow, -⟩ := exists_of_forall₂ hmaterials hnew
    rw [hrow]
    exact .row ..
  | close => exact forall_changeRows hm fun m hmem _ => (hm m hmem).fixed ..
  | addMaterial _ _ hrow =>
    refine List.forall_mem_append.mpr ⟨hm, fun m hnew => ?_⟩
    obtain rfl := List.mem_singleton.mp hnew
    rw [hrow]
    exact .row ..
  | recordActual _ hreading =>
    exact forall_changeRows hm fun m _ _ => .record m now hreading
  | resetActuals =>
    exact forall_changeRows hm fun m hmem _ => .record_manual m now (hv.estimates m hmem)
  | removeMaterial => exact fun m hmem => hm m (List.mem_of_mem_filter hmem)
  | read | createSpool | updateRun | updateOutcome | createPlate | updatePlate | deletePlate
  | movePlate => exact hm

theorem measured_afterAll [StockScalar α] (start : Sequences) (events : List (Event α)) :
    ∀ m ∈ ((Database.fresh start).afterAll events).tables.materials, m.Measured := by
  refine (Database.afterAll_induction
    (motive := fun db : Database α => (db.Sound ∧ db.tables.Valued) ∧
      ∀ m ∈ db.tables.materials, m.Measured)
    ⟨⟨.fresh start, .empty⟩, fun m hm => absurd hm List.not_mem_nil⟩ (fun e db h => ?_) events).2
  obtain ⟨⟨hsound, hvalued⟩, hmeasured⟩ := h
  refine ⟨⟨e.sound_after hsound, e.valued_after hsound hvalued⟩, ?_⟩
  rcases e.step_or_refused hsound with ⟨_, -, hstep⟩ | ⟨_, -, hsame⟩
  · exact hstep.measured hvalued hmeasured
  · rw [hsame]
    exact hmeasured

end PrintFarm
