import PrintFarm.Proofs.Rounding
import PrintFarm.Proofs.Queries
import PrintFarm.Proofs.Usage

/-!
# Requests without complaints

What is known of the numbers and lists of a request of which nothing is wrong.

* An amount that is asked for is a number from zero up (`isAmount_of_isNonNegative`), and the column
  that takes it holds one too (`isNotNegative_storedOption`).
* What is reported of spools adds up to amounts above zero (`positive_of_mem_positiveUsage`).
* `Measurement.reading_manual` and `Measurement.reading_weighing` say when a measurement is taken,
  and what a line keeps of it.
* `NewSpool.valid`, `RunPatch.valid`, `NewMaterial.complaints_eq_nil`, `NewItem.complaints_eq_nil`
  and the like read the complaints of one record.
* `RunRequest.complaints_eq_nil` reads those of a whole run: it has an item, and no model and no
  spool comes twice.
-/

namespace PrintFarm

open Scalar (IsAmount)

variable {α : Type} [Scalar α]

/-! ## Amounts -/

theorem Scalar.isNonNegative_iff {x : α} :
    Scalar.isNonNegative x = true ↔ Scalar.isFinite x = true ∧ Scalar.lt x Scalar.zero = false := by
  simp [Scalar.isNonNegative]

/-- An amount that is asked for is a number from zero up. -/
theorem isAmount_of_isNonNegative [StockScalar α] {x : α} (h : Scalar.isNonNegative x = true) :
    IsAmount x := by
  obtain ⟨hfinite, hbelow⟩ := Scalar.isNonNegative_iff.mp h
  exact ⟨StockScalar.isNaN_of_isFinite x hfinite, hbelow⟩

/-- What is left of a difference above zero, or zero, is an amount. -/
theorem isAmount_positivePart [StockScalar α] (x : α) : IsAmount (Scalar.positivePart x) := by
  unfold Scalar.positivePart
  split
  · rename_i habove
    exact LawfulScalar.isAmount_of_positive x habove
  · exact StockScalar.isAmount_zero

/-- A column holds an amount that it is given. -/
theorem storedOption_some {x : α} (h : IsAmount x) : storedOption (some x) = some x :=
  Scalar.stored?_eq_some.mpr ⟨h.isNumber, rfl⟩

/-- A column does not hold more than it is given. -/
theorem eq_of_mem_storedOption {x : Option α} {y : α} (h : y ∈ storedOption x) : y ∈ x := by
  obtain ⟨z, hz, hy⟩ := Option.bind_eq_some_iff.mp h
  obtain ⟨-, rfl⟩ := Scalar.stored?_eq_some.mp hy
  exact hz

theorem isNotNegative_iff {x : Option α} :
    isNotNegative x = true ↔ ∀ y ∈ x, Scalar.lt y Scalar.zero = false := by
  cases x <;> simp [isNotNegative]

theorem isNotNegative_some {x : α} (h : Scalar.lt x Scalar.zero = false) :
    isNotNegative (some x) = true := by
  simp [isNotNegative, h]

/-- A column that is given nothing below zero holds nothing below zero. -/
theorem isNotNegative_storedOption {x : Option α}
    (h : ∀ y ∈ x, Scalar.lt y Scalar.zero = false) : isNotNegative (storedOption x) = true :=
  isNotNegative_iff.mpr fun y hy => h y (eq_of_mem_storedOption hy)

/-- A column that may keep what it holds holds nothing below zero. -/
theorem isNotNegative_or {x y : Option α} (hx : isNotNegative x = true)
    (hy : isNotNegative y = true) : isNotNegative (x.or y) = true := by
  cases x with
  | none => exact hy
  | some _ => exact hx

/-- What is reported of a spool adds up to an amount above zero. -/
theorem positive_of_mem_positiveUsage [StockScalar α] {entries : List (SpoolUsage α)}
    {u : SpoolUsage α} (h : u ∈ positiveUsage entries) : Scalar.lt Scalar.zero u.grams = true := by
  obtain ⟨hsome, hsum⟩ := mem_positiveUsage.mp h
  have hpositive : ∀ g ∈ positiveAmounts u.spool entries, Scalar.lt Scalar.zero g = true := by
    intro g hg
    obtain ⟨e, he, rfl⟩ := List.mem_map.mp hg
    have hreported := (List.mem_filter.mp (List.mem_of_mem_filter he)).2
    exact (Bool.and_eq_true_iff.mp hreported).2
  have hfold : ∀ (amounts : List α) (start : α), Scalar.lt Scalar.zero start = true →
      (∀ g ∈ amounts, Scalar.lt Scalar.zero g = true) →
        Scalar.lt Scalar.zero (amounts.foldl (· + ·) start) = true := by
    intro amounts
    induction amounts with
    | nil =>
      intro start hstart _
      exact hstart
    | cons g amounts ih =>
      intro start hstart hamounts
      have hsum := StockScalar.positive_add start g hstart (hamounts g List.mem_cons_self)
      exact ih _ hsum fun x hx => hamounts x (List.mem_cons_of_mem _ hx)
  rw [hsum]
  cases hamounts : positiveAmounts u.spool entries with
  | nil => exact absurd hamounts hsome
  | cons g amounts =>
    rw [hamounts] at hpositive
    have hfirst := hpositive g List.mem_cons_self
    rw [List.foldl_cons, LawfulScalar.zero_add g hfirst]
    exact hfold amounts g hfirst fun x hx => hpositive x (List.mem_cons_of_mem _ hx)

/-- What is reported of all spools adds up to an amount. -/
theorem isAmount_sum_positiveUsage [StockScalar α] (entries : List (SpoolUsage α)) :
    IsAmount (Scalar.sum ((positiveUsage entries).map SpoolUsage.grams)) := by
  refine Scalar.isAmount_sum fun g hg => ?_
  obtain ⟨u, hu, rfl⟩ := List.mem_map.mp hg
  exact LawfulScalar.isAmount_of_positive _ (positive_of_mem_positiveUsage hu)

/-! ## Measurements -/

/-- A weight is entered if it is an amount. -/
theorem Measurement.reading_manual {grams : α} {reading : Reading α} :
    (manual grams).reading = .ok reading ↔
      Scalar.isNonNegative grams = true ∧ reading = ⟨.manual, grams, none, none⟩ := by
  simp only [Measurement.reading]
  split
  · rename_i hgrams
    exact ⟨fun h => ⟨hgrams, (Except.ok.inj h).symm⟩, fun h => congrArg Except.ok h.2.symm⟩
  · rename_i hgrams
    exact ⟨nofun, fun h => absurd h.1 hgrams⟩

/-- A spool is weighed if both weights are amounts and the second one is not above the first. -/
theorem Measurement.reading_weighing {before after : α} {reading : Reading α} :
    (weighing before after).reading = .ok reading ↔
      (Scalar.isNonNegative before = true ∧ Scalar.isNonNegative after = true) ∧
        Scalar.lt before after = false ∧
        reading = ⟨.weighing, Scalar.positivePart (before - after), some before, some after⟩ := by
  refine refuseIfAny_bind_eq_ok.trans ?_
  simp only [List.append_eq_nil_iff, complaint_eq_nil, Bool.not_eq_false']
  refine and_congr_right fun _ => ?_
  unfold weightUsed
  cases hheavier : Scalar.lt before after with
  | true =>
    constructor
    · intro h
      cases h
    · rintro ⟨h, -⟩
      cases h
  | false => exact ⟨fun h => ⟨rfl, (Except.ok.inj h).symm⟩, fun h => congrArg Except.ok h.2.symm⟩

/-! ## Records -/

/-- Nothing that is wrong with an optional amount means that it is a number from zero up. -/
theorem any_not_isNonNegative {x : Option α} :
    (x.any fun y => !Scalar.isNonNegative y) = false ↔
      ∀ y ∈ x, Scalar.isNonNegative y = true := by
  cases x <;> simp

/-- A column that is given an amount without complaints holds nothing below zero. -/
theorem isNotNegative_asked {x : Option α} (h : ∀ y ∈ x, Scalar.isNonNegative y = true) :
    isNotNegative (storedOption x) = true :=
  isNotNegative_storedOption fun y hy => (Scalar.isNonNegative_iff.mp (h y hy)).2

theorem NewSpool.valid {new : NewSpool α} (h : new.complaints = []) :
    Scalar.isNonNegative new.weight = true ∧ Scalar.isNonNegative new.costPerGram = true := by
  simp only [complaints, List.append_eq_nil_iff, complaint_eq_nil, Bool.not_eq_false'] at h
  exact ⟨h.1.2, h.2⟩

/-- The estimates of a line are numbers from zero up. -/
structure NewMaterial.Valid (new : NewMaterial α) : Prop where
  model : Scalar.isNonNegative new.estimatedModel = true
  flushed : ∀ x ∈ new.estimatedFlushed, Scalar.isNonNegative x = true
  tower : ∀ x ∈ new.estimatedTower, Scalar.isNonNegative x = true

theorem NewMaterial.complaints_eq_nil {new : NewMaterial α} {place : String} :
    new.complaints place = [] ↔ new.Valid := by
  simp only [complaints, List.append_eq_nil_iff, complaint_eq_nil,
    any_not_isNonNegative]
  constructor
  · intro h
    obtain ⟨⟨hmodel, hflushed⟩, htower⟩ := h
    exact ⟨hmodel _ rfl, hflushed, htower⟩
  · intro h
    refine ⟨⟨fun x hx => ?_, h.flushed⟩, h.tower⟩
    obtain rfl := Option.some.inj hx
    exact h.model

/-- The whole estimate of a line is an amount. -/
theorem NewMaterial.Valid.isAmount_estimatedTotal [StockScalar α] {new : NewMaterial α}
    (h : new.Valid) : IsAmount new.estimatedTotal := by
  have hpart : ∀ x : Option α, (∀ y ∈ x, Scalar.isNonNegative y = true) →
      IsAmount (x.getD Scalar.zero) := by
    intro x hx
    cases x with
    | none => exact StockScalar.isAmount_zero
    | some y => exact isAmount_of_isNonNegative (hx y rfl)
  have hmodel := isAmount_of_isNonNegative h.model
  have hflushed := LawfulScalar.isAmount_add _ _ hmodel (hpart _ h.flushed)
  exact LawfulScalar.isAmount_add _ _ hflushed (hpart _ h.tower)

/-- An item plans at least one print, and its weight is a number from zero up. -/
structure NewItem.Valid (new : NewItem α) : Prop where
  quantity : 1 ≤ new.quantity
  weight : ∀ x ∈ new.modelWeight, Scalar.isNonNegative x = true

theorem NewItem.complaints_eq_nil {new : NewItem α} {place : String} {earlier : List Uuid} :
    new.complaints place earlier = [] ↔ new.Valid ∧ new.model ∉ earlier := by
  simp only [complaints, List.append_eq_nil_iff, complaint_eq_nil, any_not_isNonNegative,
    decide_eq_false_iff_not]
  constructor
  · intro h
    obtain ⟨⟨hquantity, hweight⟩, hmodel⟩ := h
    exact ⟨⟨by omega, hweight⟩, by simpa using hmodel⟩
  · intro h
    obtain ⟨⟨hquantity, hweight⟩, hmodel⟩ := h
    exact ⟨⟨by omega, hweight⟩, by simpa using hmodel⟩

theorem RunPatch.valid {patch : RunPatch α} (h : patch.complaints = []) :
    (∀ x ∈ patch.durationHours, Scalar.isNonNegative x = true) ∧
      ∀ x ∈ patch.estimatedHours, Scalar.isNonNegative x = true := by
  simp only [complaints, List.append_eq_nil_iff, complaint_eq_nil, any_not_isNonNegative] at h
  exact h

/-! ## Whole runs -/

/-- Keys that come one after the other are not among the earlier ones and differ from each other. -/
theorem forall_cons_nodup {ε : Type} {key : ε → Uuid} {valid : ε → Prop} {x : ε} {xs : List ε}
    {earlier : List Uuid} :
    ((∀ y ∈ x :: xs, valid y ∧ key y ∉ earlier) ∧ ((x :: xs).map key).Nodup) ↔
      (valid x ∧ key x ∉ earlier) ∧
        (∀ y ∈ xs, valid y ∧ key y ∉ key x :: earlier) ∧ (xs.map key).Nodup := by
  rw [List.forall_mem_cons, List.map_cons, List.nodup_cons]
  simp only [List.mem_map, List.mem_cons, not_or, not_exists, not_and]
  constructor
  · intro h
    obtain ⟨⟨hx, hxs⟩, hnew, hnodup⟩ := h
    exact ⟨hx, fun y hy => ⟨(hxs y hy).1, hnew y hy, (hxs y hy).2⟩, hnodup⟩
  · intro h
    obtain ⟨hx, hxs, hnodup⟩ := h
    exact ⟨⟨hx, fun y hy => ⟨(hxs y hy).1, (hxs y hy).2.2⟩⟩, fun y hy => (hxs y hy).2.1, hnodup⟩

/-- Items are without complaints if each is in order and no model comes twice. -/
theorem itemComplaints_eq_nil {items : List (NewItem α)} {index : Nat} {earlier : List Uuid} :
    itemComplaints index earlier items = [] ↔
      (∀ i ∈ items, i.Valid ∧ i.model ∉ earlier) ∧ (items.map NewItem.model).Nodup := by
  induction items generalizing index earlier with
  | nil => simp [itemComplaints]
  | cons i rest ih =>
    rw [forall_cons_nodup, itemComplaints, List.append_eq_nil_iff, NewItem.complaints_eq_nil, ih]

/-- Lines are without complaints if each is in order and no spool comes twice. -/
theorem materialComplaints_eq_nil {materials : List (NewMaterial α)} {index : Nat}
    {earlier : List Uuid} :
    materialComplaints index earlier materials = [] ↔
      (∀ m ∈ materials, m.Valid ∧ m.spool ∉ earlier) ∧
        (materials.map NewMaterial.spool).Nodup := by
  induction materials generalizing index earlier with
  | nil => simp [materialComplaints]
  | cons m rest ih =>
    have hspool : earlier.contains m.spool = false ↔ m.spool ∉ earlier := by simp
    simp only [forall_cons_nodup, materialComplaints, List.append_eq_nil_iff,
      NewMaterial.complaints_eq_nil, complaint_eq_nil, ih, hspool]

/-- A run that is asked for with different models, different spools and numbers in order. -/
structure RunRequest.Valid (request : RunRequest α) : Prop where
  hours : Scalar.isNonNegative request.run.estimatedHours = true
  items : ∀ i ∈ request.items, i.Valid
  models : (request.items.map NewItem.model).Nodup
  materials : ∀ m ∈ request.materials, m.Valid
  spools : (request.materials.map NewMaterial.spool).Nodup

/-- A request is without complaints if all of it is in order and it has an item. -/
theorem RunRequest.complaints_eq_nil {request : RunRequest α} :
    request.complaints = [] ↔ request.Valid ∧ request.items ≠ [] := by
  simp only [complaints, List.append_eq_nil_iff, complaint_eq_nil, Bool.not_eq_false',
    itemComplaints_eq_nil, materialComplaints_eq_nil, List.not_mem_nil, not_false_eq_true, and_true,
    List.isEmpty_eq_false_iff]
  constructor
  · intro h
    obtain ⟨⟨⟨hhours, hsome⟩, hitems, hmodels⟩, hmaterials, hspools⟩ := h
    exact ⟨⟨hhours, hitems, hmodels, hmaterials, hspools⟩, hsome⟩
  · intro h
    obtain ⟨⟨hhours, hitems, hmodels, hmaterials, hspools⟩, hsome⟩ := h
    exact ⟨⟨⟨hhours, hsome⟩, hitems, hmodels⟩, hmaterials, hspools⟩

end PrintFarm
