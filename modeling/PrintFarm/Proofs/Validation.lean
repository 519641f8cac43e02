import PrintFarm.Proofs.Storing

/-!
# Requests that the tables take

A request is checked before anything is written, and the checks are enough: what they let through
breaks no rule of the tables.  This is shown here for everything that plans a run, measures its
materials and prints its plates.

* `Operation.decodable` says what is known of a request that could be read at all.
* `Database.Orderly` is what holds of the database that an operation meets.
* There is one lemma for each workflow, named `clean_` and its name.  `clean_movePlate` is about the
  four workflows that move a plate.
-/

namespace PrintFarm

open Store Tx
open Scalar (IsAmount)

variable {α : Type}

/-! ## Requests -/

/-- The texts of an item can be stored, and its quantity is a count. -/
def NewItem.decodable (new : NewItem α) : Bool :=
  allStorable [new.modelName, new.bedPosition] && fitsCount new.quantity

/-- The texts of a plate can be stored, and its numbers are counts. -/
def NewPlate.decodable (new : NewPlate α) : Bool :=
  allStorable [new.name, new.notes] && fitsCount new.printsPerPlate && new.number.all fitsCount

/-- The start of a run and its texts and those of its items can be stored, and the quantities are
counts. -/
def RunRequest.decodable (request : RunRequest α) : Bool :=
  storableRun request.run && request.items.all NewItem.decodable

/-- All texts and times that are asked to be stored can be stored, and all counts are kept in 32
bits. -/
def Operation.decodable : Operation α → Bool
  | .createSpool new => allStorable [some new.label, some new.materialType, new.color]
  | .createRun request => request.decodable
  | .updateRun _ patch => storableDetails patch
  | .cancelRun _ request => allStorable [request.notes]
  | .failRun _ request => allStorable [some request.reason, request.notes]
  | .createPlate _ new => new.decodable
  | .updatePlate _ _ patch => allStorable [patch.name, patch.notes]
  | .completePlate _ _ report => allStorable [report.notes]
  | .failPlate _ _ notes | .cancelPlate _ _ notes => allStorable [notes]
  | _ => true

variable [Scalar α]

/-- What holds of the database that an operation meets. -/
structure Database.Orderly (db : Database α) : Prop where
  consistent : db.tables.Consistent
  valued : db.tables.Valued
  drawn : db.tables.Drawn db.sequences

/-! ## Texts -/

theorem storable_append {s t : String} (hs : storable s = true) (ht : storable t = true) :
    storable (s ++ t) = true := by
  simp only [storable, String.toList_append, List.all_append, Bool.and_eq_true]
  exact ⟨hs, ht⟩

/-- Skipping blank characters skips none of those that matter. -/
theorem all_skipBlanks {p : Char → Bool} (hp : ∀ c, Text.isBlank c = true → p c = true)
    (cs : List Char) : (Text.skipBlanks cs).all p = cs.all p := by
  induction cs with
  | nil => rfl
  | cons c cs ih =>
    rw [Text.skipBlanks, List.dropWhile_cons]
    cases hc : Text.isBlank c with
    | false => rfl
    | true => rw [if_pos rfl, List.all_cons, hp c hc, Bool.true_and, ← ih, Text.skipBlanks]

/-- Trimming a text makes no difference to whether it can be stored. -/
theorem storable_trim (s : String) : storable (Text.trim s) = storable s := by
  have hblank : ∀ c, Text.isBlank c = true → (c.toNat != 0) = true := by
    intro c hc
    refine bne_iff_ne.mpr fun hzero => ?_
    simp [Text.isBlank, hzero] at hc
  rw [storable, storable, Text.trim, String.toList_ofList, Text.trimChars, List.all_reverse,
    all_skipBlanks hblank, List.all_reverse, all_skipBlanks hblank]

theorem eq_trim_of_nonblank? {s t : String} (h : Text.nonblank? s = some t) :
    t = Text.trim s := by
  simp only [Text.nonblank?] at h
  split at h
  · exact nomatch h
  · exact (Option.some.inj h).symm

theorem storable_nonblank? {s : Option String} (hs : s.all storable = true) :
    (s.bind Text.nonblank?).all storable = true := by
  rw [Option.all_eq_true] at hs ⊢
  intro t ht
  obtain ⟨text, htext, hnonblank⟩ := Option.bind_eq_some_iff.mp ht
  rw [eq_trim_of_nonblank? hnonblank, storable_trim]
  exact hs text htext

/-- A number is written in digits. -/
theorem storable_natCast (n : Nat) : storable (toString (n : Int)) = true := by
  rw [storable, toList_toString_natCast, List.all_eq_true]
  intro c hc
  have hdigit := Nat.isDigit_of_mem_toDigits (by decide) (by decide) hc
  refine bne_iff_ne.mpr fun hzero => ?_
  obtain rfl : c = '\x00' := Char.toNat_inj.mp hzero
  exact absurd hdigit (by decide)

/-- The name of a plate can be stored if the one that is asked for can. -/
theorem storable_plateName (name : Option String) {number : Int} (hnumber : 1 ≤ number) :
    storable ((name.bind Text.nonblank?).getD s!"Plate {number}") = name.all storable := by
  have hdefault : storable s!"Plate {number}" = true := by
    obtain ⟨n, rfl⟩ := Int.eq_ofNat_of_zero_le (Int.le_trans (by decide) hnumber)
    exact storable_append (by decide) (storable_natCast n)
  cases name with
  | none => exact hdefault
  | some text =>
    rw [Option.bind_some, Option.all_some, Text.nonblank?, ← storable_trim text]
    split
    · rename_i hblank
      rw [String.isEmpty_iff.mp hblank]
      exact hdefault
    · rfl

/-! ## Rows -/

section Rows

variable {now : Timestamp}

theorem acceptsRun_edited {patch : RunPatch α} (hvalid : patch.complaints = []) {r : Run α}
    (hr : acceptsRun r = true) : acceptsRun (editedRun now patch r) = true := by
  obtain ⟨hduration, hestimate⟩ := RunPatch.valid hvalid
  simp only [acceptsRun, Bool.and_eq_true] at hr ⊢
  refine ⟨⟨isNotNegative_or (isNotNegative_asked hduration) hr.1.1, ?_⟩, hr.2⟩
  show isNotNegative (some ((storedOption patch.estimatedHours).getD r.estimatedHours)) = true
  rw [← Option.or_some]
  exact isNotNegative_or (isNotNegative_asked hestimate) hr.1.2

/-- An outcome without complaints is within what the item plans. -/
theorem acceptsItem_withOutcome {i : Item α} (hi : acceptsItem i = true) {place : String}
    {o : Outcome} (hvalid : (o.complaints place i.quantity : List (FieldError α)) = []) :
    acceptsItem (i.withOutcome o) = true := by
  obtain ⟨hsuccessful, hfailed, hsum⟩ := Outcome.complaints_eq_nil.mp hvalid
  simp only [acceptsItem, Bool.and_eq_true, decide_eq_true_eq] at hi ⊢
  obtain ⟨⟨⟨⟨⟨hfits, hone⟩, -⟩, -⟩, -⟩, hweight⟩ := hi
  exact ⟨⟨⟨⟨⟨hfits, hone⟩, hsuccessful⟩, hfailed⟩, hsum⟩, hweight⟩

theorem isNegativeTime_or {x y : Option Int} (hx : isNegativeTime x = false)
    (hy : isNegativeTime y = false) : isNegativeTime (x.or y) = false := by
  cases x with
  | none => exact hy
  | some _ => exact hx

theorem acceptsMaterial_record {m : Material α} (hm : acceptsMaterial m = true)
    {reading : Reading α} (hactual : Scalar.lt reading.actual Scalar.zero = false) :
    acceptsMaterial (m.record reading) = true := by
  simp only [acceptsMaterial, Bool.and_eq_true] at hm ⊢
  refine ⟨hm.1, isNotNegative_storedOption (x := some reading.actual) ?_⟩
  simpa using hactual

omit [Scalar α] in
theorem MeasurementRequest.measurement_ne_storage (request : MeasurementRequest α)
    (fault : StorageFault) : request.measurement ≠ .error (.storage fault) := by
  unfold MeasurementRequest.measurement
  split <;> nofun

/-- A measurement is refused for its fields, or it finds a use that is not below zero. -/
theorem Measurement.reading_cases [StockScalar α] (measurement : Measurement α) :
    (∃ fields, measurement.reading = .error (.invalid fields)) ∨
      ∃ reading, measurement.reading = .ok reading ∧
        Scalar.lt reading.actual Scalar.zero = false := by
  cases measurement with
  | manual grams =>
    simp only [Measurement.reading]
    split
    · rename_i hgrams
      exact Or.inr ⟨_, rfl, (Scalar.isNonNegative_iff.mp hgrams).2⟩
    · exact Or.inl ⟨_, rfl⟩
  | weighing before after =>
    have hused := (isAmount_positivePart (before - after)).notBelow
    simp only [Measurement.reading, weightUsed]
    generalize complaint _ _ _ ++ complaint _ _ _ = complaints
    cases complaints with
    | cons first rest => exact Or.inl ⟨_, rfl⟩
    | nil =>
      split
      · exact Or.inl ⟨_, rfl⟩
      · exact Or.inr ⟨_, rfl, hused⟩

theorem fitsCount_iff {n : Int} : fitsCount n = true ↔ -2147483648 ≤ n ∧ n ≤ largestCount := by
  simp [fitsCount]

/-- What the tables ask of a plate. -/
structure Plate.Accepted (p : Plate α) : Prop where
  number : fitsCount p.number = true ∧ 1 ≤ p.number
  bed : fitsCount p.printsPerPlate = true ∧ 1 ≤ p.printsPerPlate
  counts : 0 ≤ p.successful ∧ 0 ≤ p.failed ∧ p.successful + p.failed ≤ p.printsPerPlate
  times : isNegativeTime p.printMinutes = false ∧ isNegativeTime p.actualPrintMinutes = false
  weights : isNotNegative p.estimatedWeight = true ∧ isNotNegative p.actualWeight = true

theorem acceptsPlate_iff {p : Plate α} : acceptsPlate p = true ↔ p.Accepted := by
  simp only [acceptsPlate, Bool.and_eq_true, decide_eq_true_eq, Bool.not_eq_true', and_assoc]
  constructor
  · intro h
    obtain ⟨hfits, hone, hbed, hbedOne, hsuccessful, hfailed, hsum, htime, hactual, hweights⟩ := h
    exact ⟨⟨hfits, hone⟩, ⟨hbed, hbedOne⟩, ⟨hsuccessful, hfailed, hsum⟩, ⟨htime, hactual⟩, hweights⟩
  · intro h
    exact ⟨h.number.1, h.number.2, h.bed.1, h.bed.2, h.counts.1, h.counts.2.1, h.counts.2.2,
      h.times.1, h.times.2, h.weights⟩

/-- The row of a plate that is asked for. -/
theorem acceptsPlate_row {new : NewPlate α} (hvalid : new.complaints = [])
    (hbed : fitsCount new.printsPerPlate = true) {number : Int} (hfits : fitsCount number = true)
    (hone : 1 ≤ number) (run id : Uuid) (name : String) :
    acceptsPlate (plateRow now run id new number name) = true := by
  simp only [NewPlate.complaints, plateDetailComplaints, List.append_eq_nil_iff, complaint_eq_nil,
    decide_eq_false_iff_not, isBadAmount, any_not_isNonNegative] at hvalid
  obtain ⟨⟨⟨htime, hweight⟩, hprints⟩, -⟩ := hvalid
  have hbedOne : 1 ≤ new.printsPerPlate := by omega
  exact acceptsPlate_iff.mpr
    { number := ⟨hfits, hone⟩
      bed := ⟨hbed, hbedOne⟩
      counts := ⟨Int.le_refl 0, Int.le_refl 0, by simp only [plateRow]; omega⟩
      times := ⟨htime, rfl⟩
      weights := ⟨isNotNegative_asked hweight, rfl⟩ }

theorem acceptsPlate_edited {patch : PlatePatch α} (hvalid : patch.complaints = []) {p : Plate α}
    (hp : acceptsPlate p = true) : acceptsPlate (editedPlate now patch p) = true := by
  simp only [PlatePatch.complaints, plateDetailComplaints, List.append_eq_nil_iff,
    complaint_eq_nil, isBadAmount, any_not_isNonNegative] at hvalid
  obtain ⟨htime, hweight⟩ := hvalid
  have h := acceptsPlate_iff.mp hp
  exact acceptsPlate_iff.mpr { h with
    times := ⟨isNegativeTime_or htime h.times.1, h.times.2⟩
    weights := ⟨isNotNegative_or (isNotNegative_asked hweight) h.weights.1, h.weights.2⟩ }

/-- A plate that moves has counts within its bed. -/
theorem acceptsPlate_moved {op : Operation α} {run plate : Uuid} {next : PlateStatus}
    {move : PlateMove α} (hmoves : MovesPlate now op run plate next move) {p : Plate α}
    (hp : acceptsPlate p = true)
    (hcounts : next = .completed →
      (printCountComplaints p.printsPerPlate move.reported : List (FieldError α)) = []) :
    acceptsPlate (movedPlate now next (move.counted next p.printsPerPlate) p) = true := by
  have h := acceptsPlate_iff.mp hp
  refine acceptsPlate_iff.mpr ?_
  cases hmoves with
  | start => exact { h with }
  | cancel => exact { h with }
  | fail =>
    have hbed := h.bed.2
    have hlost : 0 ≤ p.printsPerPlate ∧ 0 + p.printsPerPlate ≤ p.printsPerPlate := by omega
    exact { h with counts := ⟨Int.le_refl 0, hlost⟩ }
  | @complete _ _ report hvalid =>
    simp only [PlateReport.complaints, List.append_eq_nil_iff, complaint_eq_nil, isBadAmount,
      any_not_isNonNegative] at hvalid
    have hwithin : 0 ≤ report.successful ∧ 0 ≤ report.failed ∧
        report.successful + report.failed ≤ p.printsPerPlate :=
      printCountComplaints_eq_nil.mp (hcounts rfl)
    exact { h with
      counts := hwithin
      times := ⟨h.times.1, isNegativeTime_or hvalid.1 h.times.2⟩
      weights := ⟨h.weights.1, isNotNegative_or (isNotNegative_asked hvalid.2) h.weights.2⟩ }

end Rows

/-! ## Registering and planning -/

namespace Workflow

variable {now : Timestamp} {db db' : Database α} {run : Uuid}

section Planning

variable [StockScalar α]

theorem clean_createSpool (hdb : db.Orderly) {new : NewSpool α}
    (htexts : allStorable [some new.label, some new.materialType, new.color] = true) :
    Clean (createSpool now new) db := by
  refine .atomically (.refuseIfAny fun hvalid => ?_)
  obtain ⟨hweight, hprice⟩ := NewSpool.valid hvalid
  exact .insertSpool hdb.drawn htexts (isAmount_of_isNonNegative hweight)
    (isAmount_of_isNonNegative hprice)

omit [Scalar α] [StockScalar α] in
theorem clean_findSpools {materials : List (NewMaterial α)} :
    Clean (materials.forM fun m => do
      let _ ← expect (← spool? m.spool) (.notFound .spool m.spool)) db := by
  induction materials generalizing db with
  | nil => exact .pure _
  | cons m materials ih =>
    refine .bind (.read (.expect (fun _ => nofun) fun _ _ => .pure _)) fun _ _ _ => ih

omit [Scalar α] [StockScalar α] in
/-- The spools that are looked for are there. -/
theorem found_of_gives_findSpools {materials : List (NewMaterial α)} {u : PUnit}
    (h : Gives (materials.forM fun m => do
      let _ ← expect (← spool? m.spool) (.notFound .spool m.spool)) db u db') :
    ∀ m ∈ materials, ∃ s ∈ db.tables.spools, s.id = m.spool := by
  induction materials generalizing db with
  | nil => simp
  | cons m materials ih =>
    obtain ⟨_, db₁, hfirst, hrest⟩ := gives_bind.mp h
    simp only [gives_bind, gives_spool?, gives_expect, gives_pure] at hfirst
    obtain ⟨_, _, ⟨rfl, rfl⟩, s, _, ⟨hfound, rfl⟩, _, rfl⟩ := hfirst
    refine List.forall_mem_cons.mpr ⟨⟨s, List.mem_of_find?_eq_some hfound, ?_⟩, ih hrest⟩
    simpa using List.find?_some hfound

omit [StockScalar α] in
/-- Items for different models that the run has no item for are taken one by one. -/
theorem clean_insertItems {items : List (NewItem α)} (hdb : db.tables.Drawn db.sequences)
    (hrun : ∃ r ∈ db.tables.runs, r.id = run) (hvalid : ∀ i ∈ items, i.Valid)
    (hdecodable : ∀ i ∈ items, i.decodable = true) (hmodels : (items.map NewItem.model).Nodup)
    (hnew : ∀ i ∈ items, ∀ j ∈ db.tables.items, j.run = run → j.model ≠ i.model) :
    Clean (items.forM fun i => do let _ ← insertItem now run i) db := by
  induction items generalizing db with
  | nil => exact .pure _
  | cons i items ih =>
    obtain ⟨hmodel, hmodels⟩ := List.nodup_cons.mp (List.map_cons ▸ hmodels)
    have hitem := hdecodable i List.mem_cons_self
    simp only [NewItem.decodable, Bool.and_eq_true] at hitem
    refine .bind (.bind (.insertItem hdb hitem.1 hitem.2 (hvalid i List.mem_cons_self) hrun
      (hnew i List.mem_cons_self)) fun _ _ _ => .pure _) fun _ db₁ h => ?_
    simp only [gives_bind, gives_pure] at h
    obtain ⟨row, _, hrow, -, rfl⟩ := h
    have hdrawn := hrow.drawn (Database.Draws.insertItem trivial now run i) hdb
    obtain ⟨rfl, -, -, -, -, -, rfl⟩ := gives_insertItem.mp hrow
    refine ih hdrawn hrun (fun j hj => hvalid j (List.mem_cons_of_mem _ hj))
      (fun j hj => hdecodable j (List.mem_cons_of_mem _ hj)) hmodels fun j hj => ?_
    refine List.forall_mem_append.mpr ⟨hnew j (List.mem_cons_of_mem _ hj), ?_⟩
    refine List.forall_mem_singleton.mpr fun _ heq => hmodel ?_
    exact List.mem_map.mpr ⟨j, hj, heq.symm⟩

/-- Lines for different spools that the run has no line for are taken one by one. -/
theorem clean_insertMaterials {materials : List (NewMaterial α)}
    (hdb : db.tables.Drawn db.sequences) (hrun : ∃ r ∈ db.tables.runs, r.id = run)
    (hvalid : ∀ m ∈ materials, m.Valid)
    (hstock : ∀ m ∈ materials, ∃ s ∈ db.tables.spools, s.id = m.spool)
    (hspools : (materials.map NewMaterial.spool).Nodup)
    (hnew : ∀ m ∈ materials, ∀ l ∈ db.tables.materials, l.run = run → l.spool ≠ m.spool) :
    Clean (materials.forM fun m => do let _ ← insertMaterial now run m m.estimatedTotal) db := by
  induction materials generalizing db with
  | nil => exact .pure _
  | cons m materials ih =>
    obtain ⟨hspool, hspools⟩ := List.nodup_cons.mp (List.map_cons ▸ hspools)
    refine .bind (.bind (.insertMaterial hdb (hvalid m List.mem_cons_self) hrun
      (hstock m List.mem_cons_self) (hnew m List.mem_cons_self)) fun _ _ _ => .pure _)
      fun _ db₁ h => ?_
    simp only [gives_bind, gives_pure] at h
    obtain ⟨row, _, hrow, -, rfl⟩ := h
    have hdrawn := hrow.drawn (Database.Draws.insertMaterial trivial now run m _) hdb
    obtain ⟨⟨_, _, -, -, rfl⟩, -, -, -, -, -, rfl⟩ := gives_insertMaterial.mp hrow
    refine ih hdrawn hrun (fun l hl => hvalid l (List.mem_cons_of_mem _ hl))
      (fun l hl => hstock l (List.mem_cons_of_mem _ hl)) hspools fun l hl => ?_
    refine List.forall_mem_append.mpr ⟨hnew l (List.mem_cons_of_mem _ hl), ?_⟩
    refine List.forall_mem_singleton.mpr fun _ heq => hspool ?_
    exact List.mem_map.mpr ⟨l, hl, heq.symm⟩

theorem clean_createRun (hdb : db.Orderly) {request : RunRequest α}
    (hdecodable : request.decodable = true) : Clean (createRun now request) db := by
  simp only [RunRequest.decodable, Bool.and_eq_true, List.all_eq_true] at hdecodable
  obtain ⟨hstorable, hitems⟩ := hdecodable
  refine .atomically (.refuseIfAny fun hcomplaints => ?_)
  have hvalid := (RunRequest.complaints_eq_nil.mp hcomplaints).1
  refine .bind clean_findSpools fun _ db₁ hfound => ?_
  have hstock := found_of_gives_findSpools hfound
  obtain rfl := gives_findSpools hfound
  refine .bind (.insertRun hdb.drawn hstorable (isAmount_of_isNonNegative hvalid.hours))
    fun r db₂ hr => ?_
  have hdrawn₂ := hr.drawn (Database.Draws.insertRun trivial now _) hdb.drawn
  obtain ⟨-, ⟨_, -, hrow⟩, -, hid, -, rfl⟩ := gives_insertRun.mp hr
  have hid' : ∀ s ∈ db₁.tables.runs, ¬s.id = r.id := by
    rw [hrow]
    exact hid
  -- nothing belongs to the new run yet
  have hnew : r.id ∉ db₁.tables.runs.map Run.id := by
    intro hmem
    obtain ⟨s, hs, heq⟩ := List.mem_map.mp hmem
    exact hid' s hs heq
  have hpresent : ∃ s ∈ db₁.tables.runs ++ [r], s.id = r.id := ⟨r, by simp, rfl⟩
  refine .bind (clean_insertItems hdrawn₂ hpresent hvalid.items hitems hvalid.models
    fun _ _ j hj hrun => ?_) fun _ db₃ hadded => ?_
  · exact absurd (hrun ▸ hdb.consistent.itemRuns j hj) hnew
  have hdrawn₃ : db₃.tables.Drawn db₃.sequences := by
    refine hadded.drawn (Database.Draws.path.forM fun i => ?_) hdrawn₂
    exact Database.Draws.path.first (Database.Draws.insertItem trivial now r.id i)
      fun _ => reads_pure _
  obtain ⟨rows, htables, -⟩ :=
    gives_insertItems hadded hdb.consistent.itemIds hdb.consistent.itemModels
  refine .bind (clean_insertMaterials hdrawn₃ ?_ hvalid.materials ?_ hvalid.spools ?_)
    fun _ _ _ => .snapshot _
  · rw [htables]
    exact hpresent
  · rw [htables]
    exact hstock
  · rw [htables]
    intro _ _ l hl hrun
    exact absurd (hrun ▸ hdb.consistent.materialRuns l hl) hnew

omit [StockScalar α] in
theorem clean_updateRun (hdb : db.Orderly) {patch : RunPatch α}
    (hstorable : storableDetails patch = true) : Clean (updateRun now run patch) db := by
  refine .atomically (.refuseIfAny fun hvalid => .run fun _ _ => ?_)
  have hwrite : Clean (do expect (← Store.updateRun now run patch) (.notFound .run run)) db := by
    refine .bind (.updateRun hstorable fun r hr => ?_) fun _ _ _ => .expected fun _ => nofun
    exact acceptsRun_edited hvalid (hdb.valued.hours r (List.mem_of_find?_eq_some hr))
  exact .ite (fun _ => .checkMutable fun _ => hwrite) fun _ => hwrite

omit [StockScalar α] in
theorem clean_updateOutcome (hdb : db.Orderly) (item : Uuid) (outcome : Outcome) :
    Clean (updateOutcome now run item outcome) db := by
  refine .atomically (.runInProgress fun _ _ _ => .read (.expect (fun _ => nofun) fun i hi => ?_))
  refine .refuseIfAny fun hvalid => .bind (.setOutcome fun j hj => ?_) fun _ _ _ => ?_
  · have hmem := List.mem_of_find?_eq_some hi
    obtain ⟨hid, -⟩ : i.id = item ∧ i.run = run := by simpa using List.find?_some hi
    have hjid : j.id = item := by simpa using List.find?_some hj
    obtain rfl : j = i :=
      eq_of_key_eq hdb.consistent.itemIds (List.mem_of_find?_eq_some hj) hmem (hjid.trans hid.symm)
    exact acceptsItem_withOutcome (hdb.consistent.outcomes j hmem) hvalid
  · exact .expect (fun _ => nofun) fun _ _ => .changed _ _

/-! ## Materials -/

theorem clean_addMaterial (hdb : db.Orderly) (new : NewMaterial α) :
    Clean (addMaterial now run new) db := by
  refine .atomically (.refuseIfAny fun hcomplaints => .runInProgress fun r hr _ => ?_)
  have hvalid := NewMaterial.complaints_eq_nil.mp hcomplaints
  refine .read (.expect (fun _ => nofun) fun s hs => .read (.ite (fun _ => .refused fun _ => nofun)
    fun hunused => .bind (.insertMaterial hdb.drawn hvalid ?_ ?_ ?_)
      fun row _ _ => .bind (.touchRun _) fun _ _ _ => .line _ _))
  · exact ⟨r, List.mem_of_find?_eq_some hr, by simpa using List.find?_some hr⟩
  · exact ⟨s, List.mem_of_find?_eq_some hs, by simpa using List.find?_some hs⟩
  · intro l hl hrun hspool
    refine hunused (List.any_eq_true.mpr ?_)
    have hline : l ∈ (db.tables.linesOf run).map PricedMaterial.material := by
      rw [linesOf_materials hdb.consistent]
      exact List.mem_filter.mpr ⟨hl, decide_eq_true hrun⟩
    obtain ⟨p, hp, rfl⟩ := List.mem_map.mp hline
    exact ⟨p, hp, decide_eq_true hspool⟩

omit [Scalar α] [StockScalar α] in
theorem clean_removeMaterial (material : Uuid) :
    Clean (removeMaterial now run material : Tx α Unit) db := by
  refine .atomically (.runInProgress fun _ _ _ => .bind (.of_gives rfl) fun _ _ _ => ?_)
  exact .ite (fun _ => .refused fun _ => nofun) fun _ => .touchRun _

theorem clean_recordActual (hdb : db.Orderly) (material : Uuid) (request : MeasurementRequest α) :
    Clean (recordActual now run material request) db := by
  refine .atomically (.check request.measurement_ne_storage fun measurement _ => ?_)
  have hreading := measurement.reading_cases
  refine .check (fun fault h => ?_) fun reading h => .runInProgress fun _ _ _ => ?_
  · rcases hreading with ⟨_, herror⟩ | ⟨_, hok, -⟩
    · exact nomatch herror.symm.trans h
    · exact nomatch hok.symm.trans h
  · have hactual : Scalar.lt reading.actual Scalar.zero = false := by
      rcases hreading with ⟨_, herror⟩ | ⟨_, hok, hactual⟩
      · exact nomatch herror.symm.trans h
      · obtain rfl := Except.ok.inj (hok.symm.trans h)
        exact hactual
    refine .bind (.line _ _) fun _ db₁ hline => ?_
    obtain rfl := (reads_line run material).gives hline
    refine .bind (.changeMaterials fun m hm _ => ?_) fun _ _ _ => .bind (.touchRun _)
      fun _ _ _ => .line _ _
    exact acceptsMaterial_record (hdb.valued.figures m hm) hactual

omit [StockScalar α] in
theorem clean_resetActuals (hdb : db.Orderly) : Clean (resetActuals now run : Tx α _) db := by
  refine .atomically (.runInProgress fun _ _ _ => .bind (.changeMaterials fun m hm _ => ?_)
    fun _ _ _ => .bind (.touchRun _) fun _ _ _ => .read (.pure _))
  exact acceptsMaterial_record (hdb.valued.figures m hm) (hdb.valued.estimates m hm).notBelow

end Planning

/-! ## Plates -/

/-- The highest of some numbers is one of them and not below any, but for zero where there are
none. -/
theorem highest_number (numbers : List Int) :
    (numbers = [] ∨ numbers.max?.getD 0 ∈ numbers) ∧ ∀ n ∈ numbers, n ≤ numbers.max?.getD 0 := by
  cases hmax : numbers.max? with
  | none =>
    obtain rfl := List.max?_eq_none_iff.mp hmax
    simp
  | some m =>
    obtain ⟨hmem, hhighest⟩ := List.max?_eq_some_iff.mp hmax
    exact ⟨Or.inr hmem, hhighest⟩

omit [Scalar α] in
theorem number_of_mem_platesOf {t : Tables α} {n : Int}
    (hn : n ∈ (t.platesOf run).map Plate.number) :
    ∃ p ∈ t.plates, p.run = run ∧ p.number = n := by
  obtain ⟨p, hp, rfl⟩ := List.mem_map.mp hn
  obtain ⟨hp, hrun⟩ := List.mem_filter.mp hp
  exact ⟨p, hp, of_decide_eq_true hrun, rfl⟩

/-- A plate can be numbered if a number is wanted, or if the highest one can be raised. -/
theorem clean_plateNumber (hdb : db.tables.Consistent) {wanted : Option Int}
    (hroom : wanted = none → ∀ p ∈ db.tables.plates, p.run = run → p.number ≠ largestCount) :
    Clean (plateNumber run wanted) db := by
  cases wanted with
  | some number =>
    exact .read (.ite (fun _ => .refused fun _ => nofun) fun _ => .pure _)
  | none =>
    refine .of_gives (gives_nextPlateNumber.mpr ⟨rfl, ?_, rfl⟩)
    obtain ⟨hmem, -⟩ := highest_number ((db.tables.platesOf run).map Plate.number)
    rcases hmem with hnil | hmem
    · rw [hnil]
      rfl
    · obtain ⟨p, hp, hrun, hnumber⟩ := number_of_mem_platesOf hmem
      have hlast := hroom rfl p hp hrun
      have hfits := fitsCount_iff.mp (acceptsPlate_iff.mp (hdb.beds p hp)).number.1
      rw [← hnumber]
      exact fitsCount_iff.mpr (by omega)

/-- The number of a new plate is a count from one up that no plate of the run has. -/
theorem number_of_plateNumber (hdb : db.tables.Consistent) {wanted : Option Int} {number : Int}
    (hwanted : ∀ n ∈ wanted, fitsCount n = true ∧ 1 ≤ n)
    (h : Gives (plateNumber run wanted) db number db') :
    fitsCount number = true ∧ 1 ≤ number ∧
      ∀ q ∈ db.tables.plates, q.run = run → q.number ≠ number := by
  cases wanted with
  | some n =>
    simp only [plateNumber, gives_bind, gives_plateNumberTaken] at h
    obtain ⟨taken, _, ⟨htaken, rfl⟩, h⟩ := h
    cases taken with
    | true => simp at h
    | false =>
      simp at h
      obtain ⟨rfl, -⟩ := h
      refine ⟨(hwanted number rfl).1, (hwanted number rfl).2, fun q hq hrun heq => ?_⟩
      have hfree := List.any_eq_false.mp htaken.symm q hq
      simp [hrun, heq] at hfree
  | none =>
    obtain ⟨rfl, hfits, -⟩ := gives_nextPlateNumber.mp h
    obtain ⟨hmem, hhighest⟩ := highest_number ((db.tables.platesOf run).map Plate.number)
    refine ⟨hfits, ?_, fun q hq hrun heq => ?_⟩
    · rcases hmem with hnil | hmem
      · rw [hnil]
        decide
      · obtain ⟨p, hp, -, hnumber⟩ := number_of_mem_platesOf hmem
        have hone := (acceptsPlate_iff.mp (hdb.beds p hp)).number.2
        omega
    · have hbelow := hhighest q.number
        (List.mem_map_of_mem (List.mem_filter.mpr ⟨hq, decide_eq_true hrun⟩))
      omega

theorem clean_createPlate (hdb : db.Orderly) {new : NewPlate α} (hdecodable : new.decodable = true)
    (hroom : new.number = none →
      ∀ p ∈ db.tables.plates, p.run = run → p.number ≠ largestCount) :
    Clean (createPlate now run new) db := by
  simp only [NewPlate.decodable, allStorable, List.all_cons, List.all_nil, Bool.and_true,
    Bool.and_eq_true] at hdecodable
  obtain ⟨⟨⟨hname, hnotes⟩, hbed⟩, hnumbers⟩ := hdecodable
  refine .atomically (.refuseIfAny fun hvalid => .runInProgress fun r hr _ => ?_)
  refine .read (.expect (by simp [Refusal.field]) fun _ _ => .ite
    (fun _ => .refused (by simp [Refusal.field]))
    fun _ => .bind (clean_plateNumber hdb.consistent hroom) fun number db₁ h => ?_)
  have hwanted : ∀ n ∈ new.number, fitsCount n = true ∧ 1 ≤ n := by
    intro n hn
    have hone := (List.append_eq_nil_iff.mp hvalid).2
    rw [complaint_eq_nil] at hone
    rw [hn] at hone hnumbers
    exact ⟨hnumbers, Int.not_lt.mp (of_decide_eq_false hone)⟩
  obtain ⟨hfits, hone, hfree⟩ := number_of_plateNumber hdb.consistent hwanted h
  obtain rfl := gives_plateNumber h
  refine .bind (.insertPlate hdb.drawn ?_ (fun id => ?_) ?_ hfree) fun _ _ _ => .changed _ _
  · simp only [allStorable, List.all_cons, List.all_nil, Bool.and_true, Bool.and_eq_true]
    exact ⟨(storable_plateName new.name hone).trans hname, hnotes⟩
  · exact acceptsPlate_row hvalid hbed hfits hone run id _
  · exact ⟨r, List.mem_of_find?_eq_some hr, by simpa using List.find?_some hr⟩

theorem clean_updatePlate (hdb : db.Orderly) (plate : Uuid) {patch : PlatePatch α}
    (htexts : allStorable [patch.name, patch.notes] = true) :
    Clean (updatePlate now run plate patch) db := by
  refine .atomically (.refuseIfAny fun hvalid => .runInProgress fun _ _ _ => .plate fun p _ => ?_)
  refine .check (fun fault h => ?_) fun _ _ => ?_
  · unfold Plate.checkEditable at h
    split at h <;> exact nomatch h
  · refine .bind (.updatePlate htexts fun q hq => ?_) fun _ _ _ =>
      .expect (fun _ => nofun) fun _ _ => .changed _ _
    exact acceptsPlate_edited hvalid (hdb.consistent.beds q hq)

omit [Scalar α] in
theorem clean_deletePlate (plate : Uuid) : Clean (deletePlate now run plate : Tx α Unit) db := by
  refine .atomically (.runInProgress fun _ _ _ => .plate fun p _ => .check (fun fault h => ?_)
    fun _ _ => .bind (.of_gives rfl) fun _ _ _ => ?_)
  · unfold Plate.checkDeletable at h
    split at h <;> exact nomatch h
  · exact .ite (fun _ => .refused fun _ => nofun) fun _ => .touchRun _

/-- What a plate brings is added to its item only where it fits. -/
theorem clean_rollIntoItem (hdb : db.tables.Consistent) (p : Plate α) (next : PlateStatus)
    (reported : Outcome) : Clean (rollIntoItem run p next reported) db := by
  refine .ite (fun _ => .pure _) fun _ => .read (.expect (fun _ => nofun) fun i hi => ?_)
  refine .refuseIfAny fun hvalid => .ite (fun _ => .bind (.addOutcome fun j hj _ => ?_)
    fun _ _ _ => ?_) fun _ => .pure _
  · have hmem := List.mem_of_find?_eq_some hi
    have hid : j.id = i.id := by simpa using List.find?_some hj
    obtain rfl := eq_of_key_eq hdb.itemIds (List.mem_of_find?_eq_some hj) hmem hid
    simp only [Item.rollupComplaints] at hvalid
    split at hvalid
    · exact acceptsItem_withOutcome (hdb.outcomes j hmem) hvalid
    · exact nomatch hvalid
  · exact .ite (fun _ => .refuse fun _ => nofun) fun _ => .pure _

theorem clean_movePlate (hdb : db.Orderly) {op : Operation α} {plate : Uuid} {next : PlateStatus}
    {action : String} {move : PlateMove α} (hmoves : MovesPlate now op run plate next move)
    (htexts : allStorable [move.notes] = true) :
    Clean (movePlate now run plate next action move) db := by
  have hcounted : ∀ bed, (move.counted next bed).notes = move.notes := by
    intro bed
    unfold PlateMove.counted
    split <;> rfl
  refine .atomically (.runInProgress fun _ _ _ => .plate fun p hp => .check (fun fault h => ?_)
    fun _ hnext => ?_)
  · unfold Plate.checkMove at h
    split at h <;> exact nomatch h
  have hmem := List.mem_of_find?_eq_some hp
  obtain ⟨hid, -⟩ : p.id = plate ∧ p.run = run := by simpa using List.find?_some hp
  -- the counts are checked only where the plate is completed
  suffices hwrite : (next = .completed →
      (printCountComplaints p.printsPerPlate move.reported : List (FieldError α)) = []) →
      Clean _ db from
    .ite (fun _ => .refuseIfAny fun hcounts => hwrite fun _ => hcounts)
      fun hother => hwrite fun hcompleted => absurd hcompleted hother
  intro hcounts
  refine .bind (clean_rollIntoItem hdb.consistent p next _) fun _ db₁ hroll => ?_
  have hplates : db₁.tables.plates = db.tables.plates := by
    rw [(gives_rollIntoItem hdb.consistent hroll).1]
  refine .bind (.movePlate (by rw [hcounted]; exact htexts) fun q hq => ?_) fun moved _ _ => ?_
  · rw [hplates] at hq
    obtain ⟨hqid, -⟩ : q.id = plate ∧ q.status = p.status := by simpa using List.find?_some hq
    obtain rfl := eq_of_key_eq hdb.consistent.plateIds (List.mem_of_find?_eq_some hq) hmem
      (hqid.trans hid.symm)
    exact acceptsPlate_moved hmoves (hdb.consistent.beds q hmem) hcounts
  · cases moved with
    | some row => exact .changed _ _
    | none => exact .plate fun _ _ => .refuse fun _ => nofun

end Workflow

end PrintFarm
