import PrintFarm.Proofs.Ending
import PrintFarm.Proofs.Identifiers

/-!
# What was entered last

A line is measured as often as one likes, by hand and by weighing, and reset to its estimate in
between.  What its columns hold is what was entered last, all of it and nothing else.

* `Operation.entered?` says what an operation enters on a line, and `lastReading` reads the last
  entry off the history.
* `Step.records` is the step lemma, and `records_afterAll` carries it through a history.
* `measurements_coherent` draws the conclusions: a line stands in one of three ways, a line that was
  weighed last never keeps its run from being completed, and what is recorded replaces whatever was
  there.
-/

namespace PrintFarm

open Store
open Scalar (IsAmount)

variable {α : Type}

/-! ## One line -/

section Line

variable [Scalar α] {m : Material α}

/-- How a line stands: nothing is recorded, or a weight from zero up was entered, or the spool was
weighed before and after. -/
def Material.Stands (m : Material α) : Option EntryMode → Prop
  | none =>
    m.actualTotal = none ∧ m.entryMode = none ∧ m.weighedBefore = none ∧ m.weighedAfter = none
  | some .manual => ∃ grams, m.actualTotal = some grams ∧ Scalar.le Scalar.zero grams = true ∧
      m.entryMode = some .manual ∧ m.weighedBefore = none ∧ m.weighedAfter = none
  | some .weighing => ∃ before after,
      m.actualTotal = some (Scalar.positivePart (before - after)) ∧
      m.entryMode = some .weighing ∧ m.weighedBefore = some before ∧
      m.weighedAfter = some after ∧ Scalar.le after before = true ∧
      Scalar.le Scalar.zero after = true

theorem Material.Stands.mode_eq {mode : Option EntryMode} (h : m.Stands mode) :
    m.entryMode = mode := by
  match mode, h with
  | none, h => exact h.2.1
  | some .manual, ⟨_, _, _, hmode, _⟩ => exact hmode
  | some .weighing, ⟨_, _, _, hmode, _⟩ => exact hmode

theorem le_of_isAmount [StockScalar α] {x : α} (h : IsAmount x) : Scalar.le Scalar.zero x = true :=
  LawfulScalar.le_of_not_lt _ _ StockScalar.isAmount_zero.isNumber h.isNumber h.notBelow

/-- A line stands in one way. -/
theorem Material.Measured.existsUnique_stands [StockScalar α] (h : m.Measured) :
    ∃! mode, m.Stands mode := by
  refine ⟨m.entryMode, ?_, fun mode hmode => hmode.mode_eq.symm⟩
  cases h with
  | unrecorded hactual hmode hpair =>
    rw [hmode]
    exact ⟨hactual, hmode, hpair⟩
  | entered hactual hmode hamount hpair =>
    rw [hmode]
    exact ⟨_, hactual, le_of_isAmount hamount, hmode, hpair⟩
  | weighed hactual hmode hamounts horder hpair =>
    rw [hmode]
    exact ⟨_, _, hactual, hmode, hpair.1, hpair.2, horder, le_of_isAmount hamounts.2⟩

/-- The columns of the line hold the reading, or nothing if there is none. -/
structure Material.Holds (m : Material α) (reading : Option (Reading α)) : Prop where
  actual : m.actualTotal = reading.map Reading.actual
  mode : m.entryMode = reading.map Reading.mode
  before : m.weighedBefore = reading.bind Reading.before
  after : m.weighedAfter = reading.bind Reading.after

/-- The line with a measurement in place of what was recorded before. -/
def Material.measured (m : Material α) : Measurement α → Material α
  | .manual grams => { m with
      actualTotal := some grams
      entryMode := some .manual
      weighedBefore := none
      weighedAfter := none }
  | .weighing before after => { m with
      actualTotal := some (Scalar.positivePart (before - after))
      entryMode := some .weighing
      weighedBefore := some before
      weighedAfter := some after }

/-- Columns hold the numbers of the reading as they are. -/
structure Reading.Stored (r : Reading α) : Prop where
  actual : IsAmount r.actual
  before : storedOption r.before = r.before
  after : storedOption r.after = r.after

namespace Reading.Stored

variable {reading : Reading α}

theorem manual {grams : α} (h : IsAmount grams) :
    Reading.Stored ⟨.manual, grams, none, none⟩ :=
  ⟨h, rfl, rfl⟩

/-- The numbers of a measurement that is taken are amounts. -/
theorem of_measurement [StockScalar α] {measurement : Measurement α}
    (h : measurement.reading = .ok reading) : reading.Stored := by
  cases measurement with
  | manual grams =>
    obtain ⟨hgrams, rfl⟩ := Measurement.reading_manual.mp h
    exact .manual (isAmount_of_isNonNegative hgrams)
  | weighing before after =>
    obtain ⟨⟨hbefore, hafter⟩, -, rfl⟩ := Measurement.reading_weighing.mp h
    exact ⟨isAmount_positivePart _, storedOption_some (isAmount_of_isNonNegative hbefore),
      storedOption_some (isAmount_of_isNonNegative hafter)⟩

/-- All four columns are written, whatever was recorded before. -/
theorem record_eq (h : reading.Stored) (m : Material α) :
    m.record reading = { m with
      actualTotal := some reading.actual
      entryMode := some reading.mode
      weighedBefore := reading.before
      weighedAfter := reading.after } := by
  have hcolumns : m.record reading = { m with
      actualTotal := storedOption (some reading.actual)
      entryMode := some reading.mode
      weighedBefore := storedOption reading.before
      weighedAfter := storedOption reading.after } := rfl
  rw [hcolumns, storedOption_some h.actual, h.before, h.after]

theorem holds (h : reading.Stored) (now : Timestamp) (m : Material α) :
    (touchedMaterial now (m.record reading)).Holds (some reading) := by
  rw [h.record_eq]
  exact ⟨rfl, rfl, rfl, rfl⟩

end Reading.Stored

/-- A measurement that is taken sets the columns of its own mode, and empties those of the other. -/
theorem Material.record_eq_measured [StockScalar α] {measurement : Measurement α}
    {reading : Reading α} (h : measurement.reading = .ok reading) (m : Material α) :
    m.record reading = m.measured measurement := by
  rw [(Reading.Stored.of_measurement h).record_eq]
  cases measurement with
  | manual grams =>
    obtain ⟨-, rfl⟩ := Measurement.reading_manual.mp h
    rfl
  | weighing before after =>
    obtain ⟨-, -, rfl⟩ := Measurement.reading_weighing.mp h
    rfl

end Line

/-! ## What operations enter -/

section Entering

variable [Scalar α]

/-- What the operation enters on the line if it is accepted.  Where the line is removed, nothing is
left of it. -/
def Operation.entered? (t : Tables α) (line : Uuid) : Operation α → Option (Option (Reading α))
  | .recordActual _ id request =>
    if id = line then some (request.measurement.bind Measurement.reading).toOption else none
  | .resetActuals run =>
    (t.materials.find? fun m => m.id = line && m.run = run).map fun m =>
      some ⟨.manual, m.estimatedTotal, none, none⟩
  | .removeMaterial run id =>
    if id = line && t.materials.any (fun m => m.id = line && m.run = run) then some none else none
  | _ => none

/-- What was entered on the line, if the event was accepted and has entered something. -/
def Moment.entered? (line : Uuid) (m : Moment α) : Option (Option (Reading α)) :=
  if m.isAccepted then m.event.operation.entered? m.before.tables line else none

/-- What was last entered on the line. -/
def lastReading (line : Uuid) (past : List (Moment α)) : Option (Reading α) :=
  (past.filterMap (Moment.entered? line)).getLast?.getD none

theorem lastReading_concat {line : Uuid} {past : List (Moment α)} {m : Moment α} :
    lastReading line (past ++ [m]) = (m.entered? line).getD (lastReading line past) := by
  rw [lastReading, getLast?_filterMap_concat, Option.getD_or]
  rfl

/-- The lines hold what was last entered on them, and nothing was entered on a line that is not
there. -/
structure Tables.Records (t : Tables α) (last : Uuid → Option (Reading α)) : Prop where
  holds : ∀ m ∈ t.materials, m.Holds (last m.id)
  absent : ∀ id, (∀ m ∈ t.materials, m.id ≠ id) → last id = none

namespace Tables.Records

variable {t t' : Tables α} {last last' : Uuid → Option (Reading α)}

theorem fresh (start : Sequences) :
    Tables.Records (Database.fresh start : Database α).tables (fun line => lastReading line []) :=
  ⟨fun _ hm => absurd hm List.not_mem_nil, fun _ _ => rfl⟩

omit [Scalar α] in
/-- Nothing is entered on a line when it is added. -/
theorem of_added {new : List (Material α)} (h : t.Records last)
    (hmaterials : t'.materials = t.materials ++ new) (hlast : ∀ id, last' id = last id)
    (hnew : ∀ m ∈ new, m.Holds none ∧ ∀ l ∈ t.materials, l.id ≠ m.id) : t'.Records last' := by
  obtain rfl : last' = last := funext hlast
  refine ⟨fun m hm => ?_, fun id hid => h.absent id fun m hm => hid m ?_⟩
  · rw [hmaterials] at hm
    rcases List.mem_append.mp hm with hm | hm
    · exact h.holds m hm
    · obtain ⟨hnone, hids⟩ := hnew m hm
      rwa [h.absent _ hids]
  · rw [hmaterials]
    exact List.mem_append_left _ hm

omit [Scalar α] in
theorem of_eq (h : t.Records last) (hmaterials : t'.materials = t.materials)
    (hlast : ∀ id, last' id = last id) : t'.Records last' :=
  h.of_added (hmaterials.trans (List.append_nil _).symm) hlast (by simp)

omit [Scalar α] in
/-- The lines that change hold what is entered with the change. -/
theorem of_changed {selected : Material α → Bool} {change : Material α → Material α}
    (h : t.Records last) (hmaterials : t'.materials = changeRows selected change t.materials)
    (hid : ∀ m, (change m).id = m.id)
    (hchange : ∀ m ∈ t.materials, selected m = true → (change m).Holds (last' m.id))
    (hothers : ∀ m ∈ t.materials, selected m = false → last' m.id = last m.id)
    (habsent : ∀ id, (∀ m ∈ t.materials, m.id ≠ id) → last' id = last id) : t'.Records last' := by
  have hids : t'.materials.map Material.id = t.materials.map Material.id := by
    rw [hmaterials]
    exact map_changeRows fun m _ _ => hid m
  refine ⟨fun m hm => ?_, fun id hnone => ?_⟩
  · rw [hmaterials] at hm
    obtain ⟨l, hl, rfl⟩ := mem_changeRows.mp hm
    cases hselected : selected l with
    | true =>
      rw [if_pos rfl, hid]
      exact hchange l hl hselected
    | false =>
      rw [if_neg Bool.false_ne_true, hothers l hl hselected]
      exact h.holds l hl
  · have hold : ∀ m ∈ t.materials, m.id ≠ id := by
      intro m hm heq
      have hmem : id ∈ t'.materials.map Material.id := by
        rw [hids, ← heq]
        exact List.mem_map_of_mem hm
      obtain ⟨l, hl, hlid⟩ := List.mem_map.mp hmem
      exact hnone l hl hlid
    rw [habsent id hold, h.absent id hold]

/-- A line that was recorded holds the reading. -/
theorem recorded (h : t.Records last) {now : Timestamp} {line : Uuid} {reading : Reading α}
    (hstored : reading.Stored) (hline : ∃ m ∈ t.materials, m.id = line)
    (hmaterials : t'.materials = changeRows (fun m => m.id = line)
      (fun m => touchedMaterial now (m.record reading)) t.materials) :
    t'.Records fun id => if line = id then some reading else last id := by
  refine h.of_changed hmaterials (fun _ => rfl) (fun m _ hselected => ?_) (fun m _ hother => ?_)
    fun id hnone => ?_
  · rw [if_pos (of_decide_eq_true hselected).symm]
    exact hstored.holds now m
  · exact if_neg fun heq => of_decide_eq_false hother heq.symm
  · obtain ⟨m, hm, rfl⟩ := hline
    exact if_neg (hnone m hm)

/-- The lines of a run that was reset hold their estimates. -/
theorem reset (h : t.Records last) (hids : (t.materials.map Material.id).Nodup)
    (hestimates : ∀ m ∈ t.materials, IsAmount m.estimatedTotal) {now : Timestamp} {run : Uuid}
    (hmaterials : t'.materials = changeRows (fun m => m.run = run)
      (fun m => touchedMaterial now (m.record ⟨.manual, m.estimatedTotal, none, none⟩))
      t.materials) :
    t'.Records fun line => ((Operation.resetActuals run).entered? t line).getD (last line) := by
  refine h.of_changed hmaterials (fun _ => rfl) (fun m hm hselected => ?_) (fun m hm hother => ?_)
    fun id hnone => ?_
  · have hfound : t.materials.find? (fun l => l.id = m.id && l.run = run) = some m := by
      refine find?_of_unique hm (by simpa using hselected) fun l hl hsame => ?_
      exact eq_of_key_eq hids hl hm (of_decide_eq_true (Bool.and_eq_true_iff.mp hsame).1)
    rw [Operation.entered?, hfound]
    exact (Reading.Stored.manual (hestimates m hm)).holds now m
  · have hfound : t.materials.find? (fun l => l.id = m.id && l.run = run) = none := by
      refine List.find?_eq_none.mpr fun l hl hsame => ?_
      simp only [Bool.and_eq_true, decide_eq_true_eq] at hsame
      obtain rfl := eq_of_key_eq hids hl hm hsame.1
      exact of_decide_eq_false hother hsame.2
    rw [Operation.entered?, hfound]
    rfl
  · have hfound : t.materials.find? (fun l => l.id = id && l.run = run) = none :=
      List.find?_eq_none.mpr fun l hl hsame => hnone l hl
        (of_decide_eq_true (Bool.and_eq_true_iff.mp hsame).1)
    rw [Operation.entered?, hfound]
    rfl

/-- Nothing is left of what was entered on a line that was removed. -/
theorem removed (h : t.Records last) (hids : (t.materials.map Material.id).Nodup)
    {run line : Uuid}
    (hmaterials : t'.materials = t.materials.filter fun m => !(m.id = line && m.run = run)) :
    t'.Records fun id =>
      ((Operation.removeMaterial run line).entered? t id).getD (last id) := by
  refine ⟨fun m hm => ?_, fun id hnone => ?_⟩
  · rw [hmaterials] at hm
    obtain ⟨hm, hkept⟩ := List.mem_filter.mp hm
    have hother : (decide (line = m.id) &&
        t.materials.any fun l => l.id = m.id && l.run = run) = false := by
      refine Bool.eq_false_iff.mpr fun hgone => ?_
      obtain ⟨hline, hthere⟩ := Bool.and_eq_true_iff.mp hgone
      obtain ⟨l, hl, hsame⟩ := List.any_eq_true.mp hthere
      simp only [Bool.and_eq_true, decide_eq_true_eq] at hline hsame
      obtain rfl := eq_of_key_eq hids hl hm hsame.1
      simp [hline, hsame.2] at hkept
    show Material.Holds m ((if _ then _ else _ : Option (Option (Reading α))).getD (last m.id))
    rw [hother]
    exact h.holds m hm
  · show (if _ then _ else _ : Option (Option (Reading α))).getD (last id) = none
    split
    · rfl
    · rename_i hkept
      refine h.absent id fun m hm hid => hkept ?_
      have hgone : m ∉ t'.materials := fun hm' => hnone m hm' hid
      rw [hmaterials, List.mem_filter, not_and] at hgone
      have hsame := hgone hm
      simp only [Bool.not_eq_true, Bool.not_eq_false', Bool.and_eq_true, decide_eq_true_eq] at hsame
      rw [Bool.and_eq_true, List.any_eq_true]
      exact ⟨decide_eq_true (hsame.1.symm.trans hid), m, hm, by simp [hid, hsame.2]⟩

end Tables.Records

/-- The end of a run does not touch what was entered. -/
theorem Material.Holds.fixed {m : Material α} {reading : Option (Reading α)} (h : m.Holds reading)
    (now : Timestamp) (spools : List (Spool α)) : (fixedLine now spools m).Holds reading := by
  unfold fixedLine
  split
  · exact ⟨h.actual, h.mode, h.before, h.after⟩
  · exact h

theorem fixedLine_id (now : Timestamp) (spools : List (Spool α)) (m : Material α) :
    (fixedLine now spools m).id = m.id := by
  unfold fixedLine
  split <;> rfl

theorem Material.holds_row (now : Timestamp) (run id : Uuid) (new : NewMaterial α)
    (model total : α) : (materialRow now run id new model total).Holds none :=
  ⟨rfl, rfl, rfl, rfl⟩

/-- After an accepted operation, the lines hold what it has entered, and else what they held. -/
theorem Step.records [StockScalar α] {catalog : Catalog} {now : Timestamp} {t t' : Tables α}
    {op : Operation α} {last : Uuid → Option (Reading α)} (ht : t.Consistent) (hv : t.Valued)
    (hstep : Step catalog now t op t') (h : t.Records last) :
    t'.Records fun line => (op.entered? t line).getD (last line) := by
  cases hstep with
  | read hread => exact h.of_eq rfl fun id => by cases op <;> first | rfl | exact nomatch hread
  | createRun _ _ _ _ _ _ _ _ hmaterials hids =>
    refine h.of_added rfl (fun _ => rfl) fun m hm => ?_
    obtain ⟨new, -, hrow, -⟩ := exists_of_forall₂ hmaterials hm
    rw [List.map_append] at hids
    exact ⟨hrow ▸ Material.holds_row .., fun l hl => (List.nodup_append.mp hids).2.2 l.id
      (List.mem_map_of_mem hl) m.id (List.mem_map_of_mem hm)⟩
  | close _ _ hcloses =>
    have hentered : ∀ line, op.entered? t line = none := fun line => by cases hcloses <;> rfl
    simp only [hentered, Option.getD_none]
    exact h.of_changed rfl (fixedLine_id now t.spools) (fun m hm _ => (h.holds m hm).fixed ..)
      (fun _ _ _ => rfl) fun _ _ => rfl
  | addMaterial _ _ hrow _ hid =>
    refine h.of_added rfl (fun _ => rfl) fun m hm => ?_
    obtain rfl := List.mem_singleton.mp hm
    exact ⟨hrow ▸ Material.holds_row .., hid⟩
  | @recordActual run line request measurement reading m hmeasurement hreading _ hm hid =>
    have hentered : ∀ id, ((Operation.recordActual run line request).entered? t id).getD
        (last id) = if line = id then some reading else last id := by
      intro id
      rw [Operation.entered?, hmeasurement]
      show (if line = id then some measurement.reading.toOption else none).getD (last id) = _
      rw [hreading]
      split <;> rfl
    simp only [hentered]
    exact h.recorded (.of_measurement hreading) ⟨m, hm, hid⟩ rfl
  | resetActuals => exact h.reset ht.materialIds hv.estimates rfl
  | removeMaterial => exact h.removed ht.materialIds rfl
  | createSpool | updateRun | updateOutcome | createPlate | updatePlate | deletePlate =>
    exact h.of_eq rfl fun _ => rfl
  | movePlate hmoves => exact h.of_eq rfl fun _ => by cases hmoves <;> rfl

/-- Whatever operations were performed, the lines hold what was last entered on them. -/
theorem records_afterAll [StockScalar α] (start : Sequences) (events : List (Event α)) :
    ((Database.fresh start).afterAll events).tables.Records fun line =>
      lastReading line ((Database.fresh start).history events) := by
  refine (Database.history_induction
    (motive := fun past db : _ => db.tables.Valued ∧
      db.tables.Records fun line => lastReading line past)
    (.fresh start) ⟨.empty, .fresh start⟩ (fun past e db hdb h => ?_) events).2
  refine ⟨e.valued_after hdb h.1, ?_⟩
  rcases e.step_or_refused hdb with ⟨_, hrun, hstep⟩ | ⟨_, hrun, hsame⟩
  · have haccepted : (⟨e, db⟩ : Moment α).isAccepted = true := Moment.isAccepted_of_ok hrun
    simp only [lastReading_concat, Moment.entered?, if_pos haccepted]
    exact hstep.records hdb.consistent h.1 h.2
  · have hrefused : (⟨e, db⟩ : Moment α).isAccepted = false := Moment.isAccepted_of_error hrun
    simp only [lastReading_concat, Moment.entered?, hrefused, Bool.false_eq_true, if_false,
      Option.getD_none]
    exact h.2.of_eq (congrArg Tables.materials hsame) fun _ => rfl

end Entering

/-! ## What follows for a history -/

section Recording

open Tx

variable [Scalar α] {now : Timestamp} {db : Database α} {t : Tables α}

/-- A line in order has both weighings or none, and the spool did not gain weight. -/
theorem Material.Measured.problem?_ne {m : Material α} (h : m.Measured) :
    m.problem? ≠ some .incompletePair ∧ m.problem? ≠ some .gainedWeight := by
  rw [h.problem?_eq, Material.unmeasured?]
  split
  · exact ⟨nofun, nofun⟩
  · split <;> exact ⟨nofun, nofun⟩

/-- What is said of a line that was weighed is said of another one. -/
theorem Material.Holds.measured_of_weighed {m : Material α} {reading : Reading α}
    (h : m.Holds (some reading)) (hmode : reading.mode = .weighing) : m.unmeasured? = none := by
  have hweighed : m.entryMode = some .weighing := h.mode.trans (congrArg some hmode)
  have hactual : m.actualTotal = some reading.actual := h.actual
  simp [Material.unmeasured?, hactual, hweighed]

/-- Complaints about lines that are not measured name no line that is. -/
theorem Material.Complained.field_ne {l m : Material α} {fault : FieldError α}
    (h : l.Complained t fault) (hne : l.id ≠ m.id) :
    fault.field ≠ s!"materials.{m.id}.actual_total_weight" := by
  rw [h.field]
  intro hfield
  simp only [String.append_left_inj, String.append_right_inj] at hfield
  exact hne (Uuid.toString_inj.mp hfield)

variable [StockScalar α]

/-- If completing a run is refused for fields, there is a complaint for each line that is not
measured and no other. -/
theorem Event.faults_of_completion {catalog : Catalog} {run : Uuid} {faults : List (FieldError α)}
    (hdb : db.Sound) (hv : db.tables.Valued) (hmeasured : ∀ m ∈ db.tables.materials, m.Measured)
    (h : Event.result ⟨catalog, now, .completeRun run⟩ db = .error (.invalid faults)) :
    List.Forall₂ (Material.Complained db.tables)
      ((db.tables.materialsOf run).filter fun m => m.unmeasured?.isSome) faults := by
  have ht := hdb.consistent
  by_cases hfound : ∃ r ∈ db.tables.runs, r.id = run
  · obtain ⟨r, hr, rfl⟩ := hfound
    cases hstatus : r.status.isTerminal with
    | true =>
      rw [Event.result_of_ended ht hr hstatus rfl rfl] at h
      exact nomatch h
    | false =>
      have hprogress := RunStatus.isTerminal_eq_false.mp hstatus
      by_cases hnone : Workflow.completionComplaints (db.tables.linesOf r.id)
        (db.tables.itemsOf r.id) = []
      · have hcloses : Closes catalog now db.tables r (.completeRun r.id) _ _ _ := .complete hnone
        rcases Event.result_cases (e := ⟨catalog, now, .completeRun r.id⟩) hdb hv hr hprogress
          hcloses (positiveUsage_sorted _) with ⟨u, why, hfirst, hresult⟩ | ⟨-, hresult⟩
        · obtain rfl := Except.error.inj (hresult.symm.trans h)
          exact nomatch hfirst.lacks
        · rcases hresult with ⟨-, hresult⟩ | ⟨-, t', hresult, -⟩
          · exact nomatch hresult.symm.trans h
          · exact nomatch hresult.symm.trans h
      · rw [Event.result_of_refusal? (e := ⟨catalog, now, .completeRun r.id⟩)
          (Operation.refusal?_unmeasured ht hr hprogress hnone)] at h
        obtain rfl := Refusal.invalid.inj (Except.error.inj h)
        exact complained_completion ht hmeasured r.id
  · have hmissing : ∀ r ∈ db.tables.runs, r.id ≠ run := fun r hr hid => hfound ⟨r, hr, hid⟩
    rw [Event.result_of_missing rfl rfl hmissing] at h
    exact nomatch h

omit [StockScalar α] in
theorem gives_line_of_mem (hdb : db.tables.Consistent) {m : Material α}
    (hm : m ∈ db.tables.materials) : ∃ line, Gives (Store.line m.run m.id) db line db := by
  rcases gives_or_refuses (Store.line m.run m.id) db with ⟨line, db', h⟩ | ⟨why, db', h⟩
  · obtain rfl := (reads_line m.run m.id).gives h
    exact ⟨line, h⟩
  · exact absurd h (not_refuses_line hdb.lineSpools ⟨m, hm, rfl, rfl⟩)

/-- A measurement that is taken is recorded on every line of a run in progress. -/
theorem Operation.refusal?_recordActual (hdb : db.tables.Consistent) (hv : db.tables.Valued)
    {m : Material α} (hm : m ∈ db.tables.materials) (htakes : db.tables.Takes m.run)
    {request : MeasurementRequest α} {measurement : Measurement α} {reading : Reading α}
    (hmeasurement : request.measurement = .ok measurement)
    (hreading : measurement.reading = .ok reading) (catalog : Catalog) :
    refusal? ((recordActual m.run m.id request).perform catalog now) db = none := by
  obtain ⟨r, hr, hid, hprogress⟩ := htakes
  have hrun : Gives (runInProgress m.run "record material weight on") db r db := by
    rw [← hid]
    exact gives_runInProgress.mpr ⟨hdb.find_run hr, hprogress, rfl⟩
  obtain ⟨line, hline⟩ := gives_line_of_mem hdb hm
  have hactual := (Reading.Stored.of_measurement hreading).actual.notBelow
  have hrecord : Gives (Store.recordActual now m.id reading) db _ _ :=
    gives_changeMaterials.mpr
      ⟨fun l hl => Or.inr (acceptsMaterial_record (hv.figures l hl) hactual), rfl, rfl⟩
  rw [perform, refusal?_map, Workflow.recordActual, refusal?_atomically, hmeasurement,
    refusal?_check_ok, hreading, refusal?_check_ok, refusal?_bind_of_gives hrun,
    refusal?_bind_of_gives hline, refusal?_bind_of_gives hrecord,
    refusal?_bind_of_gives (gives_touchRun (u := ()).mpr rfl)]
  refine Option.eq_none_iff_forall_ne_some.mpr fun why hwhy => ?_
  obtain ⟨db', hrefused⟩ := refusal?_eq_some.mp hwhy
  -- the line keeps its identifier, its run and its spool
  refine absurd hrefused (not_refuses_line (fun l hl => ?_) ?_)
  · obtain ⟨n, hn, rfl⟩ := mem_changeRows.mp hl
    split <;> exact hdb.lineSpools n hn
  · refine ⟨_, mem_changeRows.mpr ⟨m, hm, rfl⟩, ?_⟩
    split <;> exact ⟨rfl, rfl⟩

/-- What is measured on a line of a run in progress takes the place of whatever was recorded. -/
theorem Event.result_recordActual (hdb : db.Sound) (hv : db.tables.Valued)
    {m : Material α} (hm : m ∈ db.tables.materials) (htakes : db.tables.Takes m.run)
    {request : MeasurementRequest α} {measurement : Measurement α} {reading : Reading α}
    (hmeasurement : request.measurement = .ok measurement)
    (hreading : measurement.reading = .ok reading) (catalog : Catalog) :
    Event.result ⟨catalog, now, .recordActual m.run m.id request⟩ db = .ok (Tables.touched now
      { db.tables with
        materials := changeRows (fun l => l.id = m.id)
          (fun l => touchedMaterial now (l.measured measurement)) db.tables.materials } m.run) := by
  obtain ⟨t', hresult, hstep⟩ := Event.result_of_accepted hdb
    (e := ⟨catalog, now, .recordActual m.run m.id request⟩)
    (Operation.refusal?_recordActual hdb.consistent hv hm htakes hmeasurement hreading catalog)
  rw [hresult]
  cases hstep with
  | read hread => exact nomatch hread
  | close _ _ hcloses => exact nomatch hcloses.ends?_eq
  | movePlate hmoves => exact nomatch hmoves
  | recordActual hsame hread =>
    obtain rfl := Except.ok.inj (hmeasurement.symm.trans hsame)
    obtain rfl := Except.ok.inj (hreading.symm.trans hread)
    simp only [Material.record_eq_measured hreading]

end Recording

/-- Whatever operations were performed: a line stands in one of three ways and holds what was
entered last, a line that was last weighed is not complained of when its run is to be completed, and
a measurement that is taken is recorded in the columns of its own mode and in no other. -/
theorem measurements_coherent (start : Sequences) (events : List (Event Float)) :
    let past := (Database.fresh start).history events
    let db := (Database.fresh start).afterAll events
    ∀ m ∈ db.tables.materials,
      ((∃! mode, m.Stands mode) ∧ m.Holds (lastReading m.id past) ∧
        m.problem? ≠ some .incompletePair ∧ m.problem? ≠ some .gainedWeight) ∧
      (∀ reading, lastReading m.id past = some reading → reading.mode = .weighing →
        ∀ catalog now run faults,
          Event.result ⟨catalog, now, .completeRun run⟩ db = .error (.invalid faults) →
            ∀ fault ∈ faults, fault.field ≠ s!"materials.{m.id}.actual_total_weight") ∧
      (db.tables.Takes m.run → ∀ request measurement reading,
        request.measurement = .ok measurement → measurement.reading = .ok reading →
          ∀ catalog now, Event.result ⟨catalog, now, .recordActual m.run m.id request⟩ db =
            .ok (Tables.touched now { db.tables with
              materials := changeRows (fun l => l.id = m.id)
                (fun l => touchedMaterial now (l.measured measurement)) db.tables.materials }
              m.run)) := by
  intro past db m hm
  obtain ⟨hsound, hvalued, -⟩ := staged_afterAll start events
  have hmeasured := measured_afterAll start events
  have hholds := (records_afterAll start events).holds m hm
  refine ⟨⟨(hmeasured m hm).existsUnique_stands, hholds, (hmeasured m hm).problem?_ne⟩, ?_, ?_⟩
  · intro reading hlast hmode catalog now run faults hresult fault hfault
    have hnone := (hlast ▸ hholds : m.Holds (some reading)).measured_of_weighed hmode
    have hfaults := Event.faults_of_completion hsound hvalued hmeasured hresult
    obtain ⟨l, hl, hcomplained⟩ := exists_of_forall₂ hfaults hfault
    obtain ⟨hl, hunmeasured⟩ := List.mem_filter.mp hl
    refine hcomplained.field_ne fun hid => ?_
    obtain rfl := eq_of_key_eq hsound.consistent.materialIds (List.mem_of_mem_filter hl) hm hid
    rw [hnone] at hunmeasured
    exact nomatch hunmeasured
  · intro htakes request measurement reading hmeasurement hreading catalog now
    exact Event.result_recordActual hsound hvalued hm htakes hmeasurement hreading catalog

end PrintFarm
