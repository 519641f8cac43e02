import PrintFarm.Proofs.Separation

/-!
# Runs that have ended

A run ends once, and then it and all it owns stay as they are.

* `Tables.Keeps` says what stays: the run but for its notes and the time of its last change, and
  the lists of its items, material lines, plates and deductions.  `Step.keeps` is the step lemma.
* `Step.status` says what may become of a status, and `settled_history` that a run passes through
  one status after which nothing follows.
* `Step.ended_cases` looks back from a run that has ended, and `ended_induction` proves what holds of
  all of them.
* `Operation.changes?` names the run that an operation changes, and `Operation.preflight` checks
  what is checked before the run is read.  `perform_preflight` says that these are the first checks,
  and `perform_ended` that an operation that passes them is refused where the run has ended.
-/

namespace PrintFarm

open Store Tx Operation

variable {α : Type}

/-! ## What stays -/

/-- The run `r` has become `r'`, which differs from it at most in the notes and in the time of the
last change, and everything that it owns is the same. -/
structure Tables.Keeps (t t' : Tables α) (r r' : Run α) : Prop where
  present : r' ∈ t'.runs
  record : { r' with notes := r.notes, updatedAt := r.updatedAt } = r
  items : t'.itemsOf r.id = t.itemsOf r.id
  materials : t'.materialsOf r.id = t.materialsOf r.id
  plates : t'.platesOf r.id = t.platesOf r.id
  deductions : t'.deductionsOf r.id = t.deductionsOf r.id

namespace Tables.Keeps

variable {t t₁ t₂ : Tables α} {r r₁ r₂ : Run α}

theorem refl (hr : r ∈ t.runs) : t.Keeps t r r :=
  ⟨hr, rfl, rfl, rfl, rfl, rfl⟩

/-- A run that is left alone is kept. -/
theorem of_leaves (h : t.Leaves t₁ r) : t.Keeps t₁ r r :=
  ⟨h.present, rfl, h.items, h.materials, h.plates, h.deductions⟩

theorem id_eq (h : t.Keeps t₁ r r₁) : r₁.id = r.id := by
  have hid := congrArg Run.id h.record
  exact hid

theorem status_eq (h : t.Keeps t₁ r r₁) : r₁.status = r.status := by
  have hstatus := congrArg Run.status h.record
  exact hstatus

theorem trans (h₁ : t.Keeps t₁ r r₁) (h₂ : t₁.Keeps t₂ r₁ r₂) : t.Keeps t₂ r r₂ := by
  have hid := h₁.id_eq
  refine ⟨h₂.present, ?_, ?_, ?_, ?_, ?_⟩
  · have hrecord := h₁.record
    rw [← h₂.record] at hrecord
    exact hrecord
  · exact (hid ▸ h₂.items).trans h₁.items
  · exact (hid ▸ h₂.materials).trans h₁.materials
  · exact (hid ▸ h₂.plates).trans h₁.plates
  · exact (hid ▸ h₂.deductions).trans h₁.deductions

end Tables.Keeps

/-! ## One step -/

/-- A run that takes changes is not one that has ended. -/
theorem Tables.Takes.ne [Scalar α] {t : Tables α} (ht : t.Consistent) {run : Uuid}
    (h : t.Takes run) {r : Run α} (hr : r ∈ t.runs) (hend : r.status.isTerminal = true) :
    run ≠ r.id := by
  intro h
  obtain rfl := h
  obtain ⟨q, hq, hid, hprogress⟩ := h
  obtain rfl := eq_of_key_eq ht.runIds hq hr hid
  rw [hprogress] at hend
  exact nomatch hend

variable [Scalar α]

/-- The patch of a run that has ended changes its notes alone. -/
theorem editedRun_of_notesOnly {now : Timestamp} {patch : RunPatch α}
    (h : patch.isNotesOnly = true) (r : Run α) :
    { editedRun now patch r with notes := r.notes, updatedAt := r.updatedAt } = r := by
  simp only [RunPatch.isNotesOnly, Bool.and_eq_true, Option.isNone_iff_eq_none] at h
  obtain ⟨⟨⟨⟨⟨⟨hduration, hstarted⟩, hestimated⟩, hprinter⟩, hslicer⟩, hbed⟩, hnozzle⟩ := h
  simp [editedRun, touchedRun, RunPatch.apply, storedOption, hduration, hstarted, hestimated,
    hprinter, hslicer, hbed, hnozzle]

/-- An accepted operation leaves a run that has ended as it is, and all it owns. -/
theorem Step.keeps {catalog : Catalog} {now : Timestamp} {t t' : Tables α} {op : Operation α}
    (ht : t.Consistent) (h : Step catalog now t op t') {r : Run α} (hr : r ∈ t.runs)
    (hend : r.status.isTerminal = true) : ∃ r', t.Keeps t' r r' := by
  by_cases hop : op.run? = some r.id
  · -- of the operations on the run itself, those that only read and new notes are accepted
    have hself : ∀ {run : Uuid}, t.Takes run → op.run? ≠ some run := by
      intro run htakes hrun
      exact htakes.ne ht hr hend (Option.some.inj (hrun.symm.trans hop))
    cases h with
    | read => exact ⟨r, .refl hr⟩
    | createSpool => exact nomatch hop
    | createRun => exact nomatch hop
    | @updateRun run patch q _ hq hrun hmutable _ =>
      obtain rfl := eq_of_key_eq ht.runIds hq hr (hrun.trans (Option.some.inj hop))
      rcases hmutable with hnotes | hprogress
      · refine ⟨editedRun now patch q, mem_changeRows.mpr ⟨q, hq, by simp [hrun]⟩, ?_, rfl, rfl,
          rfl, rfl⟩
        exact editedRun_of_notesOnly hnotes q
      · exact absurd rfl (hself ⟨q, hq, hrun, hprogress⟩)
    | @close _ q _ _ _ _ hq hprogress hcloses =>
      exact absurd (Operation.run?_of_ends? hcloses.ends?_eq) (hself ⟨q, hq, rfl, hprogress⟩)
    | movePlate hmoves htakes => exact absurd hmoves.run?_eq (hself htakes)
    | updateOutcome htakes => exact absurd rfl (hself htakes)
    | addMaterial _ htakes => exact absurd rfl (hself htakes)
    | recordActual _ _ htakes => exact absurd rfl (hself htakes)
    | resetActuals htakes => exact absurd rfl (hself htakes)
    | removeMaterial htakes => exact absurd rfl (hself htakes)
    | createPlate _ htakes => exact absurd rfl (hself htakes)
    | updatePlate _ htakes => exact absurd rfl (hself htakes)
    | deletePlate htakes => exact absurd rfl (hself htakes)
  · exact ⟨r, .of_leaves (h.leaves ht hr hop)⟩

/-! ## The way of a status -/

/-- The status of the run with that identifier, if there is one. -/
def Tables.statusOf (t : Tables α) (run : Uuid) : Option RunStatus :=
  (t.runs.find? fun r => r.id = run).map Run.status

theorem Tables.Consistent.statusOf_eq {t : Tables α} (ht : t.Consistent) {r : Run α}
    (hr : r ∈ t.runs) : t.statusOf r.id = some r.status := by
  rw [Tables.statusOf, ht.find_run hr]
  rfl

omit [Scalar α] in
/-- A change that keeps identifiers and statuses is not seen. -/
theorem statusOf_changeRows {t t' : Tables α} {selected : Run α → Bool} {change : Run α → Run α}
    (hruns : t'.runs = changeRows selected change t.runs) (hid : ∀ r, (change r).id = r.id)
    (hstatus : ∀ r, (change r).status = r.status) (run : Uuid) :
    t'.statusOf run = t.statusOf run := by
  unfold Tables.statusOf
  rw [hruns, find?_changeRows fun r _ _ => by rw [hid], Option.map_map]
  refine congrFun (congrArg Option.map (funext fun r => ?_)) _
  show Run.status (if selected r = true then change r else r) = r.status
  by_cases hsel : selected r = true
  · rw [if_pos hsel, hstatus]
  · rw [if_neg hsel]

/-- An accepted operation leaves the status of a run as it is, or creates the run in progress, or
ends it. -/
theorem Step.status {catalog : Catalog} {now : Timestamp} {t t' : Tables α} {op : Operation α}
    (ht : t.Consistent) (h : Step catalog now t op t') (run : Uuid) :
    t'.statusOf run = t.statusOf run ∨
      t.statusOf run = none ∧ t'.statusOf run = some .inProgress ∨
        op.ends? = some run ∧ t.statusOf run = some .inProgress ∧
          ∃ s, s.isTerminal = true ∧ t'.statusOf run = some s := by
  cases h with
  | read => exact Or.inl rfl
  | createSpool => exact Or.inl rfl
  | @createRun _ _ _ r _ _ _ hrow =>
    unfold Tables.statusOf
    rw [List.find?_append]
    cases hfind : t.runs.find? fun q => q.id = run with
    | some q => exact Or.inl rfl
    | none =>
      by_cases hsame : r.id = run
      · refine Or.inr (Or.inl ⟨rfl, ?_⟩)
        rw [List.find?_cons_of_pos (by simpa using hsame), hrow]
        rfl
      · refine Or.inl ?_
        rw [List.find?_cons_of_neg (by simpa using hsame)]
        rfl
  | @close _ r ending _ _ rows hr hprogress hcloses =>
    have hafter : (t.closed now r ending rows).statusOf run =
        ((t.runs.find? fun q => q.id = run).map fun q =>
          if decide (q.id = r.id) = true then endedRun now ending q else q).map Run.status :=
      congrArg (Option.map Run.status) (find?_changeRows fun _ _ _ => rfl)
    by_cases hsame : r.id = run
    · subst hsame
      have hfind : t.runs.find? (fun q => q.id = r.id) = some r := find?_of_nodup ht.runIds hr
      refine Or.inr (Or.inr
        ⟨hcloses.ends?_eq, ?_, ending.status, hcloses.isTerminal, hafter.trans ?_⟩)
      · rw [Tables.statusOf, hfind, Option.map_some, hprogress]
      · rw [hfind, Option.map_some, Option.map_some, if_pos (by simp)]
        rfl
    · refine Or.inl (hafter.trans ?_)
      unfold Tables.statusOf
      cases hfind : t.runs.find? fun q => q.id = run with
      | none => rfl
      | some q =>
        have hq : q.id = run := by simpa using List.find?_some hfind
        have hother : ¬q.id = r.id := fun heq => hsame (heq.symm.trans hq)
        rw [Option.map_some, Option.map_some, Option.map_some, if_neg (by simpa using hother)]
  | _ =>
    refine Or.inl (statusOf_changeRows rfl ?_ ?_ run)
    · exact fun _ => rfl
    · exact fun _ => rfl

/-- The operation ends the run `r` for which `rows` are journaled. -/
structure EndsRun (catalog : Catalog) (now : Timestamp) (t t' : Tables α) (op : Operation α)
    (r : Run α) (ending : RunEnding α) (reason : DeductionReason) (usage : UsageTable α)
    (rows : List (Deduction α)) : Prop where
  present : r ∈ t.runs
  inProgress : r.status = .inProgress
  closes : Closes catalog now t r op ending reason usage
  deducted : List.Forall₂ (Ledger.Deducted now r.id ending.status reason t.spools) usage rows
  tables : t' = t.closed now r ending rows

/-- A run that has ended after a step is the one that the step ends, or it had ended before and is
kept. -/
theorem Step.ended_cases {catalog : Catalog} {now : Timestamp} {t t' : Tables α}
    {op : Operation α} (ht : t.Consistent) (ht' : t'.Consistent)
    (h : Step catalog now t op t') {r' : Run α} (hr' : r' ∈ t'.runs)
    (hend' : r'.status.isTerminal = true) :
    (∃ r ending reason usage rows, EndsRun catalog now t t' op r ending reason usage rows ∧
      r' = endedRun now ending r) ∨
    (op.ends? ≠ some r'.id ∧ ∃ r ∈ t.runs, r.status.isTerminal = true ∧ t.Keeps t' r r') := by
  by_cases hends : op.ends? = some r'.id
  · obtain ⟨r, ending, reason, usage, rows, hid, hr, hprogress, hcloses, hrows, htables⟩ :=
      h.closes hends
    have hmem : endedRun now ending r ∈ t'.runs := by
      rw [htables]
      exact mem_changeRows.mpr ⟨r, hr, by simp⟩
    have hself : r' = endedRun now ending r := eq_of_key_eq ht'.runIds hr' hmem hid.symm
    exact Or.inl ⟨r, ending, reason, usage, rows, ⟨hr, hprogress, hcloses, hrows, htables⟩, hself⟩
  · refine Or.inr ⟨hends, ?_⟩
    have hnow : t'.statusOf r'.id = some r'.status := ht'.statusOf_eq hr'
    obtain ⟨r, hr, hid, hend⟩ : ∃ r ∈ t.runs, r.id = r'.id ∧ r.status.isTerminal = true := by
      rcases h.status ht r'.id with hsame | ⟨-, hnew⟩ | ⟨hop, -⟩
      · rw [hnow, Tables.statusOf] at hsame
        obtain ⟨r, hr, hstatus⟩ := Option.map_eq_some_iff.mp hsame.symm
        refine ⟨r, List.mem_of_find?_eq_some hr, by simpa using List.find?_some hr, ?_⟩
        rw [hstatus]
        exact hend'
      · rw [hnow] at hnew
        rw [Option.some.inj hnew] at hend'
        exact nomatch hend'
      · exact absurd hop hends
    obtain ⟨r₁, hkeeps⟩ := h.keeps ht hr hend
    obtain rfl := eq_of_key_eq ht'.runIds hkeeps.present hr' (hkeeps.id_eq.trans hid)
    exact ⟨r, hr, hend, hkeeps⟩

/-! ## Operations on a run that has ended -/

namespace Operation

/-- The run that an operation changes if it is accepted, and what it does to it.  Notes alone do not
count as a change. -/
def changes? : Operation α → Option (Uuid × String)
  | .updateRun id patch => if patch.isNotesOnly then none else some (id, "edit")
  | .completeRun id => some (id, "complete")
  | .cancelRun id _ => some (id, "cancel")
  | .failRun id _ => some (id, "fail")
  | .updateOutcome id _ _ => some (id, "edit items of")
  | .addMaterial id _ => some (id, "add material to")
  | .recordActual id _ _ => some (id, "record material weight on")
  | .resetActuals id => some (id, "reset materials of")
  | .removeMaterial id _ => some (id, "remove material from")
  | .createPlate id _ => some (id, "add plate to")
  | .updatePlate id _ _ => some (id, "edit plates of")
  | .deletePlate id _ => some (id, "delete plates of")
  | .startPlate id _ => some (id, "start plate in")
  | .completePlate id _ _ => some (id, "complete plate in")
  | .failPlate id _ _ => some (id, "fail plate in")
  | .cancelPlate id _ _ => some (id, "cancel plate in")
  | .createSpool _ | .listSpools | .listReasons | .createRun _ | .listRuns _ | .showRun _
  | .listDeductions _ | .listPlates _ => none

/-- What is checked of an operation on a run before the run is read. -/
def preflight (catalog : Catalog) : Operation α → Except (Refusal α) Unit
  | .updateRun _ patch => refuseIfAny patch.complaints
  | .cancelRun _ request => request.deductible.map fun _ => ()
  | .failRun _ request =>
    refuseIfAny (Workflow.failureComplaints catalog request.reason (positiveUsage request.waste))
  | .addMaterial _ new => refuseIfAny (new.complaints "")
  | .recordActual _ _ request => do
    let measurement ← request.measurement
    let _ ← measurement.reading
  | .createPlate _ new => refuseIfAny new.complaints
  | .updatePlate _ _ patch => refuseIfAny patch.complaints
  | .completePlate _ _ report => refuseIfAny report.complaints
  | _ => .ok ()

/-- A measurement passes if it can be read. -/
theorem preflight_recordActual_eq_ok {catalog : Catalog} {run material : Uuid}
    {request : MeasurementRequest α} :
    (recordActual run material request).preflight catalog = .ok () ↔
      ∃ measurement reading, request.measurement = .ok measurement ∧
        measurement.reading = .ok reading := by
  rw [preflight]
  cases request.measurement with
  | error why => exact ⟨(nomatch ·), fun ⟨_, _, h, _⟩ => nomatch h⟩
  | ok measurement =>
    show (measurement.reading >>= fun _ => pure ()) = .ok () ↔ _
    cases hreading : measurement.reading with
    | error why =>
      refine ⟨(nomatch ·), fun ⟨_, _, hm, hr⟩ => ?_⟩
      obtain rfl := Except.ok.inj hm
      exact nomatch hreading.symm.trans hr
    | ok reading => exact ⟨fun _ => ⟨measurement, reading, rfl, hreading⟩, fun _ => rfl⟩

end Operation

section Refusing

variable {β γ : Type} {db : Database α} {why : Refusal α}

omit [Scalar α] in
/-- A transaction whose body is refused before it has done anything changes nothing. -/
theorem refuses_atomically_at_once {body : Tx α β} (h : Refuses body db why db) :
    Refuses (atomically body) db why db :=
  refuses_atomically.mpr ⟨db, h, rfl⟩

omit [Scalar α] in
/-- A check that is passed leaves the refusal to what follows. -/
theorem refuses_after_check {outcome : Except (Refusal α) β} {b : β} {rest : β → Tx α γ}
    (hok : outcome = .ok b) (h : Refuses (rest b) db why db) :
    Refuses (check outcome >>= rest) db why db :=
  refuses_bind.mpr (Or.inr ⟨b, db, gives_check.mpr ⟨hok, rfl⟩, h⟩)

omit [Scalar α] in
/-- What is refused at once is refused whatever would follow. -/
theorem refuses_first {x : Tx α β} {rest : β → Tx α γ} (h : Refuses x db why db) :
    Refuses (x >>= rest) db why db :=
  refuses_bind.mpr (Or.inl h)

omit [Scalar α] in
/-- A check that fails is what is refused. -/
theorem refuses_at_check {outcome : Except (Refusal α) β} {rest : β → Tx α γ}
    (hfault : outcome = .error why) : Refuses (check outcome >>= rest) db why db :=
  refuses_first (refuses_check.mpr ⟨hfault, rfl⟩)

omit [Scalar α] in
/-- The run that ends is read before its status is checked. -/
theorem refuses_checkMove {run : Uuid} {r : Run α} {next : RunStatus} {action : String}
    {rest : Run α → Unit → Tx α γ} (hr : db.tables.runs.find? (fun r => r.id = run) = some r)
    (hend : r.status.isTerminal = true) :
    Refuses (Store.run run >>= fun r => check (r.checkMove next action) >>= rest r) db
      (r.illegal action) db := by
  refine refuses_bind.mpr (Or.inr ⟨r, db, gives_run.mpr ⟨hr, rfl⟩, ?_⟩)
  exact refuses_first (refuses_check.mpr ⟨Run.checkMove_eq_error.mpr ⟨Or.inl hend, rfl⟩, rfl⟩)

end Refusing

/-- What is checked before the run is read is checked first: an operation that does not pass is
refused for it, whatever there is in the database, and nothing changes. -/
theorem perform_preflight {catalog : Catalog} {now : Timestamp} {op : Operation α}
    {db : Database α} {why : Refusal α} (h : op.preflight catalog = .error why) :
    (op.perform catalog now).run db = (.error why, db) := by
  show Refuses (op.perform catalog now) db why db
  cases op with
  | updateRun | failRun | addMaterial | createPlate | updatePlate =>
    exact refuses_map.mpr (refuses_atomically_at_once (refuses_at_check h))
  | completePlate => exact refuses_map.mpr (refuses_at_check h)
  | cancelRun id request =>
    cases hdeductible : request.deductible with
    | ok usage =>
      rw [preflight, hdeductible] at h
      exact nomatch h
    | error fault =>
      rw [preflight, hdeductible] at h
      obtain rfl := Except.error.inj h
      exact refuses_map.mpr (refuses_atomically_at_once (refuses_at_check hdeductible))
  | recordActual id material request =>
    rw [preflight] at h
    cases hmeasurement : request.measurement with
    | error fault =>
      rw [hmeasurement] at h
      obtain rfl := Except.error.inj h
      exact refuses_map.mpr (refuses_atomically_at_once (refuses_at_check hmeasurement))
    | ok measurement =>
      rw [hmeasurement] at h
      have hread : (measurement.reading >>= fun _ => pure ()) = .error why := h
      cases hreading : measurement.reading with
      | ok reading =>
        rw [hreading] at hread
        exact nomatch hread
      | error fault =>
        rw [hreading] at hread
        obtain rfl := Except.error.inj hread
        refine refuses_map.mpr (refuses_atomically_at_once ?_)
        exact refuses_after_check hmeasurement (refuses_at_check hreading)
  | _ => exact nomatch h

/-- An operation that would change a run that has ended, and has passed the checks that need no run,
is refused for the status of the run, and nothing changes. -/
theorem perform_ended {catalog : Catalog} {now : Timestamp} {op : Operation α} {db : Database α}
    (hdb : db.tables.Consistent) {r : Run α} (hr : r ∈ db.tables.runs)
    (hend : r.status.isTerminal = true) {action : String}
    (hchange : op.changes? = some (r.id, action)) (hpreflight : op.preflight catalog = .ok ()) :
    (op.perform catalog now).run db =
      (.error (.illegalTransition .run r.id r.status.word action), db) := by
  have hfind := hdb.find_run hr
  have hguard : ∀ {action : String}, Refuses (Store.runInProgress r.id action) db
      (r.illegal action) db := refuses_runInProgress hfind hend
  show Refuses (op.perform catalog now) db (r.illegal action) db
  cases op with
  | createSpool | listSpools | listReasons | createRun | listRuns | showRun | listDeductions
  | listPlates => exact nomatch hchange
  | updateRun id patch =>
    have hnotes : patch.isNotesOnly = false := by
      cases hnotes : patch.isNotesOnly with
      | false => rfl
      | true =>
        rw [changes?, if_pos hnotes] at hchange
        exact nomatch hchange
    rw [changes?, if_neg (by simp [hnotes])] at hchange
    obtain ⟨rfl, rfl⟩ := Prod.mk.inj (Option.some.inj hchange)
    refine refuses_map.mpr (refuses_atomically_at_once (refuses_after_check hpreflight ?_))
    refine refuses_bind.mpr (Or.inr ⟨r, db, gives_run.mpr ⟨hfind, rfl⟩, ?_⟩)
    rw [hnotes]
    exact refuses_first (refuses_check.mpr ⟨Run.checkMutable_eq_error.mpr ⟨hend, rfl⟩, rfl⟩)
  | completeRun id =>
    obtain ⟨rfl, rfl⟩ := Prod.mk.inj (Option.some.inj hchange)
    exact refuses_map.mpr (refuses_atomically_at_once (refuses_checkMove hfind hend))
  | cancelRun id request =>
    obtain ⟨rfl, rfl⟩ := Prod.mk.inj (Option.some.inj hchange)
    cases hdeductible : request.deductible with
    | error fault =>
      rw [preflight, hdeductible] at hpreflight
      exact nomatch hpreflight
    | ok usage =>
      refine refuses_map.mpr (refuses_atomically_at_once ?_)
      exact refuses_after_check hdeductible (refuses_checkMove hfind hend)
  | failRun id request =>
    obtain ⟨rfl, rfl⟩ := Prod.mk.inj (Option.some.inj hchange)
    refine refuses_map.mpr (refuses_atomically_at_once ?_)
    exact refuses_after_check hpreflight (refuses_checkMove hfind hend)
  | updateOutcome id item outcome =>
    obtain ⟨rfl, rfl⟩ := Prod.mk.inj (Option.some.inj hchange)
    exact refuses_map.mpr (refuses_atomically_at_once (refuses_first hguard))
  | addMaterial id new =>
    obtain ⟨rfl, rfl⟩ := Prod.mk.inj (Option.some.inj hchange)
    refine refuses_map.mpr (refuses_atomically_at_once ?_)
    exact refuses_after_check hpreflight (refuses_first hguard)
  | recordActual id material request =>
    obtain ⟨rfl, rfl⟩ := Prod.mk.inj (Option.some.inj hchange)
    obtain ⟨measurement, reading, hmeasurement, hreading⟩ :=
      preflight_recordActual_eq_ok.mp hpreflight
    refine refuses_map.mpr (refuses_atomically_at_once ?_)
    exact refuses_after_check hmeasurement (refuses_after_check hreading (refuses_first hguard))
  | resetActuals id =>
    obtain ⟨rfl, rfl⟩ := Prod.mk.inj (Option.some.inj hchange)
    exact refuses_map.mpr (refuses_atomically_at_once (refuses_first hguard))
  | removeMaterial id material =>
    obtain ⟨rfl, rfl⟩ := Prod.mk.inj (Option.some.inj hchange)
    exact refuses_first (refuses_atomically_at_once (refuses_first hguard))
  | createPlate id new =>
    obtain ⟨rfl, rfl⟩ := Prod.mk.inj (Option.some.inj hchange)
    refine refuses_map.mpr (refuses_atomically_at_once ?_)
    exact refuses_after_check hpreflight (refuses_first hguard)
  | updatePlate id plate patch =>
    obtain ⟨rfl, rfl⟩ := Prod.mk.inj (Option.some.inj hchange)
    refine refuses_map.mpr (refuses_atomically_at_once ?_)
    exact refuses_after_check hpreflight (refuses_first hguard)
  | deletePlate id plate =>
    obtain ⟨rfl, rfl⟩ := Prod.mk.inj (Option.some.inj hchange)
    exact refuses_first (refuses_atomically_at_once (refuses_first hguard))
  | startPlate id plate =>
    obtain ⟨rfl, rfl⟩ := Prod.mk.inj (Option.some.inj hchange)
    exact refuses_map.mpr (refuses_atomically_at_once (refuses_first hguard))
  | completePlate id plate report =>
    obtain ⟨rfl, rfl⟩ := Prod.mk.inj (Option.some.inj hchange)
    refine refuses_map.mpr (refuses_after_check hpreflight ?_)
    exact refuses_atomically_at_once (refuses_first hguard)
  | failPlate id plate notes =>
    obtain ⟨rfl, rfl⟩ := Prod.mk.inj (Option.some.inj hchange)
    exact refuses_map.mpr (refuses_atomically_at_once (refuses_first hguard))
  | cancelPlate id plate notes =>
    obtain ⟨rfl, rfl⟩ := Prod.mk.inj (Option.some.inj hchange)
    exact refuses_map.mpr (refuses_atomically_at_once (refuses_first hguard))

/-! ## All steps -/

/-- What a run has ended as stays, and all it owns, whatever happens. -/
theorem keeps_afterAll {db : Database α} (hdb : db.Sound) {r : Run α} (hr : r ∈ db.tables.runs)
    (hend : r.status.isTerminal = true) (later : List (Event α)) :
    ∃ r', db.tables.Keeps (db.afterAll later).tables r r' := by
  induction later generalizing db r with
  | nil => exact ⟨r, .refl hr⟩
  | cons e later ih =>
    have hfirst : ∃ r₁, db.tables.Keeps (e.after db).tables r r₁ := by
      rcases e.step_or_refused hdb with ⟨_, -, hstep⟩ | ⟨_, -, hsame⟩
      · exact hstep.keeps hdb.consistent hr hend
      · rw [hsame]
        exact ⟨r, .refl hr⟩
    obtain ⟨r₁, h₁⟩ := hfirst
    obtain ⟨r₂, h₂⟩ := ih (e.sound_after hdb) h₁.present (h₁.status_eq ▸ hend)
    exact ⟨r₂, h₁.trans h₂⟩

/-- What holds of a run at its end, and is kept with a run that has ended, holds of every run that has
ended. -/
theorem ended_induction (invariant : Database α → Prop)
    {motive : List (Moment α) → Tables α → Run α → Prop} (start : Sequences)
    (hstart : invariant (.fresh start))
    (hafter : ∀ (e : Event α) db, db.Sound → invariant db → invariant (e.after db))
    (hends : ∀ past (e : Event α) db r ending reason usage rows, db.Sound → invariant db →
      (⟨e, db⟩ : Moment α).isAccepted = true →
      EndsRun e.catalog e.now db.tables (e.after db).tables e.operation r ending reason usage
        rows → motive (past ++ [⟨e, db⟩]) (e.after db).tables (endedRun e.now ending r))
    (hkeeps : ∀ past later t t' r r', t.Consistent → t'.Consistent → t.Keeps t' r r' →
      motive past t r → motive (past ++ later) t' r')
    (events : List (Event α)) :
    ∀ r ∈ ((Database.fresh start).afterAll events).tables.runs, r.status.isTerminal = true →
      motive ((Database.fresh start).history events)
        ((Database.fresh start).afterAll events).tables r := by
  suffices h : invariant ((Database.fresh start).afterAll events) ∧
      ∀ r ∈ ((Database.fresh start).afterAll events).tables.runs, r.status.isTerminal = true →
        motive ((Database.fresh start).history events)
          ((Database.fresh start).afterAll events).tables r from h.2
  refine Database.history_induction
    (motive := fun past db => invariant db ∧
      ∀ r ∈ db.tables.runs, r.status.isTerminal = true → motive past db.tables r)
    (.fresh start) ⟨hstart, fun r hr => absurd hr List.not_mem_nil⟩ (fun past e db hdb h => ?_)
    events
  obtain ⟨hinvariant, hended⟩ := h
  refine ⟨hafter e db hdb hinvariant, fun r' hr' hend' => ?_⟩
  rcases e.step_or_refused hdb with ⟨_, hrun, hstep⟩ | ⟨_, -, hsame⟩
  · have hnext := (e.sound_after hdb).consistent
    rcases hstep.ended_cases hdb.consistent hnext hr' hend' with
      ⟨r, ending, reason, usage, rows, hthis, rfl⟩ | ⟨-, r, hr, hend, hkept⟩
    · have haccepted : (⟨e, db⟩ : Moment α).isAccepted = true := Moment.isAccepted_of_ok hrun
      exact hends past e db r ending reason usage rows hdb hinvariant haccepted hthis
    · exact hkeeps past _ _ _ r r' hdb.consistent hnext hkept (hended r hr hend)
  · rw [hsame] at hr' ⊢
    exact hkeeps past _ _ _ r' r' hdb.consistent hdb.consistent (.refl hr') (hended r' hr' hend')

/-- The statuses that a run was seen in after one moment and the other. -/
def statuses (run : Uuid) (past : List (Moment α)) : List RunStatus :=
  past.filterMap fun m => m.after.tables.statusOf run

/-- What the statuses of a run were that has now the status `now?`: it was in progress for some
time, and then it had its present status. -/
def Settled (seen : List RunStatus) : Option RunStatus → Prop
  | none => seen = []
  | some s => ∃ n m, seen = List.replicate (n + 1) .inProgress ++ List.replicate m s

theorem Settled.stays {seen : List RunStatus} {now? : Option RunStatus} (h : Settled seen now?) :
    Settled (seen ++ now?.toList) now? := by
  cases now? with
  | none =>
    obtain rfl : seen = [] := h
    rfl
  | some s =>
    obtain ⟨n, m, rfl⟩ := h
    refine ⟨n, m + 1, ?_⟩
    rw [List.append_assoc]
    exact congrArg _ List.replicate_succ'.symm

theorem Settled.ends {seen : List RunStatus} (h : Settled seen (some .inProgress)) (s : RunStatus) :
    Settled (seen ++ [s]) (some s) := by
  obtain ⟨n, m, rfl⟩ := h
  rw [List.replicate_append_replicate, Nat.add_right_comm]
  exact ⟨n + m, 1, rfl⟩

omit [Scalar α] in
/-- What an event may do to a status settles it. -/
theorem Settled.of_status {seen : List RunStatus} {op : Operation α} {t t' : Tables α}
    {run : Uuid}
    (h : Settled seen (t.statusOf run))
    (hstatus : t'.statusOf run = t.statusOf run ∨
      t.statusOf run = none ∧ t'.statusOf run = some .inProgress ∨
        op.ends? = some run ∧ t.statusOf run = some .inProgress ∧
          ∃ s, s.isTerminal = true ∧ t'.statusOf run = some s) :
    Settled (seen ++ (t'.statusOf run).toList) (t'.statusOf run) := by
  rcases hstatus with hsame | ⟨hnone, hnew⟩ | ⟨-, hprogress, s, -, hend⟩
  · rw [hsame]
    exact h.stays
  · rw [hnone] at h
    obtain rfl : seen = [] := h
    rw [hnew]
    exact ⟨0, 0, rfl⟩
  · rw [hprogress] at h
    rw [hend]
    exact h.ends s

theorem settled_history (start : Sequences) (events : List (Event α)) (run : Uuid) :
    Settled (statuses run ((Database.fresh start).history events))
      (((Database.fresh start).afterAll events).tables.statusOf run) := by
  refine Database.history_induction
    (motive := fun past db => Settled (statuses run past) (db.tables.statusOf run))
    (.fresh start) rfl (fun past e db hdb h => ?_) events
  have hmoment : statuses run (past ++ [⟨e, db⟩]) =
      statuses run past ++ ((e.after db).tables.statusOf run).toList := by
    rw [statuses, List.filterMap_append]
    rfl
  rw [hmoment]
  rcases e.step_or_refused hdb with ⟨_, -, hstep⟩ | ⟨_, -, hsame⟩
  · exact h.of_status (hstep.status hdb.consistent run)
  · rw [hsame]
    exact h.stays

/-- A run ends at most once, and then it is frozen: it was in progress as long as it was seen, and
then it was seen as what it has ended as; from then on nothing about it changes but its notes; and
an operation that would change it is refused for its status and changes nothing. -/
theorem ended_runs_frozen (start : Sequences) (events : List (Event α)) :
    let db := (Database.fresh start).afterAll events
    (∀ run, statuses run ((Database.fresh start).history events) = [] ∨
      ∃ n m s, s.isTerminal = true ∧ statuses run ((Database.fresh start).history events) =
        List.replicate (n + 1) .inProgress ++ List.replicate m s) ∧
    ∀ r ∈ db.tables.runs, r.status.isTerminal = true →
      (∀ later, ∃ r', db.tables.Keeps (db.afterAll later).tables r r') ∧
      ∀ (e : Event α) (action : String), e.operation.changes? = some (r.id, action) →
        e.operation.preflight e.catalog = .ok () →
        e.run db = (.error (.illegalTransition .run r.id r.status.word action), db) := by
  have hsound := Database.sound_afterAll (Database.Sound.fresh (α := α) start) events
  refine ⟨fun run => ?_, fun r hr hend => ⟨keeps_afterAll hsound hr hend, ?_⟩⟩
  · have hsettled := settled_history start events run
    cases hnow : ((Database.fresh start).afterAll events).tables.statusOf run with
    | none =>
      rw [hnow] at hsettled
      exact Or.inl hsettled
    | some s =>
      rw [hnow] at hsettled
      obtain ⟨n, m, hseen⟩ := hsettled
      cases hend : s.isTerminal with
      | true => exact Or.inr ⟨n, m, s, hend, hseen⟩
      | false =>
        rw [RunStatus.isTerminal_eq_false.mp hend, List.replicate_append_replicate,
          Nat.add_right_comm] at hseen
        exact Or.inr ⟨n + m, 0, .completed, rfl, hseen.trans (List.append_nil _).symm⟩
  · exact fun e action hchange hpreflight =>
      perform_ended hsound.consistent hr hend hchange hpreflight

end PrintFarm
