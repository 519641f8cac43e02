import PrintFarm.Proofs.Frozen

/-!
# Operations on rows of other runs

An operation that is addressed to one run may name an item, a material line or a plate of another
run.  Such an operation is refused before it has done anything (`perform_foreign`): the row is
looked for in the run, and it is not there.

* `Operation.child?` is the row that an operation names, and `Tables.Owns` says to which run a row
  belongs.
* `runs_apart` puts together what other operations do to a run: nothing.
-/

namespace PrintFarm

open Store Tx Operation

variable {α : Type}

/-! ## Rows within runs -/

/-- The row within its run that an operation names. -/
def Operation.child? : Operation α → Option (Entity × Uuid)
  | .updateOutcome _ id _ => some (.item, id)
  | .recordActual _ id _ | .removeMaterial _ id => some (.material, id)
  | .updatePlate _ id _ | .deletePlate _ id | .startPlate _ id | .completePlate _ id _
  | .failPlate _ id _ | .cancelPlate _ id _ => some (.plate, id)
  | _ => none

/-- The run has a row of that kind with that identifier. -/
def Tables.Owns (t : Tables α) (run : Uuid) (kind : Entity) (id : Uuid) : Prop :=
  match kind with
  | .item => ∃ i ∈ t.items, i.id = id ∧ i.run = run
  | .material => ∃ m ∈ t.materials, m.id = id ∧ m.run = run
  | .plate => ∃ p ∈ t.plates, p.id = id ∧ p.run = run
  | .run | .spool => False

section Lookup

variable {ρ : Type} {idOf runOf : ρ → Uuid} {rows : List ρ}

/-- A row is not found in a run that it does not belong to. -/
theorem not_hit_of_run {run : Uuid} {x : ρ} (hids : (rows.map idOf).Nodup) (hx : x ∈ rows)
    (hother : runOf x ≠ run) :
    ∀ y ∈ rows, (decide (idOf y = idOf x) && decide (runOf y = run)) = false := by
  intro y hy
  by_cases hid : idOf y = idOf x
  · obtain rfl := eq_of_key_eq hids hy hx hid
    simp [hother]
  · simp [hid]

theorem find?_eq_none_of_run {run : Uuid} {x : ρ} (hids : (rows.map idOf).Nodup) (hx : x ∈ rows)
    (hother : runOf x ≠ run) :
    rows.find? (fun y => idOf y = idOf x && runOf y = run) = none :=
  (find?_key_eq_none hids hx).mpr (decide_eq_false hother)

end Lookup

/-! ## Refusals within a run -/

section Refusing

variable {β γ : Type} {db : Database α} {run id : Uuid}

/-- A plate that is looked for in the wrong run is refused. -/
theorem refuses_plate
    (h : db.tables.plates.find? (fun p => p.id = id && p.run = run) = none) :
    Refuses (Store.plate run id) db (.notFound .plate id) db := by
  refine refuses_bind.mpr (Or.inr ⟨none, db, gives_plate?.mpr ⟨h.symm, rfl⟩, ?_⟩)
  exact refuses_refuse.mpr ⟨rfl, rfl⟩

/-- So is an item. -/
theorem refuses_item {rest : Item α → Tx α β}
    (h : db.tables.items.find? (fun i => i.id = id && i.run = run) = none) :
    Refuses (do let i ← expect (← item? run id) (.notFound .item id); rest i) db
      (.notFound .item id) db := by
  refine refuses_bind.mpr (Or.inr ⟨none, db, gives_item?.mpr ⟨h.symm, rfl⟩, ?_⟩)
  exact refuses_first (refuses_refuse.mpr ⟨rfl, rfl⟩)

/-- And a material line. -/
theorem refuses_line [Scalar α]
    (h : db.tables.materials.find? (fun m => m.id = id && m.run = run) = none) :
    Refuses (Store.line run id : Tx α _) db (.notFound .material id) db := by
  have hnone : (db.tables.materials.find? fun m => m.id = id && m.run = run).bind
      (priced? db.tables.spools) = none := by
    rw [h]
    rfl
  refine refuses_bind.mpr (Or.inr ⟨none, db, gives_material?.mpr ⟨hnone.symm, rfl⟩, ?_⟩)
  exact refuses_first (refuses_refuse.mpr ⟨rfl, rfl⟩)

/-- A material line that is not in the run is not removed from it. -/
theorem refuses_deleteMaterial {rest : Tx α β}
    (h : ∀ m ∈ db.tables.materials, (decide (m.id = id) && decide (m.run = run)) = false) :
    Refuses (do
      let hits ← deleteMaterial run id
      if hits = 0 then do
        refuse (.notFound .material id)
        rest
      else rest) db (.notFound .material id) db := by
  have hnone : db.tables.materials.countP (fun m => m.id = id && m.run = run) = 0 :=
    List.countP_eq_zero.mpr fun m hm => by rw [h m hm]; exact Bool.false_ne_true
  have hall : db.tables.materials.filter (fun m => !(m.id = id && m.run = run)) =
      db.tables.materials :=
    List.filter_eq_self.mpr fun m hm => by rw [h m hm]; rfl
  have hgives : Gives (deleteMaterial run id) db 0 db := by
    refine gives_deleteMaterial.mpr ⟨?_, hnone.symm⟩
    rw [hall]
  refine refuses_bind.mpr (Or.inr ⟨0, db, hgives, ?_⟩)
  exact refuses_first (refuses_refuse.mpr ⟨rfl, rfl⟩)

/-- The computation is refused and changes nothing, and if the run takes changes, this is because
of `why`. -/
def RefusesWithin (run : Uuid) (why : Refusal α) (body : Tx α β) (db : Database α) : Prop :=
  ∃ given, Refuses body db given db ∧ (db.tables.Takes run → given = why)

namespace RefusesWithin

variable {why : Refusal α} {body : Tx α β}

theorem atomically (h : RefusesWithin run why body db) :
    RefusesWithin run why (Tx.atomically body) db := by
  obtain ⟨given, hgiven, hwhy⟩ := h
  exact ⟨given, refuses_atomically_at_once hgiven, hwhy⟩

theorem map {f : β → γ} (h : RefusesWithin run why body db) :
    RefusesWithin run why (f <$> body) db := by
  obtain ⟨given, hgiven, hwhy⟩ := h
  exact ⟨given, refuses_map.mpr hgiven, hwhy⟩

theorem first {rest : β → Tx α γ} (h : RefusesWithin run why body db) :
    RefusesWithin run why (body >>= rest) db := by
  obtain ⟨given, hgiven, hwhy⟩ := h
  exact ⟨given, refuses_first hgiven, hwhy⟩

theorem after_check {outcome : Except (Refusal α) γ} {c : γ} {rest : γ → Tx α β}
    (hok : outcome = .ok c) (h : RefusesWithin run why (rest c) db) :
    RefusesWithin run why (check outcome >>= rest) db := by
  obtain ⟨given, hgiven, hwhy⟩ := h
  exact ⟨given, refuses_after_check hok hgiven, hwhy⟩

/-- What is done in a run is refused where the run is missing or has ended, and else by what is done
in it. -/
theorem runInProgress [Scalar α] (hdb : db.tables.Consistent) {action : String}
    {rest : Run α → Tx α β} (h : ∀ r, Refuses (rest r) db why db) :
    RefusesWithin run why (Store.runInProgress run action >>= rest) db := by
  cases hfind : db.tables.runs.find? fun r => r.id = run with
  | none =>
    refine ⟨.notFound .run run, ?_, fun htakes => ?_⟩
    · refine refuses_first (refuses_first (refuses_bind.mpr (Or.inr ⟨none, db, ?_, ?_⟩)))
      · exact gives_run?.mpr ⟨hfind.symm, rfl⟩
      · exact refuses_refuse.mpr ⟨rfl, rfl⟩
    · obtain ⟨r, hr, hid, -⟩ := htakes
      have hnot := List.find?_eq_none.mp hfind r hr
      simp [hid] at hnot
  | some r =>
    cases hend : r.status.isTerminal with
    | true =>
      refine ⟨r.illegal action, refuses_first (refuses_runInProgress hfind hend), fun htakes => ?_⟩
      have hid : r.id = run := by simpa using List.find?_some hfind
      exact absurd hid.symm (htakes.ne hdb (List.mem_of_find?_eq_some hfind) hend)
    | false =>
      have hprogress : r.status = .inProgress := RunStatus.isTerminal_eq_false.mp hend
      refine ⟨why, refuses_bind.mpr (Or.inr ⟨r, db, ?_, h r⟩), fun _ => rfl⟩
      exact gives_runInProgress.mpr ⟨hfind, hprogress, rfl⟩

end RefusesWithin

end Refusing

/-! ## Rows of other runs -/

variable [Scalar α]

/-- An operation on a row of another run is refused and changes nothing.  If it passes the checks
that need no run, and its own run takes changes, then the row is said to be missing. -/
theorem perform_foreign {catalog : Catalog} {now : Timestamp} {op : Operation α}
    {db : Database α} (hdb : db.tables.Consistent) {run owner id : Uuid} {kind : Entity}
    (hrun : op.run? = some run) (hchild : op.child? = some (kind, id))
    (howns : db.tables.Owns owner kind id) (hother : owner ≠ run) :
    ∃ why, (op.perform catalog now).run db = (.error why, db) ∧
      (op.preflight catalog = .ok () → db.tables.Takes run → why = .notFound kind id) := by
  cases hpreflight : op.preflight catalog with
  | error why => exact ⟨why, perform_preflight hpreflight, fun h => nomatch h⟩
  | ok u =>
    suffices RefusesWithin run (.notFound kind id) (op.perform catalog now) db by
      obtain ⟨why, hwhy, hsame⟩ := this
      exact ⟨why, hwhy, fun _ => hsame⟩
    have hmove : ∀ {next : PlateStatus} {action : String} {move : PlateMove α} {plate : Uuid},
        db.tables.Owns owner .plate plate →
        RefusesWithin run (.notFound .plate plate)
          (Workflow.movePlate now run plate next action move) db := by
      intro next action move plate howns
      obtain ⟨p, hp, rfl, rfl⟩ := howns
      refine (RefusesWithin.runInProgress hdb fun r => refuses_first ?_).atomically
      exact refuses_plate (find?_eq_none_of_run hdb.plateIds hp hother)
    cases op with
    | updateOutcome run' item outcome =>
      obtain rfl := Option.some.inj hrun
      obtain ⟨rfl, rfl⟩ := Prod.mk.inj (Option.some.inj hchild)
      obtain ⟨i, hi, rfl, rfl⟩ := howns
      refine (RefusesWithin.runInProgress hdb fun r => ?_).atomically.map
      exact refuses_item (find?_eq_none_of_run hdb.itemIds hi hother)
    | recordActual run' material request =>
      obtain rfl := Option.some.inj hrun
      obtain ⟨rfl, rfl⟩ := Prod.mk.inj (Option.some.inj hchild)
      obtain ⟨m, hm, rfl, rfl⟩ := howns
      obtain ⟨measurement, reading, hmeasurement, hreading⟩ :=
        preflight_recordActual_eq_ok.mp hpreflight
      refine RefusesWithin.map (.atomically (.after_check hmeasurement (.after_check hreading ?_)))
      refine RefusesWithin.runInProgress hdb fun r => refuses_first ?_
      exact refuses_line (find?_eq_none_of_run hdb.materialIds hm hother)
    | removeMaterial run' material =>
      obtain rfl := Option.some.inj hrun
      obtain ⟨rfl, rfl⟩ := Prod.mk.inj (Option.some.inj hchild)
      obtain ⟨m, hm, rfl, rfl⟩ := howns
      refine (RefusesWithin.runInProgress hdb fun r => ?_).atomically.first
      exact refuses_deleteMaterial (not_hit_of_run hdb.materialIds hm hother)
    | updatePlate run' plate patch =>
      obtain rfl := Option.some.inj hrun
      obtain ⟨rfl, rfl⟩ := Prod.mk.inj (Option.some.inj hchild)
      obtain ⟨p, hp, rfl, rfl⟩ := howns
      refine RefusesWithin.map (.atomically (.after_check hpreflight ?_))
      refine RefusesWithin.runInProgress hdb fun r => refuses_first ?_
      exact refuses_plate (find?_eq_none_of_run hdb.plateIds hp hother)
    | deletePlate run' plate =>
      obtain rfl := Option.some.inj hrun
      obtain ⟨rfl, rfl⟩ := Prod.mk.inj (Option.some.inj hchild)
      obtain ⟨p, hp, rfl, rfl⟩ := howns
      refine (RefusesWithin.runInProgress hdb fun r => refuses_first ?_).atomically.first
      exact refuses_plate (find?_eq_none_of_run hdb.plateIds hp hother)
    | startPlate run' plate =>
      obtain rfl := Option.some.inj hrun
      obtain ⟨rfl, rfl⟩ := Prod.mk.inj (Option.some.inj hchild)
      exact (hmove howns).map
    | completePlate run' plate report =>
      obtain rfl := Option.some.inj hrun
      obtain ⟨rfl, rfl⟩ := Prod.mk.inj (Option.some.inj hchild)
      exact ((hmove howns).after_check hpreflight).map
    | failPlate run' plate notes =>
      obtain rfl := Option.some.inj hrun
      obtain ⟨rfl, rfl⟩ := Prod.mk.inj (Option.some.inj hchild)
      exact (hmove howns).map
    | cancelPlate run' plate notes =>
      obtain rfl := Option.some.inj hrun
      obtain ⟨rfl, rfl⟩ := Prod.mk.inj (Option.some.inj hchild)
      exact (hmove howns).map
    | _ => exact nomatch hchild

/-- Runs do not interfere.  Whatever is asked that is not addressed to a run leaves the run, all it
owns and what it is shown as alone, whether it is accepted or not and whichever spools the runs
share.  And an operation that is addressed to one run and names a row of another is refused and
changes nothing; if its own run takes changes and it passes the checks that need no run, it is
refused because the row is not found. -/
theorem runs_apart (start : Sequences) (events : List (Event α)) :
    let db := (Database.fresh start).afterAll events
    (∀ r ∈ db.tables.runs, ∀ later : List (Event α),
      (∀ e ∈ later, e.operation.run? ≠ some r.id) →
        db.tables.Leaves (db.afterAll later).tables r ∧
          ∃ view, db.view r.id = .ok view ∧ (db.afterAll later).view r.id = .ok view) ∧
    ∀ (e : Event α) (owner run : Uuid) (kind : Entity) (id : Uuid), owner ≠ run →
      db.tables.Owns owner kind id → e.operation.run? = some run →
        e.operation.child? = some (kind, id) →
          ∃ why, e.run db = (.error why, db) ∧
            (e.operation.preflight e.catalog = .ok () → db.tables.Takes run →
              why = .notFound kind id) := by
  have hsound := Database.sound_afterAll (Database.Sound.fresh (α := α) start) events
  refine ⟨fun r hr later hlater => ?_, fun e owner run kind id hother howns hrun hchild => ?_⟩
  · have hleaves := leaves_afterAll hsound hr hlater
    have hlast := (Database.sound_afterAll hsound later).consistent
    have hview := Database.view_eq hsound.consistent hr
    have hsame := hleaves.view_eq hsound.consistent hlast hr
    exact ⟨hleaves, _, hview, hsame.trans hview⟩
  · exact perform_foreign hsound.consistent hrun hchild howns hother

end PrintFarm
